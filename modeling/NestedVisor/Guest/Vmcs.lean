import NestedVisor.Fault

/-!
The control structure of the current virtual CPU: its fields, and which accesses to them fail.

A field that was never written reads as zero.  A failing access changes nothing.
-/

namespace NestedVisor

abbrev VmcsField := BitVec 32

namespace VmcsField

/-! ## Field encodings -/

def eptPointer : VmcsField := 0x201A
def debugctl : VmcsField := 0x2802
def pat : VmcsField := 0x2804
def efer : VmcsField := 0x2806
def entryInterruptionInfo : VmcsField := 0x4016
def entryErrorCode : VmcsField := 0x4018
def exitReason : VmcsField := 0x4402
def exitInstructionLength : VmcsField := 0x440C
def activityState : VmcsField := 0x4826
def sysenterCs : VmcsField := 0x482A
def cr0ReadShadow : VmcsField := 0x6004
def cr4ReadShadow : VmcsField := 0x6006
def exitQualification : VmcsField := 0x6400
def cr0 : VmcsField := 0x6800
def cr3 : VmcsField := 0x6802
def cr4 : VmcsField := 0x6804
def fsBase : VmcsField := 0x680E
def gsBase : VmcsField := 0x6810
def rsp : VmcsField := 0x681C
def rip : VmcsField := 0x681E
def rflags : VmcsField := 0x6820
def sysenterEsp : VmcsField := 0x6824
def sysenterEip : VmcsField := 0x6826

end VmcsField

/-- The activity state of a virtual CPU that waits in HLT. -/
def activityHlt : Word := 1

/-- No instruction is longer than 15 bytes. -/
def maxInstructionLength : Nat := 15

structure Vmcs where
  /-- The fields that were written, each once. -/
  fields : List (VmcsField × Word) := []
  unreadable : List VmcsField := []
  unwritable : List VmcsField := []
  deriving DecidableEq, Repr

/-- One use of a field. -/
inductive Access where
  | read (field : VmcsField)
  | write (field : VmcsField)
  deriving DecidableEq, Repr

namespace Access

def field : Access → VmcsField
  | .read field => field
  | .write field => field

def Denied (v : Vmcs) : Access → Prop
  | .read field => field ∈ v.unreadable
  | .write field => field ∈ v.unwritable

instance (v : Vmcs) : DecidablePred (Denied v)
  | .read field => inferInstanceAs (Decidable (field ∈ v.unreadable))
  | .write field => inferInstanceAs (Decidable (field ∈ v.unwritable))

end Access

namespace Vmcs

/-- Replaces the value of a key, or adds the key at the end. -/
def putIn (key : VmcsField) (value : Word) : List (VmcsField × Word) → List (VmcsField × Word)
  | [] => [(key, value)]
  | (k, v) :: rest => if k = key then (k, value) :: rest else (k, v) :: putIn key value rest

def get (v : Vmcs) (field : VmcsField) : Word :=
  (v.fields.lookup field).getD 0

def put (v : Vmcs) (field : VmcsField) (value : Word) : Vmcs :=
  { v with fields := putIn field value v.fields }

theorem lookup_putIn (key : VmcsField) (value : Word) (l : List (VmcsField × Word))
    (field : VmcsField) :
    (putIn key value l).lookup field = if field = key then some value else l.lookup field := by
  induction l with
  | nil =>
      by_cases h : field = key
      · simp [putIn, h]
      · have : (field == key) = false := by simp [h]
        simp [putIn, List.lookup_cons, h, this]
  | cons head rest ih =>
      obtain ⟨k, v⟩ := head
      by_cases hk : k = key
      · subst hk
        by_cases h : field = k
        · simp [putIn, h]
        · have : (field == k) = false := by simp [h]
          simp [putIn, List.lookup_cons, h, this]
      · by_cases h : field = k
        · subst h
          simp [putIn, hk]
        · have : (field == k) = false := by simp [h]
          simp [putIn, List.lookup_cons, hk, this, ih]

@[simp] theorem get_put_self (v : Vmcs) (field : VmcsField) (value : Word) :
    (v.put field value).get field = value := by
  simp [get, put, lookup_putIn]

theorem get_put_of_ne (v : Vmcs) {field other : VmcsField} (value : Word) (h : other ≠ field) :
    (v.put field value).get other = v.get other := by
  simp [get, put, lookup_putIn, h]

def read (v : Vmcs) (field : VmcsField) : Except Fault Word :=
  if field ∈ v.unreadable then .error (.fieldAccess field) else .ok (v.get field)

def write (v : Vmcs) (field : VmcsField) (value : Word) : Except Fault Vmcs :=
  if field ∈ v.unwritable then .error (.fieldAccess field) else .ok (v.put field value)

/-! ## What an exit reports -/

/-- The full 32-bit exit-reason field. -/
def exitReason (v : Vmcs) : Except Fault (BitVec 32) :=
  (v.read .exitReason).map (·.setWidth 32)

def exitQualification (v : Vmcs) : Except Fault Word :=
  v.read .exitQualification

/-- The length of an instruction is refused outside 1 to 15. -/
def checkLength (length : Word) : Except Fault Word :=
  if 1 ≤ length.toNat ∧ length.toNat ≤ maxInstructionLength then .ok length
  else .error (.invalidInstructionLength length)

/-- The length of the instruction that exited. -/
def instructionLength (v : Vmcs) : Except Fault Word := do
  checkLength (← v.read .exitInstructionLength)

end Vmcs

end NestedVisor
