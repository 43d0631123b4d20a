import NestedVisor.Word.Field
import NestedVisor.Guest.Vmcs
import NestedVisor.Processor.Basic

/-!
Which model-specific registers the guest sees, where they live, and which values it may write.

`classify` is the allow-list and `accepts` the value check.  A register that `classify` denies
behaves as one that the processor does not implement.
-/

namespace NestedVisor.Exit

inductive MsrAccess where
  | read
  | write
  deriving DecidableEq, Repr

def MsrAccess.name : MsrAccess → String
  | .read => "Read"
  | .write => "Write"

/-- Where a register is served from. -/
inductive MsrHome where
  | hardware (writable : Bool)
  | vmcs (field : VmcsField)
  | featureControl
  | denied
  deriving DecidableEq, Repr

def MsrHome.text : MsrHome → String
  | .hardware true => "Hardware \x7b writable: true \x7d"
  | .hardware false => "Hardware \x7b writable: false \x7d"
  | .vmcs field => s!"Vmcs({field.toNat})"
  | .featureControl => "FeatureControl"
  | .denied => "Denied"

/-- Registers that the guest reads from and writes to the processor. -/
def guestOwnedMsrs : List Msr :=
  [.tscAux, .kernelGsBase, .star, .lstar, .cstar, .fmask]

/--
Registers that the guest may read but not write: the time stamp and the memory-type range
registers, on which memory typing depends.
-/
def readOnlyMsr (msr : Msr) : Bool :=
  msr == .timeStampCounter || msr == .mtrrCapability || msr == .mtrrDefaultType ||
    (Msr.mtrrPhysBase0 ≤ msr && msr ≤ Msr.mtrrPhysMask15) ||
    msr == .mtrrFix64K00000 || msr == .mtrrFix16K80000 || msr == .mtrrFix16KA0000 ||
    (Msr.mtrrFix4KC0000 ≤ msr && msr ≤ Msr.mtrrFix4KF8000)

/-- Registers that are guest-state fields of the control structure. -/
def vmcsMsrs : List (Msr × VmcsField) :=
  [(.fsBase, .fsBase), (.gsBase, .gsBase), (.efer, .efer), (.pat, .pat), (.debugctl, .debugctl),
    (.sysenterCs, .sysenterCs), (.sysenterEsp, .sysenterEsp), (.sysenterEip, .sysenterEip)]

def classify (msr : Msr) : MsrHome :=
  if msr ∈ guestOwnedMsrs then .hardware true
  else if readOnlyMsr msr then .hardware false
  else
    match vmcsMsrs.lookup msr with
    | some field => .vmcs field
    | none => if msr = .featureControl then .featureControl else .denied

/-! ## Values -/

/-- Registers that hold a linear address. -/
def addressMsrs : List Msr :=
  [.lstar, .cstar, .kernelGsBase, .fsBase, .gsBase, .sysenterEsp, .sysenterEip]

/-- SCE, LME, LMA and NXE. -/
def eferWritable : Word := 0xD01

/-- LBR, BTF and bits 15 to 6. -/
def debugctlWritable : Word := 0xFFC3

/-- UC, WC, WT, WP, WB and UC-. -/
def patTypes : List (BitVec 8) := [0, 1, 4, 5, 6, 7]

/-- The type in one of the eight entries of the page attribute table. -/
def patEntry (value : Word) (i : Nat) : BitVec 8 :=
  value.extractLsb' (8 * i) 8

/-- Whether a value can be written without a fault in the host or at the next VM entry. -/
def accepts (msr : Msr) (value : Word) : Bool :=
  if msr ∈ addressMsrs then Canonical value
  else if msr = .tscAux ∨ msr = .fmask then value >>> 32 = 0
  else if msr = .efer then value &&& ~~~eferWritable = 0
  else if msr = .pat then (List.range 8).all fun i => patTypes.contains (patEntry value i)
  else if msr = .debugctl then value &&& ~~~debugctlWritable = 0
  else true

/-- The feature control register as the guest sees it: locked, with VMX disabled. -/
def featureControlValue : Word := 1

end NestedVisor.Exit
