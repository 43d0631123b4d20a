import NestedVisor.Machine.Dispatch

/-!
# Running handlers

`exec` runs a handler on a machine, with one equation for each kind of step that a handler is made
of.  `captured` is the machine that the service of an exit begins with.
-/

namespace NestedVisor.Machine

open Exit

variable {α β : Type} {m m' : Machine} {h : Handler α} {f : α → Handler β} {a : α}

def exec (h : Handler α) (m : Machine) : Except Fault α × Machine :=
  h.run.run m

/-! ## Sequences -/

theorem exec_bind (h : Handler α) (f : α → Handler β) (m : Machine) :
    exec (h >>= f) m =
      match exec h m with
      | (.ok a, m') => exec (f a) m'
      | (.error fault, m') => (.error fault, m') := by
  rw [exec, exec, ExceptT.run_bind, StateT.run_bind]
  cases run : h.run.run m with
  | mk result m' =>
      cases result <;> rfl

theorem exec_bind_of_ok (first : exec h m = (.ok a, m')) :
    exec (h >>= f) m = exec (f a) m' := by
  rw [exec_bind, first]

/-! ## Single steps -/

@[simp] theorem exec_get (m : Machine) : exec get m = (.ok m, m) :=
  rfl

@[simp] theorem exec_modifyRegisters (change : Registers → Registers) (m : Machine) :
    exec (modifyRegisters change) m = (.ok (), { m with registers := change m.registers }) :=
  rfl

/-! ## Accesses -/

/-- The use of a field was tried. -/
def tried (m : Machine) (access : Access) : Machine :=
  { m with accesses := m.accesses ++ [access] }

@[simp] theorem vmcs_tried (m : Machine) (access : Access) : (m.tried access).vmcs = m.vmcs :=
  rfl

@[simp] theorem exec_readField (field : VmcsField) (m : Machine) :
    exec (readField field) m = (m.vmcs.read field, m.tried (.read field)) := by
  change exec (liftM (m.vmcs.read field) : Handler Word) (m.tried (.read field)) = _
  cases m.vmcs.read field <;> rfl

@[simp] theorem exec_writeField (field : VmcsField) (value : Word) (m : Machine) :
    exec (writeField field value) m =
      match m.vmcs.write field value with
      | .ok vmcs => (.ok (), { m.tried (.write field) with vmcs })
      | .error fault => (.error fault, m.tried (.write field)) := by
  change exec ((liftM (m.vmcs.write field value) : Handler Vmcs) >>= fun vmcs =>
    modify fun m => { m with vmcs }) (m.tried (.write field)) = _
  cases m.vmcs.write field value <;> rfl

theorem exec_writeFields (writes : List (VmcsField × Word)) (m : Machine) :
    ∃ accesses, exec (writeFields writes) m =
      ((m.vmcs.writeAll writes).1,
        { m with vmcs := (m.vmcs.writeAll writes).2, accesses }) := by
  induction writes generalizing m with
  | nil => exact ⟨m.accesses, rfl⟩
  | cons write rest ih =>
      rw [writeFields, exec_bind, exec_writeField, Vmcs.writeAll]
      cases m.vmcs.write write.1 write.2 with
      | error fault => exact ⟨_, rfl⟩
      | ok vmcs => exact ih { m.tried (.write write.1) with vmcs }

@[simp] theorem exec_readExitReason (m : Machine) :
    exec readExitReason m = (m.vmcs.exitReason, m.tried (.read .exitReason)) := by
  rw [readExitReason, exec_bind, exec_readField, Vmcs.exitReason]
  cases m.vmcs.read .exitReason <;> rfl

@[simp] theorem exec_readExitQualification (m : Machine) :
    exec readExitQualification m =
      (m.vmcs.exitQualification, m.tried (.read .exitQualification)) :=
  exec_readField .exitQualification m

@[simp] theorem exec_readInstructionLength (m : Machine) :
    exec readInstructionLength m =
      (m.vmcs.instructionLength, m.tried (.read .exitInstructionLength)) := by
  rw [readInstructionLength, exec_bind, exec_readField, Vmcs.instructionLength]
  cases m.vmcs.read .exitInstructionLength with
  | error fault => rfl
  | ok length =>
      change exec (liftM (Vmcs.checkLength length) : Handler Word) _ = (Vmcs.checkLength length, _)
      cases Vmcs.checkLength length <;> rfl

/-! ## Where a service begins -/

def loaded (m : Machine) : Registers :=
  { m.registers with
    rip := m.vmcs.get .rip
    rsp := m.vmcs.get .rsp
    rflags := m.vmcs.get .rflags }

/-- The machine once the registers are loaded. -/
def opened (m : Machine) : Machine :=
  { m with
    registers := m.loaded
    accesses := m.accesses ++ [.read .rip, .read .rsp, .read .rflags] }

/-- The machine when the service of an exit begins. -/
def captured (m : Machine) (reason : Reason) : Machine :=
  { (m.tried (.read .exitReason)).opened with
    counters := fun r => if r = reason then m.counters r + 1 else m.counters r
    journal := m.journal ++
      [⟨.trace, s!"VM exit {reason.name} at RIP {hexText m.loaded.rip.toNat}"⟩] }

end NestedVisor.Machine
