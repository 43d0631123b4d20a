import Mathlib.Logic.Basic
import NestedVisor.Proofs.Exit.Instruction

/-!
# The course of a control-register access

A value that is refused ends in an injection before anything is written.  CR0 and CR4 are written
in two places, first the shadow that the guest reads.  A value for RSP goes to two places too.
-/

namespace NestedVisor.Exit

open Machine

variable {m : Machine}

instance (value : Word) : Decidable (Cr0Valid value) :=
  decidable_of_iff
    (value.extractLsb' 32 32 = 0 ∧
      ((cr0View value).getLsbD pagingBit → (cr0View value).getLsbD protectionBit) ∧
      ((cr0View value).getLsbD notWriteThroughBit → (cr0View value).getLsbD cacheDisableBit))
    ⟨fun h => ⟨h.1, h.2.1, h.2.2⟩, fun h => ⟨h.high, h.paging, h.cache⟩⟩

instance (value : Word) : Decidable (Cr4Valid value) :=
  decidable_of_iff (value &&& ~~~cr4Defined = 0 ∧ value.getLsbD vmxeBit = false)
    ⟨fun h => ⟨h.1, h.2⟩, fun h => ⟨h.defined, h.vmxe⟩⟩

/-! ## Courses -/

def storeCourse (shadow actual : VmcsField) : Course :=
  .after (.write shadow) (.after (.write actual) (.ends (.ok .advance)))

/-- A store that long mode forbids unless `safe`. -/
def checkedStoreCourse (m : Machine) (safe : Bool) (shadow actual : VmcsField) : Course :=
  if safe then storeCourse shadow actual
  else .after (.read .efer)
    (if m.inLongMode then generalProtectionCourse else storeCourse shadow actual)

def movToCr0Course (m : Machine) : Course :=
  if Cr0Valid m.operand then
    checkedStoreCourse m ((cr0View m.operand).getLsbD pagingBit) .cr0ReadShadow .cr0
  else generalProtectionCourse

def movToCr3Course (m : Machine) : Course :=
  if setFlag m.operand noFlushBit false >>> m.addressWidth = 0 then
    .after (.write .cr3) (.ends (.ok .advance))
  else generalProtectionCourse

def movToCr4Course (m : Machine) : Course :=
  if Cr4Valid m.operand then
    checkedStoreCourse m (m.operand.getLsbD addressExtensionBit) .cr4ReadShadow .cr4
  else generalProtectionCourse

def movToCr8Course (m : Machine) : Course :=
  if m.operand &&& ~~~0xF = 0 then .ends (.ok .advance) else generalProtectionCourse

def writeGprCourse (g : Gpr) : Course :=
  if g = .rsp then .after (.write .rsp) (.ends (.ok .advance)) else .ends (.ok .advance)

def unknownAccessCourse (m : Machine) : Course :=
  .ends (.error (.unknownControlRegisterAccess m.controlQualification.word))

def controlRegisterCourse (m : Machine) : Course :=
  let q := m.controlQualification
  .after (.read .exitQualification)
    (match q.access, q.controlRegister.toNat with
      | .movToCr, 0 => movToCr0Course m
      | .movToCr, 3 => movToCr3Course m
      | .movToCr, 4 => movToCr4Course m
      | .movToCr, 8 => movToCr8Course m
      | .movFromCr, 0 => .after (.read .cr0ReadShadow) (writeGprCourse q.operand)
      | .movFromCr, 3 => .after (.read .cr3) (writeGprCourse q.operand)
      | .movFromCr, 4 => .after (.read .cr4ReadShadow) (writeGprCourse q.operand)
      | .movFromCr, 8 => writeGprCourse q.operand
      | .clts, _ => .after (.read .cr0ReadShadow) (storeCourse .cr0ReadShadow .cr0)
      | .lmsw, _ => .after (.read .cr0ReadShadow) (storeCourse .cr0ReadShadow .cr0)
      | _, _ => unknownAccessCourse m)

theorem ending_controlRegisterCourse_movFrom {value : Word}
    (access : m.controlQualification.access = .movFromCr)
    (view : m.controlView? m.controlQualification.controlRegister.toNat = some value) :
    (controlRegisterCourse m).ending = .ok .advance := by
  have ending (g : Gpr) : (writeGprCourse g).ending = .ok .advance := by
    rw [writeGprCourse]
    split <;> rfl
  rw [controlRegisterCourse, Course.after]
  split <;> simp_all [controlView?, Course.after]

/-! ## Steps -/

theorem takes_refuse (why : String) :
    Takes m .controlRegister (refuse why) generalProtectionCourse :=
  .log _ takes_injectGeneralProtection

theorem reaches_gprAt (q : ControlQualification) :
    Reaches m m (Registers.gprAt (q.gpr.setWidth 64) : Handler Gpr) q.operand := by
  rw [q.gprAt_gpr]
  exact fun notes => ⟨notes.journal, rfl⟩

theorem Takes.readGpr {next : Word → Handler Outcome} {c : Course}
    (rest : Takes m .controlRegister (next m.operand) c) :
    Takes m .controlRegister
      (Exit.readGpr (m.controlQualification.gpr.setWidth 64) >>= next) c :=
  .look (.bind (reaches_gprAt _) (.bind .registers .pure)) rest

theorem Takes.inLongMode {next : Bool → Handler Outcome} {c : Course}
    (rest : Takes m .controlRegister (next m.inLongMode) c) :
    Takes m .controlRegister (Exit.inLongMode >>= next) (c.after (.read .efer)) := by
  have read : Takes m .controlRegister
      (readField .efer >>= fun efer => next (efer.getLsbD longModeActiveBit))
      (c.after (.read .efer)) := .read .efer rest
  simpa [Exit.inLongMode] using read

/-! ## Writes -/

theorem takes_store {shadow actual : VmcsField} {view : Word} {fixed0 fixed1 : Msr}
    {adjust : Word → Word → Word} {r : Word → Record}
    (half : shadow ∈ [VmcsField.entryErrorCode, .cr0ReadShadow, .cr4ReadShadow])
    (deed : Emulates m .controlRegister ((m.withField shadow view).withField actual
      (adjust (m.processor.msr fixed0) (m.processor.msr fixed1)))) :
    Takes m .controlRegister (do
      writeField shadow view
      let value := adjust (← readMsr fixed0) (← readMsr fixed1)
      writeField actual value
      log (r value)
      return .advance) (storeCourse shadow actual) := by
  -- what the second write takes is computed from registers that the first one leaves alone
  refine .write .untouched (.look (.readMsr fixed0) (.look (.readMsr fixed1) ?_))
  exact .write (.halfWritten view half) (.emulated deed (.bind (.log _) .pure))

theorem takes_storeCr0 {view : Word} (deed : Emulates m .controlRegister (m.withCr0 view)) :
    Takes m .controlRegister (storeCr0 view) (storeCourse .cr0ReadShadow .cr0) :=
  takes_store (by decide) deed

theorem takes_storeCr4 {view : Word} (deed : Emulates m .controlRegister (m.withCr4 view)) :
    Takes m .controlRegister (storeCr4 view) (storeCourse .cr4ReadShadow .cr4) :=
  takes_store (by decide) deed

theorem takes_checkedStore {safe : Bool} {store : Handler Outcome} {why : String}
    {shadow actual : VmcsField}
    (takes : safe ∨ m.inLongMode = false →
      Takes m .controlRegister store (storeCourse shadow actual)) :
    Takes m .controlRegister
      (if safe then store
        else do
          if ← inLongMode then refuse why
          else store)
      (checkedStoreCourse m safe shadow actual) := by
  rw [checkedStoreCourse]
  cases safe with
  | true => exact takes (.inl rfl)
  | false =>
      refine .inLongMode ?_
      cases mode : m.inLongMode with
      | true => exact takes_refuse why
      | false => exact takes (.inr mode)

section MovToCr

variable (access : m.controlQualification.access = .movToCr)

include access

theorem takes_movToCr0 (register : m.controlQualification.controlRegister.toNat = 0) :
    Takes m .controlRegister (movToCr0 m.operand) (movToCr0Course m) := by
  refine .log _ ?_
  dsimp only
  rw [movToCr0Course]
  by_cases valid : Cr0Valid m.operand
  · rw [if_pos valid, if_neg (not_not_intro valid.high), if_neg fun h => h.2 (valid.paging h.1),
      if_neg fun h => h.2 (valid.cache h.1)]
    exact takes_checkedStore fun mode => takes_storeCr0 (.movToCr0 access register valid mode)
  · rw [if_neg valid]
    by_cases high : m.operand.extractLsb' 32 32 ≠ 0
    · rw [if_pos high]
      exact takes_refuse _
    rw [if_neg high]
    split
    · exact takes_refuse _
    · next paging =>
        split
        · exact takes_refuse _
        · next cache =>
            exact absurd ⟨not_not.1 high, by simpa using paging, by simpa using cache⟩ valid

theorem takes_movToCr3 (register : m.controlQualification.controlRegister.toNat = 3) :
    Takes m .controlRegister (movToCr3 m.operand) (movToCr3Course m) := by
  refine .log _ (.fetchWidth ?_)
  dsimp only
  rw [movToCr3Course]
  by_cases small : setFlag m.operand noFlushBit false >>> m.addressWidth = 0
  · rw [if_pos small, if_neg (not_not_intro small)]
    refine .writeField (.movToCr3 access register small) ?_
    by_cases keep : m.operand.getLsbD noFlushBit = true
    · rw [if_neg (not_not_intro keep), if_pos keep]
      exact .pure
    · rw [if_pos keep, if_neg keep]
      exact fun notes => ⟨notes.journal, rfl⟩
  · rw [if_neg small, if_pos small]
    exact takes_refuse _

theorem takes_movToCr4 (register : m.controlQualification.controlRegister.toNat = 4) :
    Takes m .controlRegister (movToCr4 m.operand) (movToCr4Course m) := by
  refine .log _ ?_
  rw [movToCr4Course]
  by_cases valid : Cr4Valid m.operand
  · rw [if_pos valid, if_neg (not_not_intro valid.defined), if_neg (by simp [valid.vmxe])]
    exact takes_checkedStore fun mode => takes_storeCr4 (.movToCr4 access register valid mode)
  · rw [if_neg valid]
    split
    · exact takes_refuse _
    · next defined =>
        split
        · exact takes_refuse _
        · next vmxe => exact absurd ⟨not_not.1 defined, by simpa using vmxe⟩ valid

theorem takes_movToCr8 (register : m.controlQualification.controlRegister.toNat = 8) :
    Takes m .controlRegister (movToCr8 m.operand) (movToCr8Course m) := by
  refine .log _ ?_
  rw [movToCr8Course]
  by_cases small : m.operand &&& ~~~0xF = 0
  · rw [if_pos small, if_neg (not_not_intro small)]
    exact .emulated (.movToCr8 access register small) fun notes => ⟨notes.journal, rfl⟩
  · rw [if_neg small, if_pos small]
    exact takes_refuse _

end MovToCr

/-! ## Reads -/

theorem takes_writeGpr {value : Word} (access : m.controlQualification.access = .movFromCr)
    (view : m.controlView? m.controlQualification.controlRegister.toNat = some value) :
    Takes m .controlRegister (writeGpr (m.controlQualification.gpr.setWidth 64) value)
      (writeGprCourse m.controlQualification.operand) := by
  refine .look (reaches_gprAt _) ?_
  have deed := Emulates.movFrom access view
  rw [withGpr] at deed
  rw [writeGprCourse]
  by_cases stack : m.controlQualification.operand = .rsp
  · simp only [stack, ↓reduceIte] at deed ⊢
    exact .look (.modifyRegisters _) (.write (.stackPointer value) (.emulated deed .pure))
  · rw [if_neg stack] at deed ⊢
    simp only [if_neg stack]
    exact .emulated deed (.bind (.modifyRegisters _) .pure)

/-! ## The access -/

theorem takes_movFromField {field : VmcsField}
    (access : m.controlQualification.access = .movFromCr)
    (view : m.controlView? m.controlQualification.controlRegister.toNat =
      some (m.vmcs.get field)) :
    Takes m .controlRegister (movFromField (m.controlQualification.gpr.setWidth 64) field)
      (.after (.read field) (writeGprCourse m.controlQualification.operand)) :=
  .read field (.log _ (takes_writeGpr access view))

theorem takes_serveControlRegister :
    Takes m .controlRegister serveControlRegister (controlRegisterCourse m) := by
  refine .read .exitQualification (.getRegisters (.log _ ?_))
  change Takes m .controlRegister
    (match m.controlQualification.access, m.controlQualification.controlRegister.toNat with
      | .movToCr, 0 => _
      | .movToCr, 3 => _
      | .movToCr, 4 => _
      | .movToCr, 8 => _
      | .movFromCr, 0 => _
      | .movFromCr, 3 => _
      | .movFromCr, 4 => _
      | .movFromCr, 8 => _
      | .clts, _ => _
      | .lmsw, _ => _
      | _, _ => _) _
  split
  · next access register => exact .readGpr (takes_movToCr0 access register)
  · next access register => exact .readGpr (takes_movToCr3 access register)
  · next access register => exact .readGpr (takes_movToCr4 access register)
  · next access register => exact .readGpr (takes_movToCr8 access register)
  · next access register => exact takes_movFromField access (by rw [register, controlView?])
  · next access register => exact takes_movFromField access (by rw [register, controlView?])
  · next access register => exact takes_movFromField access (by rw [register, controlView?])
  · next access register =>
      exact .get (fun _ => rfl) (takes_writeGpr access (by rw [register, controlView?]))
  · next access => exact .read .cr0ReadShadow (takes_storeCr0 (.clts access))
  · next access => exact .log _ (.read .cr0ReadShadow (takes_storeCr0 (.lmsw access)))
  · exact .log _ (.throw _)

end NestedVisor.Exit
