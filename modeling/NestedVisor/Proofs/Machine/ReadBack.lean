import NestedVisor.Proofs.Machine.Evolution

/-!
# Control registers read back

Of the control registers that the guest has, CR0 and CR4 are kept in their shadows, CR3 in a field
of its own, and CR8 outside the control structure.  What the guest reads from any of them is what
it wrote there last, up to the bits that the register does not have.  RSP, from which and to which
it may move, is in the control structure too.
-/

namespace NestedVisor

open Exit

/-- What a control register keeps of a value: CR0 has undefined bits and a fixed one. -/
def storedView : Nat → Word → Word
  | 0, value => (value &&& 0xE005003F) ||| 0x10
  | 3, value => value &&& 0x7FFFFFFFFFFFFFFF
  | _, value => value

/-- The field that a control register is read from. -/
def controlField? : Nat → Option VmcsField
  | 0 => some .cr0ReadShadow
  | 3 => some .cr3
  | 4 => some .cr4ReadShadow
  | _ => none

/-! ## One emulation -/

namespace Exit

open Machine

variable {m m' core : Machine} {service : Service} {n : Nat}

/-- The access writes to a control register: by MOV, or to CR0 by CLTS or LMSW. -/
def StoresControl (m : Machine) (n : Nat) : Prop :=
  m.controlQualification.access = .movToCr ∧ m.controlQualification.controlRegister.toNat = n ∨
    n = 0 ∧ m.controlQualification.access ∈ [.clts, .lmsw]

theorem controlView?_congr (taskPriority : m'.taskPriority = m.taskPriority)
    (fields : ∀ field, controlField? n = some field → m'.vmcs.get field = m.vmcs.get field) :
    m'.controlView? n = m.controlView? n := by
  unfold controlView?
  split <;> simp_all [controlField?]

theorem controlField?_inj {k : Nat} {field : VmcsField} (named : controlField? n = some field)
    (named' : controlField? k = some field) : n = k := by
  unfold controlField? at named named'
  split at named <;> split at named' <;> cases named <;>
    first | rfl | exact absurd named' (by decide)

theorem mem_of_controlField? {field : VmcsField} (named : controlField? n = some field) :
    field ∈ [VmcsField.cr0ReadShadow, .cr3, .cr4ReadShadow] := by
  unfold controlField? at named
  split at named <;> cases named <;> decide

theorem controlView?_withField {field : VmcsField} {value : Word}
    (other : controlField? n ≠ some field) :
    (m.withField field value).controlView? n = m.controlView? n := by
  refine controlView?_congr rfl fun field' named => Vmcs.get_put_of_ne _ _ ?_
  rintro rfl
  exact other named

theorem controlView?_withCr0 {view : Word} (other : n ≠ 0) :
    (m.withCr0 view).controlView? n = m.controlView? n :=
  (controlView?_withField fun named => absurd (mem_of_controlField? named) (by decide)).trans
    (controlView?_withField fun named => other (controlField?_inj named rfl))

theorem controlView?_withCr4 {view : Word} (other : n ≠ 4) :
    (m.withCr4 view).controlView? n = m.controlView? n :=
  (controlView?_withField fun named => absurd (mem_of_controlField? named) (by decide)).trans
    (controlView?_withField fun named => other (controlField?_inj named rfl))

theorem Emulates.controlView?_eq (deed : Emulates m service core)
    (other : service = .controlRegister → ¬ StoresControl m n) :
    core.controlView? n = m.controlView? n := by
  have elsewhere {field : VmcsField} {value : Word}
      (apart : field ∉ [VmcsField.cr0ReadShadow, .cr3, .cr4ReadShadow]) :
      (m.withField field value).controlView? n = m.controlView? n :=
    controlView?_withField fun named => apart (mem_of_controlField? named)
  cases deed with
  | parked => exact elsewhere (by decide)
  | wrmsrField home =>
      exact elsewhere (notMem_of_mem_vmcsMsrs (mem_vmcsMsrs_of_classify home) (by decide))
  | movToCr0 access register =>
      exact controlView?_withCr0 fun same => other rfl (.inl ⟨access, register.trans same.symm⟩)
  | movToCr3 access register =>
      have ne : n ≠ 3 := fun same => other rfl (.inl ⟨access, register.trans same.symm⟩)
      split <;> exact controlView?_withField fun named => ne (controlField?_inj named rfl)
  | movToCr4 access register =>
      exact controlView?_withCr4 fun same => other rfl (.inl ⟨access, register.trans same.symm⟩)
  | movToCr8 access register =>
      have ne : n ≠ 8 := fun same => other rfl (.inl ⟨access, register.trans same.symm⟩)
      unfold controlView?
      split <;> simp_all
  | movFrom =>
      rw [withGpr]
      split
      · exact elsewhere (by decide)
      · rfl
  | clts access =>
      exact controlView?_withCr0 fun same => other rfl (.inr ⟨same, by simp [access]⟩)
  | lmsw access =>
      exact controlView?_withCr0 fun same => other rfl (.inr ⟨same, by simp [access]⟩)
  | _ => rfl

theorem cr0View_eq (value : Word) : cr0View value = (value &&& 0xE005003F) ||| 0x10 :=
  setFlag_true (value &&& cr0Defined) extensionTypeBit

theorem setWidth_setWidth_of_small {value : Word} (small : value &&& ~~~0xF = 0) :
    (value.setWidth 4).setWidth 64 = value := by
  have mask (i : Fin 64) : (0xF : Word).getLsbD i = decide (i.val < 4) := by
    revert i
    decide
  apply BitVec.eq_of_getLsbD_eq
  intro i bound
  have bit : (value &&& ~~~0xF).getLsbD i = false := by
    rw [small]
    exact BitVec.getLsbD_zero
  rw [BitVec.getLsbD_and, BitVec.getLsbD_not, mask ⟨i, bound⟩] at bit
  by_cases low : i < 4
  · simp [bound, low]
  · simp only [bound, low, decide_true, decide_false, Bool.not_false, Bool.and_true] at bit
    simp [low, bit]

theorem Emulates.controlView?_of_movTo (deed : Emulates m .controlRegister core)
    (access : m.controlQualification.access = .movToCr) :
    core.controlView? m.controlQualification.controlRegister.toNat =
      some (storedView m.controlQualification.controlRegister.toNat m.operand) := by
  have first {shadow actual : VmcsField} {view value : Word} (ne : shadow ≠ actual) :
      ((m.withField shadow view).withField actual value).vmcs.get shadow = view :=
    (Vmcs.get_put_of_ne _ _ ne).trans (Vmcs.get_put_self ..)
  cases deed with
  | movToCr0 _ register =>
      rw [register]
      exact congrArg some ((first (by decide)).trans (cr0View_eq _))
  | movToCr3 _ register =>
      rw [register]
      refine congrArg some (Eq.trans ?_ (setFlag_false m.operand noFlushBit))
      split <;> exact Vmcs.get_put_self ..
  | movToCr4 _ register =>
      rw [register]
      exact congrArg some (first (by decide))
  | movToCr8 _ register small =>
      rw [register]
      exact congrArg some (setWidth_setWidth_of_small small)
  | movFrom access' | clts access' | lmsw access' =>
      exact absurd (access.symm.trans access') nofun

theorem Emulates.eq_withGpr (deed : Emulates m .controlRegister core)
    (access : m.controlQualification.access = .movFromCr) :
    ∃ value, m.controlView? m.controlQualification.controlRegister.toNat = some value ∧
      core = m.withGpr m.controlQualification.operand value := by
  cases deed with
  | movFrom _ view => exact ⟨_, view, rfl⟩
  | movToCr0 access' | movToCr3 access' | movToCr4 access' | movToCr8 access' | clts access'
  | lmsw access' => exact absurd (access.symm.trans access') nofun

theorem controlRegisterCourse_movFrom {value : Word}
    (access : m.controlQualification.access = .movFromCr)
    (view : m.controlView? m.controlQualification.controlRegister.toNat = some value) :
    controlRegisterCourse m =
      ⟨.read .exitQualification ::
        ((controlField? m.controlQualification.controlRegister.toNat).toList.map .read ++
          if m.controlQualification.operand = .rsp then [.write .rsp] else []), .ok .advance⟩ := by
  have last (g : Gpr) : writeGprCourse g =
      ⟨if g = .rsp then [.write .rsp] else [], .ok .advance⟩ := by
    rw [writeGprCourse]
    split <;> rfl
  rw [controlRegisterCourse, Course.after]
  split <;> simp_all [controlView?, controlField?, Course.after]

end Exit

namespace Machine

variable {m w : Machine} {exits : List Machine} {n : Nat} {value : Word}

/-! ## One exit -/

/-- A general-purpose register when the guest exits. -/
def gprAtExit (m : Machine) (g : Gpr) : Word :=
  if g = .rsp then m.vmcs.get .rsp else m.registers.get g

theorem get_loaded (m : Machine) (g : Gpr) : m.loaded.get g = m.gprAtExit g := by
  cases g <;> rfl

/-- The guest goes on after a write to the control register. -/
structure WritesControl (m : Machine) (n : Nat) : Prop where
  opens : m.Opens .controlRegisterAccess
  stores : StoresControl m n
  advanced : Advanced m m.dispatch.2

/-- The guest goes on after a MOV to the control register. -/
structure MovesToControl (m : Machine) (n : Nat) : Prop where
  opens : m.Opens .controlRegisterAccess
  access : m.controlQualification.access = .movToCr
  register : m.controlQualification.controlRegister.toNat = n
  advanced : Advanced m m.dispatch.2

/-- The exit is for a MOV from the control register. -/
structure MovesFromControl (m : Machine) (n : Nat) : Prop where
  opens : m.Opens .controlRegisterAccess
  access : m.controlQualification.access = .movFromCr
  register : m.controlQualification.controlRegister.toNat = n

theorem Follows.controlView?_eq {core : Machine} (follows : Follows core m) (n : Nat) :
    m.controlView? n = core.controlView? n := by
  refine controlView?_congr follows.taskPriority fun field named => follows.fields field ?_
  rintro rfl
  exact absurd (mem_of_controlField? named) (by decide)

theorem Injected.controlView?_eq {m' : Machine} (injected : Injected m m') (n : Nat) :
    m'.controlView? n = m.controlView? n := by
  have apart : [VmcsField.cr0ReadShadow, .cr3, .cr4ReadShadow].all fun field =>
      field ∉ [VmcsField.entryInterruptionInfo, .entryErrorCode] := by decide
  refine controlView?_congr injected.taskPriority fun field named => injected.get_eq ?_
  exact of_decide_eq_true (List.all_eq_true.1 apart _ (mem_of_controlField? named))

theorem controlView?_of_not_writesControl (resumed : m.dispatch.1 = true)
    (other : ¬ m.WritesControl n) : m.dispatch.2.controlView? n = m.controlView? n := by
  rcases carriesOut_or_injected_of_dispatch resumed with
    ⟨reason, core, carries, advanced, -⟩ | injected
  · rw [carries.follows.controlView?_eq]
    refine carries.deed.controlView?_eq fun service stores => other ⟨?_, stores, advanced⟩
    obtain rfl := Reason.service_eq_controlRegister.1 service
    exact carries.opens
  · exact injected.controlView?_eq n

theorem MovesToControl.controlView?_eq (moves : w.MovesToControl n)
    (resumed : w.dispatch.1 = true) :
    w.dispatch.2.controlView? n =
      some (storedView n (w.gprAtExit w.controlQualification.operand)) := by
  rcases carriesOut_or_injected_of_dispatch resumed with ⟨reason, core, carries, -⟩ | injected
  · obtain rfl := carries.opens.unique moves.opens
    have deed : Emulates (w.begun.captured .controlRegisterAccess) .controlRegister core :=
      carries.deed
    have stored : core.controlView? w.controlQualification.controlRegister.toNat =
        some (storedView w.controlQualification.controlRegister.toNat
          (w.loaded.get w.controlQualification.operand)) :=
      deed.controlView?_of_movTo moves.access
    rw [moves.register, get_loaded] at stored
    rw [carries.follows.controlView?_eq, stored]
  · exact absurd injected moves.advanced.not_injected

/-- A value gets to the register that the instruction names, and to no other. -/
structure Delivers (m : Machine) (value : Word) : Prop where
  target : m.dispatch.2.registers.get m.controlQualification.operand = value
  others : ∀ g ≠ m.controlQualification.operand, m.dispatch.2.registers.get g = m.gprAtExit g
  stackPointer : m.dispatch.2.vmcs.get .rsp =
    if m.controlQualification.operand = .rsp then value else m.vmcs.get .rsp
  -- what the next exit finds, whatever the guest does with the other registers
  reloaded : m.controlQualification.operand = .rsp → ∀ x x' u,
    x.vmcs.get .rsp = m.dispatch.2.vmcs.get .rsp → exec loadRegisters x = (.ok u, x') →
      x'.registers.rsp = value

theorem MovesFromControl.delivers (reads : m.MovesFromControl n)
    (view : m.controlView? n = some value) (resumed : m.dispatch.1 = true) :
    m.Delivers value := by
  obtain rfl := reads.register
  obtain ⟨core, notes, phase, journal, deed, -, after⟩ := emulates_of_dispatch reads.opens
    (ending_controlRegisterCourse_movFrom (m := m.begun.captured .controlRegisterAccess)
      reads.access view) resumed
  obtain ⟨value', view', rfl⟩ := Emulates.eq_withGpr deed reads.access
  obtain rfl : value' = value := Option.some.inj (view'.symm.trans view)
  have get (g : Gpr) : m.dispatch.2.registers.get g =
      (m.loaded.set m.controlQualification.operand value').get g := by
    rw [after]
    cases g <;> rfl
  have stack : m.dispatch.2.vmcs.get .rsp =
      if m.controlQualification.operand = .rsp then value' else m.vmcs.get .rsp := by
    rw [after]
    refine (Vmcs.get_put_of_ne _ _ (by decide)).trans ?_
    change ((m.begun.captured _).withGpr m.controlQualification.operand value').vmcs.get .rsp = _
    rw [withGpr]
    split
    · exact Vmcs.get_put_self ..
    · rfl
  constructor
  case target => rw [get, Registers.get_set_self]
  case others =>
    intro g ne
    rw [get, Registers.get_set_of_ne _ _ ne, get_loaded]
  case stackPointer => exact stack
  case reloaded =>
    intro same x x' u kept run
    rw [eq_opened_of_exec_loadRegisters run]
    exact kept.trans (stack.trans (if_pos same))

/-- What a MOV from the control register uses of the control structure, once it is known. -/
def movFromAccesses (m : Machine) (n : Nat) : List Access :=
  .read .exitQualification :: ((controlField? n).toList.map .read ++
    if m.controlQualification.operand = .rsp then [.write .rsp] else []) ++
      [.read .exitInstructionLength, .write .rip]

theorem MovesFromControl.goesOn_iff (reads : m.MovesFromControl n)
    (view : m.controlView? n = some value) (alive : m.phase ≠ .terminating) :
    m.dispatch.1 = true ↔
      m.ValidLength ∧ ∀ access ∈ m.movFromAccesses n, ¬ access.Denied m.vmcs := by
  obtain rfl := reads.register
  have course : serviceCourse (m.begun.captured .controlRegisterAccess) m.exitReasonField
      Reason.controlRegisterAccess.service = _ :=
    controlRegisterCourse_movFrom (m := m.begun.captured .controlRegisterAccess) reads.access view
  rw [(dispatch_of_alive alive).1, (fits_serveExit m.begun).result,
    result_exitCourse_of_opens reads.opens, course, Course.result_goesOn_iff]
  by_cases valid : m.ValidLength
  · rw [advanceCourse, if_pos valid, and_iff_right valid]
    exact and_iff_right (.inl rfl)
  · have stops : m.advanceCourse.ending =
        .error (.invalidInstructionLength m.instructionLength) := by
      rw [advanceCourse, if_neg valid]
      rfl
    simp [valid, Course.GoesOn, Course.followed, stops]

/-! ## Any number of exits -/

theorem Evolves.alive_of_start {α : Type} {view : Machine → α}
    (run : Evolves view w exits m) (alive : m.phase ≠ .terminating) : w.phase ≠ .terminating := by
  induction run with
  | start => exact alive
  | between run same ended ih => exact ih (mt ended alive)
  | dispatched run ih => exact ih (alive_of_dispatch (dispatch_eq_true_iff.2 alive))

/--
After a MOV to a control register, and exits that do not write to it, a MOV from it delivers what
the register kept of the value.  It is carried out when the control structure lets it.
-/
theorem Evolves.control_readBack (moves : w.MovesToControl n)
    (run : Evolves (·.controlView? n) w.dispatch.2 exits m)
    (others : ∀ x ∈ exits, ¬ x.WritesControl n) (reads : m.MovesFromControl n)
    (alive : m.phase ≠ .terminating) :
    (m.dispatch.1 = true ↔
      m.ValidLength ∧ ∀ access ∈ m.movFromAccesses n, ¬ access.Denied m.vmcs) ∧
    (m.dispatch.1 = true →
      m.Delivers (storedView n (w.gprAtExit w.controlQualification.operand))) := by
  have stored := moves.controlView?_eq (dispatch_eq_true_iff.2 (run.alive_of_start alive))
  have kept : m.controlView? n = w.dispatch.2.controlView? n := by
    refine (run.invariant (P := (· = w.dispatch.2.controlView? n)) rfl ?_).1
    intro x dispatched same
    have resumed := run.resumed alive x dispatched
    rw [controlView?_of_not_writesControl resumed (others x dispatched), same]
  have view := kept.trans stored
  exact ⟨reads.goesOn_iff view alive, reads.delivers view⟩

/-- MOV CR3, RSP with the bit that keeps translations. -/
def movingRspToCr3 : Machine :=
  { (exitingFor 0 3).exitingNext 28 0x403 {} with
    vmcs := (exitingFor 28 3).vmcs.putAll
      [(.exitQualification, 0x403), (.rsp, 0x8000000000007000)] }

/-- Then MOV CR8, RAX, with another stack. -/
def movingRaxToCr8 : Machine :=
  { movingRspToCr3.dispatch.2.exitingNext 28 8 { rax := 5 } with
    vmcs := movingRspToCr3.dispatch.2.vmcs.putAll [(.exitQualification, 8), (.rsp, 0x9000)] }

/-- Then MOV RSP, CR3. -/
def movingCr3ToRsp : Machine :=
  movingRaxToCr8.dispatch.2.exitingNext 28 0x413 { rbx := 0x1234 }

theorem Evolves.control_readBack_cr3 :
    movingRspToCr3.MovesToControl 3 ∧ movingCr3ToRsp.MovesFromControl 3 ∧
      Evolves (·.controlView? 3) movingRspToCr3.dispatch.2 [movingRaxToCr8] movingCr3ToRsp ∧
      movingCr3ToRsp.dispatch.1 = true ∧ movingCr3ToRsp.dispatch.2.registers.rsp = 0x7000 ∧
      movingCr3ToRsp.dispatch.2.vmcs.get .rsp = 0x7000 ∧
      movingCr3ToRsp.dispatch.2.registers.rbx = 0x1234 := by
  have moves : movingRspToCr3.MovesToControl 3 :=
    ⟨⟨rfl, fun _ _ => List.not_mem_nil⟩, rfl, rfl, by decide⟩
  have reads : movingCr3ToRsp.MovesFromControl 3 :=
    ⟨⟨rfl, fun _ _ => List.not_mem_nil⟩, rfl, rfl⟩
  have run : Evolves (·.controlView? 3) movingRspToCr3.dispatch.2 [movingRaxToCr8]
      movingCr3ToRsp :=
    .between (.dispatched (.between .start rfl id)) rfl id
  have others : ∀ x ∈ [movingRaxToCr8], ¬ x.WritesControl 3 := by
    intro x listed writes
    obtain rfl := List.mem_singleton.1 listed
    rcases writes.stores with ⟨-, register⟩ | ⟨zero, -⟩
    · exact absurd register (by decide)
    · exact absurd zero (by decide)
  obtain ⟨goesOn, delivers⟩ := run.control_readBack moves others reads (by decide)
  have resumed : movingCr3ToRsp.dispatch.1 = true := goesOn.2 ⟨by decide, by decide⟩
  have delivered := delivers resumed
  exact ⟨moves, reads, run, resumed, delivered.target, delivered.stackPointer,
    delivered.others .rbx (by decide)⟩

end Machine

end NestedVisor
