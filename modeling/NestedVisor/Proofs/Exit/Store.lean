import Mathlib.Data.List.Nodup
import NestedVisor.Proofs.Exit.Frame

/-!
# What an emulation stores

The rules of `Emulates` seen from the control structure and from the processor.  `Stores` lists
the ways in which an emulation writes to fields, each with the checks that its value has passed,
so that what holds of the fields is argued over seven ways and not over all instructions.
-/

namespace NestedVisor

namespace Vmcs

/-- Writes in order, none of them refused. -/
def putAll (v : Vmcs) (writes : List (VmcsField × Word)) : Vmcs :=
  writes.foldl (fun v w => v.put w.1 w.2) v

theorem get_putAll_of_notMem (v : Vmcs) {writes : List (VmcsField × Word)} {field : VmcsField}
    (other : field ∉ writes.map Prod.fst) : (v.putAll writes).get field = v.get field := by
  induction writes generalizing v with
  | nil => rfl
  | cons w writes ih =>
      rw [List.map_cons, List.mem_cons, not_or] at other
      exact (ih (v.put w.1 w.2) other.2).trans (get_put_of_ne _ _ other.1)

@[simp] theorem get_putAll_one (v : Vmcs) (field : VmcsField) (value : Word) :
    (v.putAll [(field, value)]).get field = value :=
  get_put_self ..

theorem get_putAll_one_of_ne (v : Vmcs) {field written : VmcsField} (value : Word)
    (ne : field ≠ written) : (v.putAll [(written, value)]).get field = v.get field :=
  get_put_of_ne _ _ ne

theorem get_putAll_two_of_ne (v : Vmcs) {field first last : VmcsField} (value value' : Word)
    (ne : field ≠ first) (ne' : field ≠ last) :
    (v.putAll [(first, value), (last, value')]).get field = v.get field :=
  (get_put_of_ne _ _ ne').trans (get_put_of_ne _ _ ne)

@[simp] theorem get_putAll_last (v : Vmcs) (first last : VmcsField) (value value' : Word) :
    (v.putAll [(first, value), (last, value')]).get last = value' :=
  get_put_self ..

theorem get_putAll_first (v : Vmcs) {first last : VmcsField} (value value' : Word)
    (ne : first ≠ last) : (v.putAll [(first, value), (last, value')]).get first = value :=
  (get_put_of_ne _ _ ne).trans (get_put_self ..)

end Vmcs

namespace Exit

open Machine

variable {m core : Machine} {service : Service}

/-- What becomes the guest's view of CR0. -/
inductive NewCr0 (m : Machine) : Word → Prop
  | moved {value : Word} (valid : Cr0Valid value)
      (mode : (cr0View value).getLsbD pagingBit ∨ m.inLongMode = false) :
      NewCr0 m (cr0View value)
  | clts : NewCr0 m (setFlag (m.vmcs.get .cr0ReadShadow) taskSwitchedBit false)
  | lmsw (source : BitVec 16) : NewCr0 m (lmswView (m.vmcs.get .cr0ReadShadow) source)

inductive Stores (m : Machine) : Service → List (VmcsField × Word) → Prop
  | nothing {service : Service} : Stores m service []
  | activity : Stores m .halt [(.activityState, activityHlt)]
  | stackPointer (value : Word) : Stores m .controlRegister [(.rsp, value)]
  | msr {field : VmcsField} (home : classify m.registers.ecx = .vmcs field)
      (accepted : accepts m.registers.ecx m.registers.edxEax = true) :
      Stores m (.msr .write) [(field, m.registers.edxEax)]
  | cr0 {view : Word} (checked : NewCr0 m view) :
      Stores m .controlRegister [(.cr0ReadShadow, view),
        (.cr0, cr0Actual view (m.processor.msr .vmxCr0Fixed0) (m.processor.msr .vmxCr0Fixed1))]
  | cr3 {value : Word} (width : value >>> m.addressWidth = 0) :
      Stores m .controlRegister [(.cr3, value)]
  | cr4 {view : Word} (valid : Cr4Valid view)
      (mode : view.getLsbD addressExtensionBit ∨ m.inLongMode = false) :
      Stores m .controlRegister [(.cr4ReadShadow, view),
        (.cr4, cr4Actual view (m.processor.msr .vmxCr4Fixed0) (m.processor.msr .vmxCr4Fixed1))]

theorem Emulates.stores (deed : Emulates m service core) :
    ∃ writes, Stores m service writes ∧ core.vmcs = m.vmcs.putAll writes := by
  cases deed with
  | parked => exact ⟨_, .activity, rfl⟩
  | wrmsrField home accepted => exact ⟨_, .msr home accepted, rfl⟩
  | movToCr0 _ _ valid mode => exact ⟨_, .cr0 (.moved valid mode), rfl⟩
  | movToCr3 _ _ width => exact ⟨_, .cr3 width, by split <;> rfl⟩
  | movToCr4 _ _ valid mode => exact ⟨_, .cr4 valid mode, rfl⟩
  | clts => exact ⟨_, .cr0 .clts, rfl⟩
  | lmsw => exact ⟨_, .cr0 (.lmsw _), rfl⟩
  | @movFrom value =>
      rw [withGpr]
      split
      · exact ⟨_, .stackPointer value, rfl⟩
      · exact ⟨_, .nothing, rfl⟩
  | _ => exact ⟨_, .nothing, rfl⟩

/-! ## Views of CR0 -/

theorem getLsbD_lmswView (view : Word) (source : BitVec 16) (i : Nat) :
    (lmswView view source).getLsbD i =
      if i < 4 then source.getLsbD i || (decide (i = 0) && view.getLsbD i)
      else view.getLsbD i := by
  rw [lmswView, getLsbD_setField]
  by_cases low : i < 4
  · have inside : i < 64 ∧ 0 ≤ i ∧ i < 0 + 4 := by omega
    rw [if_pos inside, if_pos low]
    by_cases first : i = 0
    · subst first
      simp
    · simp [low, first, BitVec.getLsbD_of_ge (view.extractLsb' 0 1) i (by omega)]
  · rw [if_neg low, if_neg (by omega)]

theorem getLsbD_cltsView {view : Word} {i : Nat} (other : i ≠ taskSwitchedBit) :
    (setFlag view taskSwitchedBit false).getLsbD i = view.getLsbD i := by
  rw [getLsbD_setFlag, if_neg fun h => other h.2]

/-- Long mode does not let go of paging. -/
theorem NewCr0.paging {view : Word} (checked : NewCr0 m view) (active : m.inLongMode = true)
    (paged : (m.vmcs.get .cr0ReadShadow).getLsbD pagingBit = true) :
    view.getLsbD pagingBit = true := by
  cases checked with
  | moved valid mode => exact mode.resolve_right (by simp [active])
  | clts => rwa [getLsbD_cltsView (by decide)]
  | lmsw => rwa [getLsbD_lmswView, if_neg (by decide)]

/-! ## One field -/

section

variable {writes : List (VmcsField × Word)} (v : Vmcs)

/-- A field that a register is kept in is written only by a WRMSR of that register. -/
theorem Stores.msr_cases (stores : Stores m service writes) {msr : Msr} {field : VmcsField}
    (home : (msr, field) ∈ vmcsMsrs) :
    (v.putAll writes).get field = v.get field ∨
      service = .msr .write ∧ m.registers.ecx = msr ∧ accepts msr m.registers.edxEax = true ∧
        writes = [(field, m.registers.edxEax)] := by
  have apart {written : VmcsField} (elsewhere : written ∉ vmcsMsrs.map Prod.snd) :
      field ≠ written := by
    rintro rfl
    exact elsewhere (List.mem_map_of_mem home)
  cases stores with
  | @msr field' home' accepted =>
      by_cases same : field = field'
      · subst same
        have distinct : (vmcsMsrs.map Prod.snd).Nodup := by decide
        have number := List.inj_on_of_nodup_map distinct (mem_vmcsMsrs_of_classify home') home rfl
        obtain rfl : m.registers.ecx = msr := congrArg Prod.fst number
        exact .inr ⟨rfl, rfl, accepted, rfl⟩
      · exact .inl (v.get_putAll_one_of_ne _ same)
  | nothing => exact .inl rfl
  | activity => exact .inl (v.get_putAll_one_of_ne _ (apart (by decide)))
  | stackPointer => exact .inl (v.get_putAll_one_of_ne _ (apart (by decide)))
  | cr0 => exact .inl (v.get_putAll_two_of_ne _ _ (apart (by decide)) (apart (by decide)))
  | cr3 => exact .inl (v.get_putAll_one_of_ne _ (apart (by decide)))
  | cr4 => exact .inl (v.get_putAll_two_of_ne _ _ (apart (by decide)) (apart (by decide)))

theorem get_putAll_of_classify {msr : Msr} {written : VmcsField} {value : Word}
    (home : classify msr = .vmcs written) {field : VmcsField}
    (other : field ∉ vmcsMsrs.map Prod.snd) :
    (v.putAll [(written, value)]).get field = v.get field :=
  v.get_putAll_one_of_ne _ (ne_of_classify home other)

theorem Stores.cr0_cases (stores : Stores m service writes) :
    (v.putAll writes).get .cr0ReadShadow = v.get .cr0ReadShadow ∧
        (v.putAll writes).get .cr0 = v.get .cr0 ∨
      NewCr0 m ((v.putAll writes).get .cr0ReadShadow) ∧
        (v.putAll writes).get .cr0 = cr0Actual ((v.putAll writes).get .cr0ReadShadow)
          (m.processor.msr .vmxCr0Fixed0) (m.processor.msr .vmxCr0Fixed1) := by
  cases stores with
  | cr0 checked =>
      rw [v.get_putAll_last, v.get_putAll_first _ _ (by decide)]
      exact .inr ⟨checked, rfl⟩
  | msr home =>
      exact .inl ⟨get_putAll_of_classify v home (by decide),
        get_putAll_of_classify v home (by decide)⟩
  | _ => exact .inl ⟨v.get_putAll_of_notMem (by simp <;> decide),
      v.get_putAll_of_notMem (by simp <;> decide)⟩

theorem Stores.cr3_cases (stores : Stores m service writes) :
    (v.putAll writes).get .cr3 = v.get .cr3 ∨
      (v.putAll writes).get .cr3 >>> m.addressWidth = 0 := by
  cases stores with
  | cr3 width => exact .inr (by rwa [v.get_putAll_one])
  | msr home => exact .inl (get_putAll_of_classify v home (by decide))
  | _ => exact .inl (v.get_putAll_of_notMem (by simp <;> decide))

theorem Stores.cr4_cases (stores : Stores m service writes) :
    (v.putAll writes).get .cr4ReadShadow = v.get .cr4ReadShadow ∧
        (v.putAll writes).get .cr4 = v.get .cr4 ∨
      (Cr4Valid ((v.putAll writes).get .cr4ReadShadow) ∧
          (((v.putAll writes).get .cr4ReadShadow).getLsbD addressExtensionBit ∨
            m.inLongMode = false)) ∧
        (v.putAll writes).get .cr4 = cr4Actual ((v.putAll writes).get .cr4ReadShadow)
          (m.processor.msr .vmxCr4Fixed0) (m.processor.msr .vmxCr4Fixed1) := by
  cases stores with
  | cr4 valid mode =>
      rw [v.get_putAll_last, v.get_putAll_first _ _ (by decide)]
      exact .inr ⟨⟨valid, mode⟩, rfl⟩
  | msr home =>
      exact .inl ⟨get_putAll_of_classify v home (by decide),
        get_putAll_of_classify v home (by decide)⟩
  | _ => exact .inl ⟨v.get_putAll_of_notMem (by simp <;> decide),
      v.get_putAll_of_notMem (by simp <;> decide)⟩

end

/-- Whatever leaves the core, a register of the processor is written only by an accepted WRMSR. -/
theorem Emulates.trace_eq (deed : Emulates m service core) :
    ∃ events, core.trace = m.trace ++ events ∧ ∀ msr value, .writeMsr msr value ∈ events →
      classify msr = .hardware true ∧ accepts msr value = true := by
  cases deed with
  | wrmsr home accepted => exact ⟨[_], rfl, by simp [home, accepted]⟩
  | cachesFlushed => exact ⟨[_], rfl, by simp⟩
  | invlpg => exact ⟨[_], rfl, by simp⟩
  | movToCr3 =>
      split
      · exact ⟨[], by simp [withField], by simp⟩
      · exact ⟨[_], rfl, by simp⟩
  | movFrom =>
      refine ⟨[], ?_, by simp⟩
      rw [withGpr, List.append_nil]
      split <;> rfl
  | flush => exact ⟨[_], rfl, by simp⟩
  | flushRelayed => exact ⟨[_] ++ [_], List.append_assoc .., by simp⟩
  | memoryCall => exact ⟨[_], rfl, by simp⟩
  | fastCall => exact ⟨[_], rfl, by simp⟩
  | _ => exact ⟨[], (List.append_nil _).symm, by simp⟩

end Exit

end NestedVisor
