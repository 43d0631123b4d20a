import NestedVisor.Proofs.Machine.Run
import NestedVisor.Proofs.Processor.Likeness

/-!
# Handlers that do not see nested virtualization

A handler is `Blind` when it does the same on a machine and on the same machine with a processor
that is alike.  Blind handlers follow each other, so that each service is blind because its steps
are.  A handler that looks at the machine as a whole is blind when what it goes on with is the
same on every such processor.
-/

namespace NestedVisor

def Machine.on (m : Machine) (q : Processor) : Machine :=
  { m with processor := q }

/-- The same result, and machines that still differ in processors that are alike only. -/
structure Blind {α : Type} (h : Handler α) : Prop where
  exec_on : ∀ {m : Machine} {q : Processor}, m.processor.Alike q →
    ∃ q', (Machine.exec h m).2.processor.Alike q' ∧
      Machine.exec h (m.on q) = ((Machine.exec h m).1, (Machine.exec h m).2.on q')

namespace Blind

open Machine

variable {α β : Type} {h h' : Handler α} {f : α → Handler β}

/-! ## Sequences -/

theorem pure (a : α) : Blind (pure a : Handler α) :=
  ⟨fun alike => ⟨_, alike, rfl⟩⟩

theorem throw (fault : Fault) : Blind (throw fault : Handler α) :=
  ⟨fun alike => ⟨_, alike, rfl⟩⟩

theorem bind (first : Blind h) (rest : ∀ a, Blind (f a)) : Blind (h >>= f) := by
  constructor
  intro m q alike
  obtain ⟨q', alike', second⟩ := first.exec_on alike
  rw [exec_bind, exec_bind, second]
  cases run : exec h m with
  | mk result m' =>
      rw [run] at alike'
      cases result with
      | error fault => exact ⟨q', alike', rfl⟩
      | ok a => exact (rest a).exec_on alike'

theorem ite {p : Prop} [Decidable p] (yes : p → Blind h) (no : ¬ p → Blind h') :
    Blind (if p then h else h') := by
  by_cases holds : p
  · rw [if_pos holds]
    exact yes holds
  · rw [if_neg holds]
    exact no holds

/-- What is looked at is the same on every processor that is alike. -/
theorem get_bind {f : Machine → Handler α}
    (same : ∀ {m q}, m.processor.Alike q → f (m.on q) = f m) (rest : ∀ m, Blind (f m)) :
    Blind (get >>= f) := by
  constructor
  intro m q alike
  rw [exec_bind_of_ok (exec_get _), exec_bind_of_ok (exec_get _), same alike]
  exact (rest m).exec_on alike

/-- A handler that leaves the processor alone. -/
theorem of_on (same : ∀ {m q}, m.processor.Alike q →
    exec h (m.on q) = ((exec h m).1, (exec h m).2.on q)) : Blind h := by
  constructor
  intro m q alike
  -- the processor itself is one that is alike
  have kept : (exec h m).2.processor = m.processor :=
    congrArg (fun after => after.2.processor) (same (.refl m.processor))
  exact ⟨q, kept.symm ▸ alike, same alike⟩

/-! ## Single steps -/

theorem log (r : Record) : Blind (Machine.log r) :=
  of_on fun _ => rfl

theorem emit (e : Event) : Blind (Machine.emit e) :=
  of_on fun _ => rfl

theorem getRegisters : Blind Machine.getRegisters :=
  of_on fun _ => rfl

theorem modifyRegisters (change : Registers → Registers) :
    Blind (Machine.modifyRegisters change) :=
  of_on fun _ => rfl

theorem readField (field : VmcsField) : Blind (Machine.readField field) :=
  of_on fun _ => by rw [exec_readField, exec_readField]; rfl

theorem writeField (field : VmcsField) (value : Word) : Blind (Machine.writeField field value) := by
  refine of_on fun {m q} _ => ?_
  have same : (m.on q).vmcs = m.vmcs := rfl
  rw [exec_writeField, exec_writeField, same]
  cases m.vmcs.write field value <;> rfl

theorem writeFields (writes : List (VmcsField × Word)) : Blind (Machine.writeFields writes) := by
  induction writes with
  | nil => exact pure _
  | cons write rest ih => exact bind (writeField _ _) fun _ => ih

theorem callHost (call : Hypercall.Call) : Blind (Machine.callHost call) :=
  of_on fun _ => rfl

theorem changeEpt (change : Paging.Ept → Paging.Change) : Blind (Machine.changeEpt change) :=
  of_on fun _ => rfl

theorem readMsr {register : Msr} (visible : register ≠ .featureControl) :
    Blind (Machine.readMsr register) :=
  get_bind (fun alike => congrArg (fun value => (Pure.pure value : Handler Word))
    (alike.msr _ visible).symm) fun _ => pure _

theorem writeMsr (register : Msr) (value : Word) : Blind (Machine.writeMsr register value) :=
  ⟨fun alike => ⟨_, alike.writeMsr register value, rfl⟩⟩

/-- A handler that asks the processor something, as far as the cache does not answer. -/
theorem of_look (look : Processor → WidthCache → α × WidthCache × List Record)
    (run : ∀ m : Machine, exec h m = (.ok (look m.processor m.width).1,
      { m with
        width := (look m.processor m.width).2.1
        journal := m.journal ++ (look m.processor m.width).2.2 }))
    (same : ∀ {p q : Processor}, p.Alike q → look p = look q) : Blind h :=
  of_on fun alike => by rw [run, run, same alike]; rfl

theorem fetchWidth : Blind Machine.fetchWidth := by
  refine of_look (fun p cache => cache.fetch p) (fun _ => rfl) fun alike => ?_
  exact funext (Processor.fetch_congr alike.addressWidth_eq)

theorem resolveType (base : Word) (size : Granularity) :
    Blind (Machine.resolveType base size) := by
  refine of_look (fun p cache => Caching.resolveCached p cache base size) (fun _ => rfl)
    fun alike => ?_
  exact funext fun cache => alike.sameRanges.resolveCached_eq alike.addressWidth_eq cache base size

theorem lift (result : Except Fault α) : Blind (liftM result : Handler α) :=
  of_on fun _ => by cases result <;> rfl

theorem logged {r : Record} (rest : Blind h) : Blind (do Machine.log r; h) :=
  .bind (.log r) fun _ => rest

theorem then_pure (first : Blind h) (b : β) : Blind (do let _ ← h; return b) :=
  first.bind fun _ => .pure b

/-! ## Injections -/

theorem injectGeneralProtection (errorCode : BitVec 32) :
    Blind (Machine.injectGeneralProtection errorCode) :=
  .logged (.then_pure (.writeFields _) _)

theorem injectUndefinedOpcode : Blind Machine.injectUndefinedOpcode :=
  .logged (.then_pure (.writeFields _) _)

end Blind

namespace Exit

open Machine

/-! ## Control registers -/

theorem blind_refuse (why : String) : Blind (refuse why) :=
  .logged (.injectGeneralProtection 0)

theorem blind_checked {p : Prop} [Decidable p] {why : String} {h : Handler Outcome}
    (rest : Blind h) : Blind (if p then refuse why else h) :=
  .ite (fun _ => blind_refuse why) fun _ => rest

theorem blind_inLongMode : Blind inLongMode :=
  .bind (.readField _) fun _ => .pure _

theorem blind_checkedInLongMode {why : String} {h : Handler Outcome} (rest : Blind h) :
    Blind (do if ← inLongMode then refuse why else h) :=
  .bind blind_inLongMode fun _ => blind_checked rest

theorem blind_store {shadow actual : VmcsField} {fixed0 fixed1 : Msr}
    (visible0 : fixed0 ≠ .featureControl) (visible1 : fixed1 ≠ .featureControl) (view : Word)
    (adjust : Word → Word → Word) (r : Word → Record) :
    Blind (do
      writeField shadow view
      let value := adjust (← readMsr fixed0) (← readMsr fixed1)
      writeField actual value
      log (r value)
      return Outcome.advance) := by
  refine .bind (.writeField _ _) fun _ => .bind (.readMsr visible0) fun first =>
    .bind (.readMsr visible1) fun second => ?_
  exact .bind (.writeField _ _) fun _ => .logged (.pure _)

theorem blind_storeCr0 (view : Word) : Blind (storeCr0 view) :=
  blind_store (by decide) (by decide) view (cr0Actual view) (storedRecord 0 view)

theorem blind_storeCr4 (view : Word) : Blind (storeCr4 view) :=
  blind_store (by decide) (by decide) view (cr4Actual view) (storedRecord 4 view)

theorem blind_movToCr0 (value : Word) : Blind (movToCr0 value) := by
  refine .logged (blind_checked (blind_checked (blind_checked ?_)))
  exact .ite (fun _ => blind_storeCr0 _) fun _ => blind_checkedInLongMode (blind_storeCr0 _)

theorem blind_movToCr3 (value : Word) : Blind (movToCr3 value) := by
  refine .logged (.bind .fetchWidth fun width => blind_checked ?_)
  refine .bind (.writeField _ _) fun _ => .ite (fun _ => ?_) fun _ => .pure _
  exact .get_bind (fun _ => rfl) fun m => .then_pure (.emit _) _

theorem blind_movToCr4 (value : Word) : Blind (movToCr4 value) := by
  refine .logged (blind_checked (blind_checked ?_))
  exact .ite (fun _ => blind_storeCr4 _) fun _ => blind_checkedInLongMode (blind_storeCr4 _)

theorem blind_movToCr8 (value : Word) : Blind (movToCr8 value) :=
  .logged (blind_checked (.then_pure (.of_on fun _ => rfl) _))

theorem blind_writeGpr (index value : Word) : Blind (writeGpr index value) := by
  refine .bind (.lift _) fun g => .bind (.modifyRegisters _) fun _ => ?_
  exact .ite (fun _ => .then_pure (.writeField _ _) _) fun _ => .pure _

theorem blind_movFromField (index : Word) (field : VmcsField) :
    Blind (movFromField index field) :=
  .bind (.readField _) fun _ => .logged (blind_writeGpr _ _)

theorem blind_readGpr (index : Word) : Blind (readGpr index) :=
  .bind (.lift _) fun _ => .bind .getRegisters fun _ => .pure _

theorem blind_serveControlRegister : Blind serveControlRegister := by
  refine .bind (.readField _) fun q => .bind .getRegisters fun r => .logged ?_
  split
  · exact .bind (blind_readGpr _) blind_movToCr0
  · exact .bind (blind_readGpr _) blind_movToCr3
  · exact .bind (blind_readGpr _) blind_movToCr4
  · exact .bind (blind_readGpr _) blind_movToCr8
  · exact blind_movFromField _ _
  · exact blind_movFromField _ _
  · exact blind_movFromField _ _
  · exact .get_bind (fun _ => rfl) fun m => blind_writeGpr _ _
  · exact .bind (.readField _) fun _ => blind_storeCr0 _
  · exact .logged (.bind (.readField _) fun _ => blind_storeCr0 _)
  · exact .logged (.throw _)

/-! ## Model-specific registers -/

theorem blind_refuseMsr (access : MsrAccess) (msr : Msr) : Blind (refuseMsr access msr) :=
  .logged (.injectGeneralProtection 0)

/-- The register that locks VMX is not one that the guest reads from the processor. -/
theorem visible_of_hardware {msr : Msr} {writable : Bool}
    (home : classify msr = .hardware writable) : msr ≠ .featureControl := by
  rintro rfl
  have emulated : classify .featureControl = .featureControl := by decide
  rw [emulated] at home
  cases home

theorem blind_readGuestMsr (msr : Msr) : Blind (readGuestMsr msr) := by
  rw [readGuestMsr]
  cases home : classify msr with
  | hardware writable =>
      exact .bind (.readMsr (visible_of_hardware home)) fun _ =>
        .then_pure (.modifyRegisters _) _
  | vmcs field => exact .bind (.readField _) fun _ => .then_pure (.modifyRegisters _) _
  | featureControl => exact .then_pure (.modifyRegisters _) _
  | denied => exact blind_refuseMsr _ _

theorem blind_writeGuestMsr (msr : Msr) (value : Word) : Blind (writeGuestMsr msr value) := by
  refine .ite (fun _ => .logged (.injectGeneralProtection 0)) fun _ => ?_
  cases classify msr with
  | hardware writable =>
      cases writable with
      | true => exact .then_pure (.writeMsr _ _) _
      | false => exact blind_refuseMsr _ _
  | vmcs field => exact .then_pure (.writeField _ _) _
  | featureControl => exact blind_refuseMsr _ _
  | denied => exact blind_refuseMsr _ _

theorem blind_serveMsr (access : MsrAccess) : Blind (serveMsr access) := by
  refine .bind .getRegisters fun r => .logged ?_
  cases access with
  | read => exact blind_readGuestMsr _
  | write => exact blind_writeGuestMsr _ _

/-! ## Single instructions -/

theorem blind_serveCpuid : Blind serveCpuid := by
  refine .get_bind (fun {m q} alike => ?_) fun m => .logged (.then_pure (.modifyRegisters _) _)
  -- the guest sees the leaf through the mask only
  dsimp only [on]
  rw [alike.maskLeaf_eq]

theorem blind_serveHalt : Blind serveHalt := by
  refine .get_bind (fun _ => rfl) fun m => ?_
  cases m.policy.halt with
  | trap => exact .logged (.pure _)
  | idle => exact .logged (.then_pure (.writeField _ _) _)

theorem blind_serveCacheFlush (reason : Reason) : Blind (serveCacheFlush reason) := by
  refine .get_bind (fun _ => rfl) fun m => ?_
  cases m.policy.cache with
  | emulate => exact .logged (.pure _)
  | writeBackInvalidate => exact .logged (.then_pure (.emit _) _)

theorem blind_serveInvlpg : Blind serveInvlpg :=
  .bind (.readField _) fun _ => .get_bind (fun _ => rfl) fun _ => .logged (.then_pure (.emit _) _)

/-! ## Calls -/

theorem blind_report (status : GuestCall.Status) (outcome : Outcome) :
    Blind (do GuestCall.report status; return outcome) :=
  .then_pure (.modifyRegisters _) _

theorem blind_serveCommit (size : Granularity) : Blind (GuestCall.serveCommit size) := by
  refine .bind .getRegisters fun r => .ite (fun _ => .logged (blind_report _ _)) fun _ => ?_
  refine .bind (.resolveType _ _) fun type => .ite (fun _ => .logged (blind_report _ _)) fun _ =>
    .bind (.changeEpt _) fun outcome => ?_
  cases outcome with
  | ok => exact blind_report _ _
  | error fault => exact .logged (blind_report _ _)

theorem blind_serveUncommit (size : Granularity) : Blind (GuestCall.serveUncommit size) := by
  refine .bind .getRegisters fun r => .bind (.changeEpt _) fun outcome => ?_
  cases outcome with
  | ok => exact blind_report _ _
  | error fault => exact .logged (blind_report _ _)

theorem blind_serveFlush : Blind GuestCall.serveFlush := by
  refine .get_bind (fun _ => rfl) fun m => .bind (.emit _) fun _ =>
    .ite (fun _ => .logged (.bind (.callHost _) fun answer => ?_)) fun _ => blind_report _ _
  exact .ite (fun _ => .logged (blind_report _ _)) fun _ => blind_report _ _

theorem blind_serveQuery : Blind GuestCall.serveQuery := by
  refine .bind .getRegisters fun r => ?_
  dsimp only
  cases (Granularity.ofSelector? r.r8).filter (·.Aligned r.rdx) with
  | none => exact blind_report _ _
  | some size =>
      exact .bind (.resolveType _ _) fun type =>
        .logged (.bind (.modifyRegisters _) fun _ => blind_report _ _)

theorem blind_serveKnown (call : GuestCall) : Blind (GuestCall.serveKnown call) := by
  cases call with
  | echo => exact .then_pure (.modifyRegisters _) _
  | turnOff => exact .logged (blind_report _ _)
  | commit size => exact blind_serveCommit size
  | uncommit size => exact blind_serveUncommit size
  | flush => exact blind_serveFlush
  | queryMemoryType => exact blind_serveQuery

theorem blind_serveGuestCall (code : BitVec 16) : Blind (GuestCall.serve code) := by
  rw [GuestCall.serve]
  cases GuestCall.ofCode? code with
  | none => exact .logged (blind_report _ _)
  | some call => exact .bind .getRegisters fun r => .logged (blind_serveKnown call)

theorem blind_callForGuest (input : Hypercall.Input) : Blind (callForGuest input) := by
  refine .get_bind (fun _ => rfl) fun m => .ite (fun _ => ?_) fun _ => ?_
  · refine .bind (.callHost _) fun answer => ?_
    cases answer.parameters with
    | fast block => exact .then_pure (.modifyRegisters _) _
    | memory => exact .pure _
  · cases blockAddresses m.ept m.registers.rdx m.registers.r8 with
    | ok blocks => exact .bind (.callHost _) fun answer => .pure _
    | error status => exact .logged (.pure _)

theorem blind_forwardToHost : Blind forwardToHost := by
  refine .get_bind (fun _ => rfl) fun m =>
    .ite (fun _ => .logged (.then_pure (.modifyRegisters _) _)) fun _ => ?_
  exact .bind (blind_callForGuest _) fun result => .logged (.then_pure (.modifyRegisters _) _)

theorem blind_serveVmcall : Blind serveVmcall :=
  .bind .getRegisters fun _ =>
    .logged (.ite (fun _ => blind_serveGuestCall _) fun _ => blind_forwardToHost)

/-! ## All services -/

theorem blind_serve (reason : Reason) (field : BitVec 32) : Blind (serve reason field) := by
  rw [serve]
  cases reason.service with
  | controlRegister => exact blind_serveControlRegister
  | cpuid => exact blind_serveCpuid
  | halt => exact blind_serveHalt
  | invlpg => exact blind_serveInvlpg
  | cacheFlush => exact blind_serveCacheFlush reason
  | msr access => exact blind_serveMsr access
  | vmcall => exact blind_serveVmcall
  | undefinedOpcode => exact .injectUndefinedOpcode
  | none => exact .logged (.throw _)

theorem blind_loadRegisters : Blind loadRegisters :=
  .bind (.readField _) fun _ => .bind (.modifyRegisters _) fun _ =>
    .bind (.readField _) fun _ => .bind (.modifyRegisters _) fun _ =>
    .bind (.readField _) fun _ => .modifyRegisters _

theorem blind_advanceRip : Blind advanceRip :=
  .bind (.bind (.readField _) fun _ => .lift _) fun _ => .bind (.modifyRegisters _) fun _ =>
    .bind .getRegisters fun _ => .writeField _ _

theorem blind_serveExit : Blind serveExit := by
  refine .bind (.bind (.readField _) fun _ => .pure _) fun field =>
    .bind blind_loadRegisters fun _ => ?_
  cases Reason.ofField? (field.setWidth 64) with
  | none => exact .throw _
  | some reason =>
      refine .bind (.of_on fun _ => rfl) fun _ => .bind .getRegisters fun r =>
        .logged (.bind (blind_serve reason field) fun outcome => ?_)
      exact .ite (fun _ => .then_pure blind_advanceRip _) fun _ => .pure _

end Exit

end NestedVisor
