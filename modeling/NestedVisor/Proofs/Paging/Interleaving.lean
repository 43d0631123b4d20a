import NestedVisor.Proofs.Paging.Answer

/-!
# Callers that work on disjoint pages

Several callers send requests to one address space, in any order between them.  When no two of
them name pages that share an address, the order does not matter, although their pages hang below
the same tables: every call gets the answer it would get without the other callers.

The proof follows the mappings around the pages of one caller.  `Near` picks them out; the
caller's own requests see and change no others, and nobody else's request touches them.
-/

namespace NestedVisor.Paging

variable {ι : Type}

/-- A request, who sent it and what came back. -/
structure Call (ι : Type) where
  caller : ι
  request : Request
  outcome : Except PagingFault Unit

/-- Calls one after another; at any time the pool may change what it supplies. -/
inductive Session : Ept → List (Call ι) → Ept → Prop
  | done (e : Ept) : Session e [] e
  | call {e e' : Ept} {calls : List (Call ι)} (caller : ι) (r : Request)
      (rest : Session (e.serve r).ept calls e') :
      Session e (⟨caller, r, (e.serve r).outcome⟩ :: calls) e'
  | resupplied {e e' : Ept} {calls : List (Call ι)} (supply : Nat → List Word → Option Word)
      (honest : { e.pool with supply := supply }.Honest)
      (rest : Session { e with pool := { e.pool with supply := supply } } calls e') :
      Session e calls e'

@[simp] def Request.base : Request → Word
  | .commit base .. => base
  | .uncommit base _ => base

@[simp] def Request.size : Request → Granularity
  | .commit _ size .. => size
  | .uncommit _ size => size

/-- Whether `a` lies in the page that a request is about; a misaligned base names no page. -/
def Request.Names (r : Request) (a : Word) : Prop :=
  r.size.Aligned r.base ∧ r.size.Holds r.base a

/-- No address lies in pages that two callers name. -/
def Apart (programs : ι → List Request) : Prop :=
  ∀ i j, i ≠ j → ∀ r ∈ programs i, ∀ r' ∈ programs j, ∀ a, r.Names a → ¬ r'.Names a

variable {e e' : Ept} {s s' : Finset Mapping} {calls : List (Call ι)} {r : Request}
  {P : Mapping → Prop}

/-! ## Sessions follow the answers -/

/-- Every call got the answer that the mappings before it ask for. -/
def Answered (s : Finset Mapping) : List (Call ι) → Prop
  | [] => True
  | c :: rest => c.outcome = c.request.answer s ∧ Answered (c.request.next s) rest

def mappingsAfter (s : Finset Mapping) (calls : List (Call ι)) : Finset Mapping :=
  calls.foldl (fun s c => c.request.next s) s

theorem Session.answered {held : List Word} (run : Session e calls e') (h : History held e s)
    (ample : ∀ c ∈ calls, c.outcome ≠ .error .outOfResources) :
    Answered s calls ∧ History held e' (mappingsAfter s calls) := by
  induction run generalizing s with
  | done e => exact ⟨trivial, h⟩
  | call caller r rest ih =>
      rw [List.forall_mem_cons] at ample
      have answer := h.tracks.outcome_eq_answer ample.1
      have next := h.served r
      rw [answer] at next
      obtain ⟨answered, after⟩ := ih next ample.2
      exact ⟨⟨answer, answered⟩, after⟩
  | resupplied supply honest rest ih => exact ih (h.resupplied supply honest) ample

/-- The answers leave no choice. -/
theorem Answered.unique {other : List (Call ι)} (h : Answered s calls) (h' : Answered s other)
    (same : calls.map (fun c => (c.caller, c.request)) =
      other.map fun c => (c.caller, c.request)) : calls = other := by
  induction calls generalizing s other with
  | nil => exact (List.map_eq_nil_iff.1 same.symm).symm
  | cons c rest ih =>
      cases other with
      | nil => simp at same
      | cons c' rest' =>
          obtain ⟨caller, request, outcome⟩ := c
          obtain ⟨caller', request', outcome'⟩ := c'
          simp only [List.map_cons, List.cons.injEq, Prod.mk.injEq] at same
          obtain ⟨⟨rfl, rfl⟩, same⟩ := same
          obtain rfl : outcome = outcome' := h.1.trans h'.1.symm
          rw [ih h.2 h'.2 same]

/-! ## Mappings of one kind -/

/-- The sets list the same mappings of the kind `P`. -/
def SameOn (P : Mapping → Prop) (s s' : Finset Mapping) : Prop :=
  ∀ m, P m → (m ∈ s ↔ m ∈ s')

/-- Every mapping that meets the page of the request is of the kind `P`. -/
def Request.Within (r : Request) (P : Mapping → Prop) : Prop :=
  ∀ m : Mapping, ∀ a, m.Covers a → r.Names a → P m

/-- No mapping of the very page of the request is of the kind `P`. -/
def Request.Outside (r : Request) (P : Mapping → Prop) : Prop :=
  r.size.Aligned r.base → ∀ m : Mapping, m.base = r.base → m.size = r.size → ¬ P m

theorem SameOn.refl (P : Mapping → Prop) (s : Finset Mapping) : SameOn P s s :=
  fun _ _ => Iff.rfl

theorem SameOn.conflicts {base : Word} {size : Granularity} (same : SameOn P s s')
    (near : ∀ m : Mapping, ∀ a, m.Covers a → size.Holds base a → P m) :
    Conflicts s base size ↔ Conflicts s' base size := by
  refine exists_congr fun m => ?_
  constructor
  · rintro ⟨hm, other, a, covers, holds⟩
    exact ⟨(same m (near m a covers holds)).1 hm, other, a, covers, holds⟩
  · rintro ⟨hm, other, a, covers, holds⟩
    exact ⟨(same m (near m a covers holds)).2 hm, other, a, covers, holds⟩

theorem SameOn.answer (same : SameOn P s s') (within : r.Within P) :
    r.answer s = r.answer s' := by
  cases refusal : r.refusal? with
  | some fault => rw [Request.answer_of_refusal refusal, Request.answer_of_refusal refusal]
  | none =>
      cases r with
      | uncommit base size => simp [Request.answer, refusal]
      | commit base size backing type =>
          have aligned := (Request.refusal?_commit_eq_none_iff.1 refusal).aligned
          have conflicts : Conflicts s base size ↔ Conflicts s' base size :=
            same.conflicts fun m a covers holds => within m a covers ⟨aligned, holds⟩
          simp [Request.answer, refusal, conflicts]

theorem SameOn.apply (same : SameOn P s s') : SameOn P (r.apply s) (r.apply s') := by
  intro m hm
  cases r <;> simp [Request.apply, mem_without, same m hm]

theorem SameOn.next (same : SameOn P s s') (within : r.Within P) :
    SameOn P (r.next s) (r.next s') := by
  rw [Request.next, Request.next, same.answer within]
  cases r.answer s' with
  | error fault => exact same
  | ok => exact same.apply

theorem Request.Outside.next (outside : r.Outside P) : SameOn P (r.next s) s := by
  intro m hm
  by_cases aligned : r.size.Aligned r.base
  · have other : ¬ (m.base = r.base ∧ m.size = r.size) :=
      fun h => outside aligned m h.1 h.2 hm
    rw [Request.next]
    cases r.answer s with
    | error fault => rfl
    | ok =>
        cases r with
        | uncommit base size => simpa [settle, apply, mem_without] using fun _ : m ∈ s => other
        | commit base size backing type =>
            have new : m ≠ ⟨base, size, backing.setWidth 52, type⟩ := by
              rintro rfl
              exact other ⟨rfl, rfl⟩
            simpa [settle, apply, mem_without, new] using fun _ : m ∈ s => other
  · have refused : r.refusal? = some (.misaligned r.base) := by
      cases r <;> exact if_pos aligned
    rw [Request.next_of_refusal refused]

/-- The callers that `mine` picks out see, of the mappings of the kind `P`, only each other. -/
theorem Answered.project (answered : Answered s calls) (mine : ι → Bool)
    (same : SameOn P s s')
    (own : ∀ c ∈ calls, mine c.caller = true → c.request.Within P)
    (foreign : ∀ c ∈ calls, mine c.caller = false → c.request.Outside P) :
    Answered s' (calls.filter fun c => mine c.caller) ∧
      SameOn P (mappingsAfter s calls)
        (mappingsAfter s' (calls.filter fun c => mine c.caller)) := by
  induction calls generalizing s s' with
  | nil => exact ⟨trivial, same⟩
  | cons c rest ih =>
      rw [List.forall_mem_cons] at own foreign
      cases whose : mine c.caller with
      | true =>
          have within := own.1 whose
          rw [List.filter_cons_of_pos (by simpa using whose)]
          obtain ⟨later, after⟩ := ih answered.2 (same.next within) own.2 foreign.2
          exact ⟨⟨answered.1.trans (same.answer within), later⟩, after⟩
      | false =>
          rw [List.filter_cons_of_neg (by simp [whose])]
          refine ih answered.2 (fun m hm => ?_) own.2 foreign.2
          exact ((foreign.1 whose).next m hm).trans (same m hm)

/-! ## Interleavings -/

variable [DecidableEq ι]

def ofCaller (i : ι) (calls : List (Call ι)) : List (Call ι) :=
  calls.filter fun c => decide (c.caller = i)

/-- Every caller gets through its program, in order. -/
def Interleaves (programs : ι → List Request) (calls : List (Call ι)) : Prop :=
  ∀ i, (ofCaller i calls).map Call.request = programs i

/-- The mapping meets a page that the caller names. -/
def Near (programs : ι → List Request) (i : ι) (m : Mapping) : Prop :=
  ∃ r ∈ programs i, ∃ a, r.Names a ∧ m.Covers a

namespace Interleaves

variable {programs : ι → List Request} {c : Call ι}

theorem request_mem (woven : Interleaves programs calls) (hc : c ∈ calls) :
    c.request ∈ programs c.caller := by
  rw [← woven c.caller]
  exact List.mem_map_of_mem (List.mem_filter.2 ⟨hc, by simp⟩)

theorem within (woven : Interleaves programs calls) (hc : c ∈ calls) :
    c.request.Within (Near programs c.caller) :=
  fun _ a covers names => ⟨c.request, woven.request_mem hc, a, names, covers⟩

theorem outside (woven : Interleaves programs calls) (apart : Apart programs) {i : ι}
    (hc : c ∈ calls) (other : c.caller ≠ i) : c.request.Outside (Near programs i) := by
  rintro aligned m base size ⟨r, hr, a, names, covers⟩
  refine apart _ _ other _ (woven.request_mem hc) r hr a ⟨aligned, ?_⟩ names
  rw [← base, ← size]
  exact covers

theorem alone (woven : Interleaves programs calls) (apart : Apart programs)
    (answered : Answered s calls) (i : ι) :
    Answered s (ofCaller i calls) ∧
      SameOn (Near programs i) (mappingsAfter s calls) (mappingsAfter s (ofCaller i calls)) := by
  refine answered.project (fun j => decide (j = i)) (.refl _ s) ?_ ?_
  · intro c hc whose
    rw [← of_decide_eq_true whose]
    exact woven.within hc
  · intro c hc whose
    exact woven.outside apart hc (of_decide_eq_false whose)

theorem untouched (woven : Interleaves programs calls) (answered : Answered s calls) :
    SameOn (fun m => ∀ i, ¬ Near programs i m) (mappingsAfter s calls) s := by
  have foreign : ∀ c ∈ calls, c.request.Outside fun m => ∀ i, ¬ Near programs i m := by
    intro c hc aligned m base size far
    refine far c.caller (woven.within hc m m.base holds_self ⟨aligned, ?_⟩)
    rw [← base, ← size]
    exact holds_self
  have nobody := answered.project (fun _ => false) (.refl _ s) (fun _ _ whose => nomatch whose)
    fun c hc _ => foreign c hc
  simpa [mappingsAfter] using nobody.2

end Interleaves

/--
Two interleavings of programs on disjoint pages, none of which runs out of pages, answer every
call alike and end with the same translations, the same entries and as many pages in use.
-/
theorem History.interleavings_agree {held : List Word} (h : History held e s)
    {programs : ι → List Request} (apart : Apart programs) {first second : List (Call ι)}
    {e₁ e₂ : Ept} (run₁ : Session e first e₁) (run₂ : Session e second e₂)
    (woven₁ : Interleaves programs first) (woven₂ : Interleaves programs second)
    (ample₁ : ∀ c ∈ first, c.outcome ≠ .error .outOfResources)
    (ample₂ : ∀ c ∈ second, c.outcome ≠ .error .outOfResources) :
    (∀ i, ofCaller i first = ofCaller i second) ∧
    (∀ a, e₁.translate? a = e₂.translate? a) ∧
    (∀ a size, e₁.leaf? a size = e₂.leaf? a size) ∧
    e₁.pool.live.length = e₂.pool.live.length := by
  obtain ⟨answered₁, h₁⟩ := run₁.answered h ample₁
  obtain ⟨answered₂, h₂⟩ := run₂.answered h ample₂
  have calls (i : ι) : ofCaller i first = ofCaller i second := by
    refine (woven₁.alone apart answered₁ i).1.unique (woven₂.alone apart answered₂ i).1 ?_
    have pairs {calls : List (Call ι)} (woven : Interleaves programs calls) :
        (ofCaller i calls).map (fun c => (c.caller, c.request)) =
          (programs i).map fun r => (i, r) := by
      rw [← woven i, List.map_map]
      refine List.map_congr_left fun c hc => ?_
      have := (List.mem_filter.1 hc).2
      simp_all
    rw [pairs woven₁, pairs woven₂]
  have mappings : mappingsAfter s first = mappingsAfter s second := by
    ext m
    by_cases near : ∃ i, Near programs i m
    · obtain ⟨i, near⟩ := near
      rw [(woven₁.alone apart answered₁ i).2 m near, (woven₂.alone apart answered₂ i).2 m near,
        calls i]
    · have far := not_exists.1 near
      rw [woven₁.untouched answered₁ m far, woven₂.untouched answered₂ m far]
  rw [mappings] at h₁
  refine ⟨calls, h₁.tracks.translate?_eq h₂.tracks, h₁.tracks.leaf?_eq h₂.tracks, ?_⟩
  rw [h₁.length_live, h₂.length_live]

/-- Two callers below one table, one of which empties its page again. -/
def neighbours : Bool → List Request
  | true => [.commit 0x1000 .page4K 0x7000 .writeBack]
  | false => [.commit 0x2000 .page4K 0x8000 .writeBack, .uncommit 0x2000 .page4K]

theorem apart_neighbours : Apart neighbours := by
  have base (i : Bool) : ∀ r ∈ neighbours i,
      r.size = .page4K ∧ r.base = if i then 0x1000 else 0x2000 := by
    cases i <;> simp [neighbours]
  intro i j other r hr r' hr' a names names'
  have first := names.2
  have second := names'.2
  rw [(base i r hr).1, (base i r hr).2] at first
  rw [(base j r' hr').1, (base j r' hr').2] at second
  cases i <;> cases j <;> simp [Granularity.Holds, Granularity.bits] at * <;> omega

def sixteenPages : Ept :=
  ⟨0x100000, fun _ => .empty, ⟨(PagePool.ofRun 0x100000 16).supply, 1, [0x100000]⟩⟩

theorem History.interleavings_agree_neighbours :
    ∃ (e e₁ e₂ : Ept) (first second : List (Call Bool)), History [] e ∅ ∧
      first.map Call.caller = [true, false, false] ∧
      second.map Call.caller = [false, true, false] ∧
      Session e first e₁ ∧ Session e second e₂ ∧
      (∀ i, ofCaller i first = ofCaller i second) ∧
      (∀ a, e₁.translate? a = e₂.translate? a) ∧
      e₁.pool.live.length = e₂.pool.live.length := by
  have h : History [] sixteenPages ∅ :=
    History.ofRun 0x100000 16 (by decide) (by decide) (by decide)
  have run₁ := Session.call (e := sixteenPages) true (.commit 0x1000 .page4K 0x7000 .writeBack)
    (.call false (.commit 0x2000 .page4K 0x8000 .writeBack)
      (.call false (.uncommit 0x2000 .page4K) (.done _)))
  have run₂ := Session.call (e := sixteenPages) false (.commit 0x2000 .page4K 0x8000 .writeBack)
    (.call true (.commit 0x1000 .page4K 0x7000 .writeBack)
      (.call false (.uncommit 0x2000 .page4K) (.done _)))
  have ample {c₁ c₂ c₃ : Call Bool} (h₁ : c₁.outcome = .ok ()) (h₂ : c₂.outcome = .ok ())
      (h₃ : c₃.outcome = .ok ()) : ∀ c ∈ [c₁, c₂, c₃], c.outcome ≠ .error .outOfResources := by
    simp [h₁, h₂, h₃]
  have agree := h.interleavings_agree apart_neighbours run₁ run₂
    (by intro i; cases i <;> rfl) (by intro i; cases i <;> rfl)
    (ample (by decide +kernel) (by decide +kernel) (by decide +kernel))
    (ample (by decide +kernel) (by decide +kernel) (by decide +kernel))
  exact ⟨_, _, _, _, _, h, rfl, rfl, run₁, run₂, agree.1, agree.2.1, agree.2.2.2⟩

end NestedVisor.Paging
