import NestedVisor.Proofs.Paging.Accounting

/-!
# The tables in memory

The processor sees pages of words: it starts at the page of the root and follows the entries.
`walk?` and `TableAt` read the words alone.  As every table has a page of its own, what they find
is the tree.
-/

namespace NestedVisor.Paging

def Entry.table? (e : Entry) : Option Word :=
  if e.present && !e.large then some e.address else none

namespace Slot

variable {whole slot : Slot} {top level : Nat} {frame next : Word} {slots : SlotIndex → Slot}

/-! ## Tables as pages of words -/

theorem image_table (frame : Word) (slots : SlotIndex → Slot) :
    image (.table frame slots) =
      (frame, fun i => (slots i).word) :: SlotIndex.all.flatMap fun i => image (slots i) :=
  rfl

theorem map_fst_image_perm (slot : Slot) : (slot.image.map Prod.fst).Perm slot.frames := by
  induction slot with
  | empty => exact .refl _
  | page entry => exact .refl _
  | table frame slots ih =>
      rw [image_table, frames_table, List.map_cons, List.map_flatMap]
      exact ((List.Perm.flatMap_left _ fun i _ => ih i).cons frame).trans
        (List.perm_append_singleton frame _).symm

def frame? : Slot → Option Word
  | .table frame _ => some frame
  | _ => none

def references : Slot → List ((Word × SlotIndex) × Word)
  | .table frame slots =>
      SlotIndex.all.flatMap fun i =>
        (slots i).frame?.toList.map ((frame, i), ·) ++ references (slots i)
  | _ => []

theorem references_table (frame : Word) (slots : SlotIndex → Slot) :
    references (.table frame slots) =
      SlotIndex.all.flatMap fun i =>
        (slots i).frame?.toList.map ((frame, i), ·) ++ references (slots i) :=
  rfl

theorem map_snd_references_perm (slot : Slot) :
    (slot.frame?.toList ++ slot.references.map Prod.snd).Perm slot.frames := by
  induction slot with
  | empty => exact .refl _
  | page entry => exact .refl _
  | table frame slots ih =>
      have below : (references (.table frame slots)).map Prod.snd =
          SlotIndex.all.flatMap fun i =>
            (slots i).frame?.toList ++ (references (slots i)).map Prod.snd := by
        rw [references_table, List.map_flatMap]
        apply List.flatMap_congr
        intro i _
        rw [List.map_append, List.map_map]
        exact congrArg (· ++ _) (List.map_id _)
      rw [frame?, Option.toList_some, below, frames_table]
      exact List.perm_append_comm.trans
        ((List.Perm.flatMap_left _ fun i _ => ih i).append_right [frame])

/-! ## Slots anywhere in a tree -/

/-- `slot` stands at `level` in the tree below `whole`, which stands at level `top`. -/
inductive Within (whole : Slot) (top : Nat) : Nat → Slot → Prop
  | self : Within whole top top whole
  | slot {level : Nat} {frame : Word} {slots : SlotIndex → Slot} (i : SlotIndex)
      (above : Within whole top (level + 1) (.table frame slots)) :
      Within whole top level (slots i)

theorem Within.image_subset (h : Within whole top level slot) : slot.image ⊆ whole.image := by
  induction h with
  | self => exact fun _ h => h
  | slot i _ ih =>
      intro page h
      apply ih
      rw [image_table]
      exact List.mem_cons_of_mem _ (List.mem_flatMap.2 ⟨i, SlotIndex.mem_all i, h⟩)

theorem Within.references_subset (h : Within whole top level slot) :
    slot.references ⊆ whole.references := by
  induction h with
  | self => exact fun _ h => h
  | slot i _ ih =>
      intro reference h
      apply ih
      rw [references_table]
      exact List.mem_flatMap.2 ⟨i, SlotIndex.mem_all i, List.mem_append_right _ h⟩

theorem Within.exists_of_mem_frames (h : Within whole top level slot)
    (wf : slot.WellFormed level) (mem : frame ∈ slot.frames) :
    ∃ lower slots, Within whole top (lower + 1) (.table frame slots) := by
  induction wf with
  | empty level => simp [frames] at mem
  | page => simp [frames] at mem
  | @table level slots own pos used below ih =>
      rw [frames_table, List.mem_append, List.mem_flatMap, List.mem_singleton] at mem
      rcases mem with ⟨i, _, mem⟩ | rfl
      · exact ih i (.slot i h) mem
      · exact ⟨level, slots, h⟩

theorem present_word (wf : slot.WellFormed level) (inUse : slot ≠ .empty) :
    Entry.present ⟨slot.word⟩ = true := by
  cases wf with
  | empty level => contradiction
  | page pos le present large => exact present
  | table frame pos used below => exact Entry.present_toTable frame

theorem table?_word (wf : slot.WellFormed level) (above : 1 < level)
    (usable : ∀ frame ∈ slot.frame?, frame.toNat % 4096 = 0 ∧ frame.toNat < 2 ^ 52) :
    Entry.table? ⟨slot.word⟩ = slot.frame? := by
  cases wf with
  | empty level => rfl
  | page pos le present large => simp [word, Entry.table?, large, above, frame?]
  | table frame pos used below =>
      obtain ⟨aligned, bound⟩ := usable frame rfl
      rw [word, Entry.table?, Entry.present_toTable, Entry.large_toTable,
        Entry.address_toTable aligned bound, frame?]
      rfl

end Slot

namespace Ept

variable {held : List Word} {e : Ept} {level : Nat} {frame next : Word}
  {slots : SlotIndex → Slot}

def words? (e : Ept) (frame : Word) : Option (SlotIndex → Word) :=
  e.image.lookup frame

/-- A table at `level` stands in the page `frame`: the entries lead there from the root. -/
inductive TableAt (e : Ept) : Nat → Word → Prop
  | root : TableAt e 4 e.root
  | next {level : Nat} {frame next : Word} {words : SlotIndex → Word} {i : SlotIndex}
      (pos : 1 ≤ level) (above : TableAt e (level + 1) frame)
      (read : e.words? frame = some words) (entry : Entry.table? ⟨words i⟩ = some next) :
      TableAt e level next

def Refers (e : Ept) (frame : Word) (i : SlotIndex) (next : Word) : Prop :=
  ∃ level words, 1 ≤ level ∧ TableAt e (level + 1) frame ∧ e.words? frame = some words ∧
    Entry.table? ⟨words i⟩ = some next

/-- The walk of `address` from the table at `level` in the page `frame`. -/
def walk? (e : Ept) (address : Word) : Nat → Word → Option Word
  | 0, _ => none
  | level + 1, frame =>
      match e.words? frame with
      | none => none
      | some words =>
          let entry : Entry := ⟨words (slotIndex address (level + 1))⟩
          if ¬ entry.present then none
          else if level = 0 ∨ entry.large then
            some (entry.address + pageOffset address (level + 1))
          else walk? e address level entry.address

/-! ## Slots of the tree -/

theorem WellFormed.of_within {slot : Slot} (wf : e.WellFormed)
    (h : Slot.Within e.tree 5 level slot) :
    level = 5 ∧ slot = e.tree ∨ slot.WellFormed level := by
  induction h with
  | self => exact .inl ⟨rfl, rfl⟩
  | slot i _ ih =>
      right
      rcases ih with ⟨top, whole⟩ | below
      · cases whole
        cases top
        exact wf i
      · cases below with
        | table frame pos used below => exact below i

theorem WellFormed.slots_of_within (wf : e.WellFormed)
    (h : Slot.Within e.tree 5 (level + 1) (.table frame slots)) :
    1 ≤ level ∧ ∀ i, (slots i).WellFormed level := by
  rcases wf.of_within h with ⟨top, whole⟩ | below
  · cases whole
    cases top
    exact ⟨by decide, wf⟩
  · cases below with
    | table frame pos used below => exact ⟨pos, below⟩

theorem mem_image_of_within (h : Slot.Within e.tree 5 level (.table frame slots)) :
    (frame, fun i => (slots i).word) ∈ e.image := by
  apply h.image_subset
  rw [Slot.image_table]
  exact List.mem_cons_self

theorem mem_frames_of_within (h : Slot.Within e.tree 5 level (.table frame slots)) :
    frame ∈ e.tree.frames :=
  (Slot.map_fst_image_perm e.tree).mem_iff.1 (List.mem_map_of_mem (mem_image_of_within h))

theorem exists_within_of_mem_frames (wf : e.WellFormed) (mem : frame ∈ e.tree.frames) :
    ∃ level slots, Slot.Within e.tree 5 (level + 1) (.table frame slots) := by
  rw [tree, Slot.frames_table, List.mem_append, List.mem_flatMap, List.mem_singleton] at mem
  rcases mem with ⟨i, _, mem⟩ | rfl
  · exact Slot.Within.exists_of_mem_frames (.slot i .self) (wf i) mem
  · exact ⟨4, e.slots, .self⟩

end Ept

namespace Accounts

variable {held : List Word} {e : Ept} {level : Nat} {frame next : Word}
  {slots : SlotIndex → Slot}

theorem words?_of_mem_image (a : Accounts held e) {words : SlotIndex → Word}
    (h : (frame, words) ∈ e.image) : e.words? frame = some words := by
  have nodup := (Slot.map_fst_image_perm e.tree).nodup_iff.2 a.nodup
  cases found : e.words? frame with
  | none =>
      rw [Ept.words?, List.lookup_eq_none_iff] at found
      have := found _ h
      simp at this
  | some other =>
      obtain ⟨before, after, split, _⟩ := List.lookup_eq_some_iff.1 found
      have mem : (frame, other) ∈ e.image := by
        rw [split]
        simp
      have := List.inj_on_of_nodup_map nodup mem h rfl
      rw [(Prod.mk.inj this).2]

theorem words?_of_within (a : Accounts held e)
    (h : Slot.Within e.tree 5 level (.table frame slots)) :
    e.words? frame = some fun i => (slots i).word :=
  a.words?_of_mem_image (Ept.mem_image_of_within h)

theorem table?_of_within (a : Accounts held e) (wf : e.WellFormed)
    (h : Slot.Within e.tree 5 (level + 1) (.table frame slots)) (above : 1 < level)
    (i : SlotIndex) : Entry.table? ⟨(slots i).word⟩ = (slots i).frame? := by
  refine Slot.table?_word ((wf.slots_of_within h).2 i) above fun page own => ?_
  have within := Slot.Within.slot i h
  cases hs : slots i with
  | empty => simp [hs, Slot.frame?] at own
  | page entry => simp [hs, Slot.frame?] at own
  | table next below =>
      rw [hs] at own within
      cases own
      exact (a.fresh _ (Ept.mem_frames_of_within within)).2

/-! ## Tables found in memory -/

theorem tableAt_iff (a : Accounts held e) (wf : e.WellFormed) :
    e.TableAt level frame ↔ ∃ slots, Slot.Within e.tree 5 (level + 1) (.table frame slots) := by
  constructor
  · intro h
    -- pages of the pool are distinct, so each page read is the table that it was linked as
    induction h with
    | root => exact ⟨e.slots, .self⟩
    | @next level frame next words i pos _ read entry ih =>
        obtain ⟨slots, within⟩ := ih
        rw [a.words?_of_within within, Option.some.injEq] at read
        rw [← read, a.table?_of_within wf within (Nat.lt_succ_of_le pos)] at entry
        cases hs : slots i with
        | empty => simp [hs, Slot.frame?] at entry
        | page entry' => simp [hs, Slot.frame?] at entry
        | table page below =>
            rw [hs] at entry
            cases entry
            exact ⟨below, hs ▸ .slot i within⟩
  · rintro ⟨slots, within⟩
    -- from the root down: the table above stands in memory, and its slot holds the address
    generalize hlevel : level + 1 = slotLevel at within
    generalize hslot : Slot.table frame slots = slot at within
    induction within generalizing level frame slots with
    | self =>
        cases hslot
        cases hlevel
        exact .root
    | @slot slotLevel parent siblings i above ih =>
        subst hlevel
        have own : (siblings i).frame? = some frame := by
          rw [← hslot, Slot.frame?]
        have pos : 1 ≤ level := by
          have := (wf.slots_of_within above).2 i
          rw [← hslot] at this
          cases this with
          | table frame pos used below => exact pos
        exact .next pos (ih _ rfl rfl) (a.words?_of_within above)
          ((a.table?_of_within wf above (Nat.lt_succ_of_le pos) i).trans own)

theorem exists_tableAt_iff (a : Accounts held e) (wf : e.WellFormed) :
    (∃ level, e.TableAt level frame) ↔ frame ∈ e.tree.frames := by
  constructor
  · rintro ⟨level, table⟩
    obtain ⟨slots, within⟩ := (a.tableAt_iff wf).1 table
    exact Ept.mem_frames_of_within within
  · intro mem
    obtain ⟨level, slots, within⟩ := Ept.exists_within_of_mem_frames wf mem
    exact ⟨level, (a.tableAt_iff wf).2 ⟨slots, within⟩⟩

theorem exists_present (a : Accounts held e) (wf : e.WellFormed) (table : e.TableAt level frame)
    (below : frame ≠ e.root) :
    ∃ words i, e.words? frame = some words ∧ Entry.present ⟨words i⟩ = true := by
  obtain ⟨slots, within⟩ := (a.tableAt_iff wf).1 table
  rcases wf.of_within within with ⟨_, whole⟩ | inner
  · cases whole
    contradiction
  · cases inner with
    | table frame pos used slotsWf =>
        obtain ⟨i, inUse⟩ := used
        exact ⟨_, i, a.words?_of_within within, Slot.present_word (slotsWf i) inUse⟩

/-! ## References between tables -/

theorem mem_references (a : Accounts held e) (wf : e.WellFormed) {i : SlotIndex}
    (h : e.Refers frame i next) : ((frame, i), next) ∈ e.tree.references := by
  obtain ⟨level, words, pos, table, read, entry⟩ := h
  obtain ⟨slots, within⟩ := (a.tableAt_iff wf).1 table
  rw [a.words?_of_within within, Option.some.injEq] at read
  rw [← read, a.table?_of_within wf within (Nat.lt_succ_of_le pos)] at entry
  apply within.references_subset
  rw [Slot.references_table]
  refine List.mem_flatMap.2 ⟨i, SlotIndex.mem_all i, List.mem_append_left _ ?_⟩
  rw [entry]
  simp

theorem nodup_references (a : Accounts held e) :
    (e.root :: e.tree.references.map Prod.snd).Nodup := by
  have once := Slot.map_snd_references_perm e.tree
  have root : e.tree.frame? = some e.root := rfl
  rw [root, Option.toList_some, List.singleton_append] at once
  exact once.nodup_iff.2 a.nodup

theorem not_refers_root (a : Accounts held e) (wf : e.WellFormed) (i : SlotIndex) :
    ¬ e.Refers frame i e.root := by
  intro h
  have := List.mem_map_of_mem (f := Prod.snd) (a.mem_references wf h)
  exact (List.nodup_cons.1 a.nodup_references).1 this

theorem existsUnique_refers (a : Accounts held e) (wf : e.WellFormed)
    (table : e.TableAt level next) (below : next ≠ e.root) :
    ∃! entry : Word × SlotIndex, e.Refers entry.1 entry.2 next := by
  cases table with
  | root => contradiction
  | @next level frame next words i pos above read entry =>
      refine ⟨(frame, i), ⟨level, words, pos, above, read, entry⟩, ?_⟩
      intro other refers
      have first := a.mem_references wf refers
      have second := a.mem_references wf ⟨level, words, pos, above, read, entry⟩
      have := List.inj_on_of_nodup_map (List.nodup_cons.1 a.nodup_references).2 first second rfl
      exact (Prod.mk.inj this).1

/-! ## The walk of the processor -/

theorem walk?_of_within (a : Accounts held e) (wf : e.WellFormed) (address : Word)
    (h : Slot.Within e.tree 5 (level + 1) (.table frame slots)) :
    e.walk? address level frame = (slots (slotIndex address level)).translate? address level := by
  induction level generalizing frame slots with
  | zero => exact absurd (wf.slots_of_within h).1 (by decide)
  | succ level ih =>
      have below := (wf.slots_of_within h).2 (slotIndex address (level + 1))
      have within := Slot.Within.slot (slotIndex address (level + 1)) h
      rw [Ept.walk?, a.words?_of_within h]
      obtain ⟨slot, hs⟩ : ∃ slot, slots (slotIndex address (level + 1)) = slot := ⟨_, rfl⟩
      simp only [hs] at below within ⊢
      cases below with
      | empty level => rfl
      | page pos le present large =>
          simp [Slot.word, present, large, Nat.eq_zero_or_pos, Slot.translate?]
      | @table level slots next pos used _ =>
          obtain ⟨aligned, bound⟩ := (a.fresh _ (Ept.mem_frames_of_within within)).2
          have inner : level ≠ 0 := Nat.pos_iff_ne_zero.1 pos
          have entry : Entry.mk (Slot.word (.table next slots)) = .toTable next := rfl
          rw [Slot.translate?, Nat.add_sub_cancel, ← ih within]
          simp [entry, Entry.present_toTable, Entry.large_toTable, inner,
            Entry.address_toTable aligned bound]

theorem walk?_root (a : Accounts held e) (wf : e.WellFormed) {address : Word}
    (ha : address.toNat < guestPhysicalLimit) :
    e.walk? address 4 e.root = e.translate? address := by
  rw [Ept.translate?, if_pos ha]
  exact a.walk?_of_within wf address .self

end Accounts

end NestedVisor.Paging
