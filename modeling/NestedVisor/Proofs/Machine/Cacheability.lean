import NestedVisor.Proofs.Caching.Subpage
import NestedVisor.Proofs.Machine.Typing

/-!
# Large pages and small ones

A large page has a single entry, and so a single memory type for all of its bytes.  If they were
mapped by smaller pages instead, each with a type of its own, it would be the same type.
-/

namespace NestedVisor.Machine

open Caching

variable {m : Machine} {coarse fine : Granularity} {base : Word}

/-- The page that holds `address` was last committed as `c`, and this is its entry. -/
structure Maps (m : Machine) (log : List Commit) (address : Word) (c : Commit)
    (entry : Paging.Entry) : Prop where
  inRange : address.toNat < Paging.guestPhysicalLimit
  leaf : m.ept.leaf? address c.size = some entry
  newest : log.find? (·.Gives address c.size) = some c

theorem Life.memoryType_eq {log : List Commit} {address : Word} {c : Commit}
    {entry : Paging.Entry} (life : Life m log) (maps : m.Maps log address c entry) :
    entry.memoryType = (m.typeOf c.backing c.size).code.setWidth 3 := by
  obtain ⟨c', newest, typed, rfl⟩ := life.typed.leaves _ _ _ maps.inRange maps.leaf
  cases maps.newest.symm.trans newest
  rw [Paging.Entry.memoryType_toPage]

theorem Commits.leaf? {c : Commit} (commits : m.Commits c) {address : Word}
    (inside : c.size.Holds c.base address) :
    m.dispatch.2.ept.leaf? address c.size =
      some (.toPage c.backing (m.typeOf c.backing c.size) (Paging.leafLevel c.size > 1)) := by
  obtain ⟨ok, tables⟩ := commits.ept
  have acceptable := (Paging.Ept.acceptable_of_commit_ok ok).1
  have low := Paging.lt_limit_of_holds acceptable.aligned acceptable.inRange inside
  rw [tables, Paging.Ept.leaf?_of_commit_ok ok low, if_pos ⟨rfl, inside⟩]

/--
A large page with a type shares it with every smaller page inside it.  So its bytes have the
memory type that they have in a partition where they were committed by smaller pages, as long as
the two partitions type alike.
-/
theorem subpages_agree (finer : fine.bits < coarse.bits) (aligned : coarse.Aligned base)
    (typed : (resolveCached m.processor m.width base coarse).1 ≠ .unspecified) :
    (∀ page, fine.Aligned page → coarse.Holds base page → ∀ cache, m.Knows cache →
      (resolveCached m.processor cache page fine).1 =
        (resolveCached m.processor m.width base coarse).1) ∧
    ∀ guest, m.Commits ⟨guest, coarse, base⟩ → ∀ a, coarse.Holds guest a →
      ∃ entry, m.dispatch.2.ept.leaf? a coarse = some entry ∧
        ∀ m' log, Life m' log → m'.processor.Agree m.processor →
          m'.addressWidth = m.addressWidth →
          ∀ page, fine.Aligned page → coarse.Holds base page →
          ∀ guest' a' entry', m'.Maps log a' ⟨guest', fine, page⟩ entry' →
            entry'.memoryType = entry.memoryType := by
  have here : (resolveCached m.processor m.width base coarse).1 = m.typeOf base coarse :=
    fst_resolveCached ..
  rw [here] at typed
  have agrees (page : Word) (aligned' : fine.Aligned page) (inside : coarse.Holds base page) :
      m.typeOf page fine = m.typeOf base coarse :=
    resolve_of_coarser (Nat.le_of_lt finer) aligned aligned' inside typed
  constructor
  case left =>
    intro page aligned' inside cache knows
    rw [(knows.resolveCached page fine).1, agrees page aligned' inside, here]
  case right =>
    intro guest commits a held
    refine ⟨_, commits.leaf? held, ?_⟩
    intro m' log life agree width page aligned' inside guest' a' entry' maps
    have same : m'.typeOf page fine = m.typeOf base coarse := by
      rw [← agrees page aligned' inside, typeOf, typeOf, width, agree.sameRanges.resolve_eq]
    rw [life.memoryType_eq maps, Paging.Entry.memoryType_toPage, same]

/-- The guest asks for memory that a scattered range makes write-through. -/
def askingForWriteThrough (code page backing : Word) : Machine :=
  { askingFor backing with
    processor := scatteredProcessor 1
    registers := { rcx := code, rdx := page, r8 := backing } }

/-- A guest asks for 2 MiB. -/
def askingForLarge : Machine :=
  askingForWriteThrough 0x5349524500000011 0x200000 0x40000000

/-- A guest asks for the second 4 KiB of the same memory. -/
def askingForSmall : Machine :=
  askingForWriteThrough 0x5349524500000010 0x5000 0x40001000

theorem subpages_agree_write_through :
    (resolveCached (scatteredProcessor 1) none 0x40001000 .page4K).1 = .writeThrough ∧
    ∃ entry entry',
      askingForLarge.dispatch.2.ept.leaf? 0x201123 .page2M = some entry ∧
      askingForSmall.dispatch.2.ept.leaf? 0x5123 .page4K = some entry' ∧
      entry'.memoryType = entry.memoryType := by
  have large : askingForLarge.Commits ⟨0x200000, .page2M, 0x40000000⟩ :=
    ⟨by decide, ⟨⟨rfl, fun _ _ => List.not_mem_nil⟩, rfl, rfl, rfl, rfl⟩, rfl⟩
  have small : askingForSmall.Commits ⟨0x5000, .page4K, 0x40001000⟩ :=
    ⟨by decide, ⟨⟨rfl, fun _ _ => List.not_mem_nil⟩, rfl, rfl, rfl, rfl⟩, rfl⟩
  have life : Life askingForSmall.dispatch.2 [⟨0x5000, .page4K, 0x40001000⟩] :=
    .committed (.start fun _ => rfl) small
  have finer : Granularity.page4K.bits < Granularity.page2M.bits := by decide
  have aligned : Granularity.page2M.Aligned 0x40000000 := by decide
  have aligned' : Granularity.page4K.Aligned 0x40001000 := by decide
  have inside : Granularity.page2M.Holds 0x40000000 0x40001000 := by decide
  obtain ⟨types, commits⟩ := subpages_agree (m := askingForLarge) finer aligned (by decide)
  refine ⟨(types _ aligned' inside none (.inl rfl)).trans (by decide), ?_⟩
  obtain ⟨entry, leaf, same⟩ := commits 0x200000 large 0x201123 (by decide)
  have leaf' := small.leaf? (by decide : Granularity.page4K.Holds 0x5000 0x5123)
  exact ⟨entry, _, leaf, leaf', same _ _ life (.refl _) (by decide) _ aligned' inside _ _ _
    ⟨by decide, leaf', rfl⟩⟩

end NestedVisor.Machine
