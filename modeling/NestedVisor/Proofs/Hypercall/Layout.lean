import Mathlib.Algebra.Group.Nat.Defs
import Mathlib.Data.List.Induction
import NestedVisor.Hypercall.Input
import NestedVisor.Hypercall.Result

/-!
# The layout of hypercall words

An input value is a record of six fields, with reserved bits in the gaps between them.  Any
sequence of updates is a list of single writes, so a field holds the last number written to it,
cut to its width, and nothing else of the word changes.  The result value is read in the same
way, and written as a whole.
-/

namespace NestedVisor.Hypercall

namespace Input

/-! ## Where the fields lie -/

inductive Field where
  | code
  | fast
  | headerSize
  | nested
  | repCount
  | repStart
  deriving DecidableEq, Repr

/-- The number of the lowest bit. -/
def Field.lo : Field → Nat
  | .code => 0
  | .fast => 16
  | .headerSize => 17
  | .nested => 31
  | .repCount => 32
  | .repStart => 48

def Field.width : Field → Nat
  | .code => 16
  | .fast => 1
  | .headerSize => 10
  | .nested => 1
  | .repCount => 12
  | .repStart => 12

def Field.Holds (f : Field) (n : Nat) : Prop :=
  f.lo ≤ n ∧ n < f.lo + f.width

/-- The bits of the word that are in no field. -/
def Reserved (n : Nat) : Prop :=
  27 ≤ n ∧ n ≤ 30 ∨ 44 ≤ n ∧ n ≤ 47 ∨ 60 ≤ n ∧ n ≤ 63

instance (n : Nat) : Decidable (Reserved n) :=
  inferInstanceAs (Decidable (_ ∨ _))

theorem Field.lo_add_width_le (f : Field) : f.lo + f.width ≤ 64 := by
  cases f <;> decide

theorem Field.disjoint {f g : Field} (other : f ≠ g) :
    f.lo + f.width ≤ g.lo ∨ g.lo + g.width ≤ f.lo := by
  cases f <;> cases g <;> revert other <;> decide

theorem Reserved.not_holds {n : Nat} (reserved : Reserved n) (f : Field) : ¬ f.Holds n := by
  unfold Reserved at reserved
  cases f <;> simp only [Field.Holds, Field.lo, Field.width] <;> omega

/-- The fields and the reserved bits make up the whole word. -/
theorem reserved_or_holds {n : Nat} (inWord : n < 64) : Reserved n ∨ ∃ f : Field, f.Holds n := by
  refine or_iff_not_imp_right.2 fun none => ?_
  have outside : ∀ f : Field, n < f.lo ∨ f.lo + f.width ≤ n := fun f => by
    have := not_exists.1 none f
    unfold Field.Holds at this
    omega
  have low : 16 ≤ n := (outside .code).resolve_left (Nat.not_lt_zero n)
  have fast : n < 16 ∨ 17 ≤ n := outside .fast
  have headerSize : n < 17 ∨ 27 ≤ n := outside .headerSize
  have nested : n < 31 ∨ 32 ≤ n := outside .nested
  have repCount : n < 32 ∨ 44 ≤ n := outside .repCount
  have repStart : n < 48 ∨ 60 ≤ n := outside .repStart
  unfold Reserved
  omega

/-! ## Reading -/

/-- What a field holds, as a number; a flag holds zero or one. -/
def read (i : Input) : Field → Nat
  | .code => i.code.toNat
  | .fast => i.fast.toNat
  | .headerSize => i.headerSize.toNat
  | .nested => i.nested.toNat
  | .repCount => i.repCount.toNat
  | .repStart => i.repStart.toNat

theorem read_eq_toNat (i : Input) (f : Field) :
    i.read f = (i.word.extractLsb' f.lo f.width).toNat := by
  cases f with
  | fast => exact toNat_getLsbD_eq i.word 16
  | nested => exact toNat_getLsbD_eq i.word 31
  | _ => rfl

/-- A word has nothing but its fields and its reserved bits. -/
theorem eq_of_read {i j : Input} (fields : ∀ f, i.read f = j.read f)
    (reserved : ∀ n, Reserved n → i.word.getLsbD n = j.word.getLsbD n) : i = j := by
  refine congrArg Input.mk (BitVec.eq_of_getLsbD_eq fun n inWord => ?_)
  rcases reserved_or_holds inWord with gap | ⟨f, low, high⟩
  · exact reserved n gap
  · have same : i.word.extractLsb' f.lo f.width = j.word.extractLsb' f.lo f.width := by
      apply BitVec.eq_of_toNat_eq
      rw [← read_eq_toNat, ← read_eq_toNat, fields f]
    have bit := congrArg (·.getLsbD (n - f.lo)) same
    have inField : n - f.lo < f.width := by omega
    simpa [BitVec.getLsbD_extractLsb', inField, Nat.add_sub_cancel' low] using bit

/-! ## Updates -/

inductive Update where
  | code (n : BitVec 16)
  | fast (b : Bool)
  | headerSize (n : BitVec 16)
  | nested (b : Bool)
  | repCount (n : BitVec 16)
  | repStart (n : BitVec 16)
  | reps (count start : BitVec 16)
  deriving DecidableEq, Repr

def update (i : Input) : Update → Input
  | .code n => i.withCode n
  | .fast b => i.withFast b
  | .headerSize n => i.withHeaderSize n
  | .nested b => i.withNested b
  | .repCount n => i.withRepCount n
  | .repStart n => i.withRepStart n
  | .reps count start => i.withReps count start

def updateAll (i : Input) (updates : List Update) : Input :=
  updates.foldl update i

/-- The numbers that an update gives to fields. -/
def Update.writes : Update → List (Field × Nat)
  | .code n => [(.code, n.toNat)]
  | .fast b => [(.fast, b.toNat)]
  | .headerSize n => [(.headerSize, n.toNat)]
  | .nested b => [(.nested, b.toNat)]
  | .repCount n => [(.repCount, n.toNat)]
  | .repStart n => [(.repStart, n.toNat)]
  | .reps count start => [(.repCount, count.toNat), (.repStart, start.toNat)]

/-- The numbers of these writes that go to one field, in order. -/
def numbers (f : Field) (writes : List (Field × Nat)) : List Nat :=
  writes.filterMap fun (g, n) => if g = f then some n else none

/-- The numbers that the updates give to one field, in order. -/
def written (f : Field) (updates : List Update) : List Nat :=
  numbers f (updates.flatMap Update.writes)

/-! ## Single writes -/

def store (w : Word) : Field × Nat → Word
  | (f, n) => setField w f.lo (BitVec.ofNat f.width n)

def stores (w : Word) (writes : List (Field × Nat)) : Word :=
  writes.foldl store w

theorem stores_append (w : Word) (first later : List (Field × Nat)) :
    stores w (first ++ later) = stores (stores w first) later :=
  List.foldl_append

theorem stores_concat (w : Word) (writes : List (Field × Nat)) (write : Field × Nat) :
    stores w (writes ++ [write]) = store (stores w writes) write :=
  stores_append w writes [write]

theorem store_toNat (w : Word) (f : Field) (n : BitVec 16) :
    store w (f, n.toNat) = setField w f.lo (n.setWidth f.width) := by
  rw [store, BitVec.ofNat_toNat]

theorem word_update (i : Input) (u : Update) : (i.update u).word = stores i.word u.writes := by
  cases u with
  | code n => exact (BitVec.setWidth_eq n ▸ store_toNat i.word .code n).symm
  | fast b => cases b <;> rfl
  | headerSize n => exact (store_toNat i.word .headerSize n).symm
  | nested b => cases b <;> rfl
  | repCount n => exact (store_toNat i.word .repCount n).symm
  | repStart n => exact (store_toNat i.word .repStart n).symm
  | reps count start =>
      calc (i.withReps count start).word
        _ = store (i.withRepCount count).word (.repStart, start.toNat) :=
          (store_toNat (i.withRepCount count).word .repStart start).symm
        _ = store (store i.word (.repCount, count.toNat)) (.repStart, start.toNat) := by
          rw [store_toNat i.word]
          rfl

theorem word_updateAll (i : Input) (updates : List Update) :
    (i.updateAll updates).word = stores i.word (updates.flatMap Update.writes) := by
  induction updates generalizing i with
  | nil => rfl
  | cons u updates ih =>
      rw [List.flatMap_cons, stores_append, ← word_update]
      exact ih (i.update u)

theorem extractLsb'_store_self (w : Word) (f : Field) (n : Nat) :
    (store w (f, n)).extractLsb' f.lo f.width = BitVec.ofNat f.width n :=
  extractLsb'_setField_self w f.lo _ f.lo_add_width_le

theorem extractLsb'_store_of_ne (w : Word) (n : Nat) {f g : Field} (other : g ≠ f) :
    (store w (g, n)).extractLsb' f.lo f.width = w.extractLsb' f.lo f.width :=
  extractLsb'_setField_of_disjoint w g.lo _ f.lo f.width (Field.disjoint other.symm)

theorem Reserved.getLsbD_store {n : Nat} (reserved : Reserved n) (w : Word)
    (write : Field × Nat) : (store w write).getLsbD n = w.getLsbD n := by
  rw [store, getLsbD_setField]
  exact if_neg fun inField => reserved.not_holds write.1 inField.2

/-! ## Sequences -/

/-- A field holds the last number written to it, or what it held before. -/
theorem extractLsb'_stores (w : Word) (writes : List (Field × Nat)) (f : Field) :
    ((stores w writes).extractLsb' f.lo f.width).toNat =
      (numbers f writes).getLastD (w.toNat >>> f.lo) % 2 ^ f.width := by
  -- by the last write: either it is to this field, or it can be left out
  induction writes using List.reverseRecOn with
  | nil => exact BitVec.extractLsb'_toNat ..
  | append_singleton writes write ih =>
      obtain ⟨g, n⟩ := write
      rw [stores_concat, numbers, List.filterMap_append]
      by_cases same : g = f
      · subst same
        rw [extractLsb'_store_self, BitVec.toNat_ofNat]
        simp
      · rw [extractLsb'_store_of_ne _ _ same, ih]
        simp [numbers, same]

theorem read_updateAll (i : Input) (updates : List Update) (f : Field) :
    (i.updateAll updates).read f =
      (written f updates).getLastD (i.word.toNat >>> f.lo) % 2 ^ f.width := by
  rw [read_eq_toNat, word_updateAll, extractLsb'_stores]
  rfl

theorem Reserved.getLsbD_updateAll {n : Nat} (reserved : Reserved n) (i : Input)
    (updates : List Update) : (i.updateAll updates).word.getLsbD n = i.word.getLsbD n := by
  rw [word_updateAll]
  induction updates.flatMap Update.writes using List.reverseRecOn with
  | nil => rfl
  | append_singleton writes write ih => rw [stores_concat, reserved.getLsbD_store, ih]

theorem updateAll_eq_of_written {us vs : List Update} (same : ∀ f, written f us = written f vs)
    (i : Input) : i.updateAll us = i.updateAll vs := by
  refine eq_of_read (fun f => ?_) fun n reserved => ?_
  · rw [read_updateAll, read_updateAll, same f]
  · rw [reserved.getLsbD_updateAll, reserved.getLsbD_updateAll]

/-- An input value is a record of its fields and its reserved bits. -/
structure BitExact (i : Input) : Prop where
  reads : ∀ (updates : List Update) (f : Field),
    (i.updateAll updates).read f =
      (written f updates).getLastD (i.word.toNat >>> f.lo) % 2 ^ f.width
  keeps : ∀ (updates : List Update) (n : Nat), Reserved n →
    (i.updateAll updates).word.getLsbD n = i.word.getLsbD n
  /-- Updates of different fields may change places: only the order within each field counts. -/
  reorders : ∀ us vs : List Update, (∀ f, written f us = written f vs) →
    i.updateAll us = i.updateAll vs
  determined : ∀ j : Input, (∀ f, i.read f = j.read f) →
    (∀ n, Reserved n → i.word.getLsbD n = j.word.getLsbD n) → i = j

end Input

/-! ## Results -/

namespace Result

theorem status_eq_success_iff (r : Result) : r.status = .success ↔ r.status.code = 0 :=
  ⟨congrArg Status.code, congrArg Status.mk⟩

theorem outcome_eq_ok_iff (r : Result) (n : BitVec 12) :
    r.outcome = .ok n ↔ r.status.code = 0 ∧ n = r.repsCompleted := by
  rw [outcome, ← status_eq_success_iff]
  split
  · next success => rw [Except.ok.injEq, eq_comm, and_iff_right success]
  · next failure => exact ⟨nofun, fun both => absurd both.1 failure⟩

theorem outcome_eq_error_iff (r : Result) (s : Status) :
    r.outcome = .error s ↔ r.status.code ≠ 0 ∧ s = r.status := by
  rw [outcome, Ne, ← status_eq_success_iff]
  split
  · next success => exact ⟨nofun, fun both => absurd success both.1⟩
  · next failure => rw [Except.error.injEq, eq_comm, and_iff_right failure]

theorem status_ofStatus (s : Status) (reps : BitVec 16) : (ofStatus s reps).status = s := by
  refine congrArg Status.mk (BitVec.eq_of_getLsbD_eq fun n inField => ?_)
  have below : n < 32 ∧ n < 64 := by omega
  simp [ofStatus, inField, below]

theorem reserved_ofStatus (s : Status) (reps : BitVec 16) : (ofStatus s reps).reserved = 0 := by
  refine BitVec.eq_of_getLsbD_eq fun n inField => ?_
  have below : 16 + n < 32 := by omega
  simp [reserved, ofStatus, inField, below]

theorem repsCompleted_ofStatus (s : Status) (reps : BitVec 16) :
    (ofStatus s reps).repsCompleted = reps.setWidth 12 := by
  refine BitVec.eq_of_getLsbD_eq fun n inField => ?_
  have inWord : 32 + n < 64 ∧ n < 64 := by omega
  have aboveStatus : s.code.getLsbD (32 + n) = false := BitVec.getLsbD_of_ge _ _ (by omega)
  simp [repsCompleted, ofStatus, inField, inWord, aboveStatus]

/-- A result value is a status, reserved bits and a count, and succeeds by its status alone. -/
structure BitExact (r : Result) : Prop where
  status : r.status.code.toNat = r.word.toNat % 2 ^ 16
  reserved : r.reserved.toNat = r.word.toNat >>> 16 % 2 ^ 16
  reps : r.repsCompleted.toNat = r.word.toNat >>> 32 % 2 ^ 12
  succeeds : ∀ n, r.outcome = .ok n ↔ r.status.code = 0 ∧ n = r.repsCompleted
  fails : ∀ s, r.outcome = .error s ↔ r.status.code ≠ 0 ∧ s = r.status

/-- The result built from a status and a count is read as these, the count modulo 4096. -/
structure Decodes (r : Result) (s : Status) (reps : BitVec 16) : Prop where
  status : r.status = s
  reserved : r.reserved = 0
  reps : r.repsCompleted.toNat = reps.toNat % 4096

end Result

/-! ## Both words -/

/-- Input and result values are bit-exact records. -/
theorem words_bitExact :
    (∀ i : Input, i.BitExact) ∧ (∀ r : Result, r.BitExact) ∧
      ∀ (s : Status) (reps : BitVec 16), (Result.ofStatus s reps).Decodes s reps := by
  refine ⟨fun i => ?_, fun r => ?_, fun s reps => ?_⟩
  · exact ⟨i.read_updateAll, fun updates n reserved => reserved.getLsbD_updateAll i updates,
      fun us vs same => Input.updateAll_eq_of_written same i, fun j => Input.eq_of_read⟩
  · exact ⟨BitVec.extractLsb'_toNat .., BitVec.extractLsb'_toNat .., BitVec.extractLsb'_toNat ..,
      r.outcome_eq_ok_iff, r.outcome_eq_error_iff⟩
  · refine ⟨Result.status_ofStatus s reps, Result.reserved_ofStatus s reps, ?_⟩
    rw [Result.repsCompleted_ofStatus, BitVec.toNat_setWidth]

/-- A word with all its reserved bits set, updated in two orders with values that do not fit. -/
theorem words_bitExact_interleaved :
    let i : Input := ⟨0xF000F00078000000⟩
    let us : List Input.Update :=
      [.reps 0xFFFF 0x1001, .headerSize 0x7FF, .fast true, .repCount 0x1004, .nested true]
    let vs : List Input.Update :=
      [.nested true, .fast true, .reps 0xFFFF 0x1001, .repCount 0x1004, .headerSize 0x7FF]
    us ≠ vs ∧ (∀ f, Input.written f us = Input.written f vs) ∧ i.updateAll us = i.updateAll vs ∧
      (i.updateAll us).read .repCount = 4 ∧ (i.updateAll us).read .repStart = 1 ∧
      (i.updateAll us).read .headerSize = 0x3FF ∧
      (Input.Reserved 27 ∧ (i.updateAll us).word.getLsbD 27 = true) ∧
      ((∀ f, (i.updateAll [.repStart 0x1000]).read f = i.read f) ∧
        i.updateAll [.repStart 0x1000] = i) := by
  have exact := words_bitExact.1 ⟨0xF000F00078000000⟩
  have same : ∀ f, Input.read (Input.updateAll ⟨0xF000F00078000000⟩ [.repStart 0x1000]) f =
      Input.read ⟨0xF000F00078000000⟩ f := fun f => by cases f <;> decide
  refine ⟨by decide, fun f => by cases f <;> decide, exact.reorders _ _ fun f => ?_,
    (exact.reads _ _).trans (by decide), (exact.reads _ _).trans (by decide),
    (exact.reads _ _).trans (by decide), ⟨by decide, (exact.keeps _ 27 (by decide)).trans rfl⟩,
    same, ?_⟩
  · cases f <;> decide
  · exact (exact.determined _ (fun f => (same f).symm) fun n reserved =>
      (exact.keeps _ n reserved).symm).symm

end NestedVisor.Hypercall
