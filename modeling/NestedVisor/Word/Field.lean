import NestedVisor.Word.Basic

/-!
Fields of machine words.

A field is a run of `len` bits that starts at bit `lo`.  Core's `BitVec.extractLsb'` reads one
and `setField` writes one.  The main statements say that a field reads back what was written
to it and that every bit outside it is kept.
-/

namespace NestedVisor

/-- The bits that a field occupies. -/
def fieldMask (n lo len : Nat) : BitVec n :=
  (BitVec.allOnes len).setWidth n <<< lo

/-- Replaces one field of `w` and keeps all other bits. -/
def setField {n len : Nat} (w : BitVec n) (lo : Nat) (v : BitVec len) : BitVec n :=
  (w &&& ~~~fieldMask n lo len) ||| (v.setWidth n <<< lo)

/-- Replaces a single bit of `w`. -/
def setFlag {n : Nat} (w : BitVec n) (i : Nat) (b : Bool) : BitVec n :=
  setField w i (BitVec.ofBool b)

theorem getLsbD_setField {n len : Nat} (w : BitVec n) (lo : Nat) (v : BitVec len) (i : Nat) :
    (setField w lo v).getLsbD i =
      if i < n ∧ lo ≤ i ∧ i < lo + len then v.getLsbD (i - lo) else w.getLsbD i := by
  by_cases hn : i < n
  · by_cases hlo : i < lo
    · have : ¬ lo ≤ i := by omega
      simp [setField, fieldMask, hn, hlo, this]
    · have hle : lo ≤ i := by omega
      by_cases hlen : i < lo + len
      · have : i - lo < len := by omega
        simp [setField, fieldMask, hn, hle, hlo, hlen, this]
      · have : ¬ i - lo < len := by omega
        have hv : v.getLsbD (i - lo) = false := BitVec.getLsbD_of_ge _ _ (by omega)
        simp [setField, fieldMask, hn, hle, hlo, hlen, this, hv]
  · have hw : w.getLsbD i = false := BitVec.getLsbD_of_ge _ _ (by omega)
    have hs : (setField w lo v).getLsbD i = false := BitVec.getLsbD_of_ge _ _ (by omega)
    simp [hn, hw, hs]

@[simp] theorem extractLsb'_setField_self {n len : Nat} (w : BitVec n) (lo : Nat)
    (v : BitVec len) (h : lo + len ≤ n) :
    (setField w lo v).extractLsb' lo len = v := by
  apply BitVec.eq_of_getLsbD_eq
  intro i hi
  rw [BitVec.getLsbD_extractLsb', getLsbD_setField]
  have : lo + i < n ∧ lo ≤ lo + i ∧ lo + i < lo + len := by omega
  simp [hi, this]

/-- Fields that do not overlap do not see each other's writes. -/
theorem extractLsb'_setField_of_disjoint {n len : Nat} (w : BitVec n) (lo : Nat)
    (v : BitVec len) (lo' len' : Nat) (h : lo' + len' ≤ lo ∨ lo + len ≤ lo') :
    (setField w lo v).extractLsb' lo' len' = w.extractLsb' lo' len' := by
  apply BitVec.eq_of_getLsbD_eq
  intro i hi
  rw [BitVec.getLsbD_extractLsb', BitVec.getLsbD_extractLsb', getLsbD_setField]
  have : ¬ (lo' + i < n ∧ lo ≤ lo' + i ∧ lo' + i < lo + len) := by omega
  simp [this]

theorem getLsbD_setFlag {n : Nat} (w : BitVec n) (i : Nat) (b : Bool) (j : Nat) :
    (setFlag w i b).getLsbD j = if j < n ∧ j = i then b else w.getLsbD j := by
  rw [setFlag, getLsbD_setField]
  by_cases h : j = i
  · subst h
    by_cases hn : j < n <;> simp [hn]
  · have hout : ¬ (j < n ∧ i ≤ j ∧ j < i + 1) := by omega
    rw [if_neg hout, if_neg (fun hj => h hj.2)]

theorem toNat_getLsbD_eq {n : Nat} (w : BitVec n) (i : Nat) :
    (w.getLsbD i).toNat = (w.extractLsb' i 1).toNat := by
  rw [BitVec.extractLsb'_toNat, Nat.shiftRight_eq_div_pow, Nat.pow_one, ← Nat.toNat_testBit,
    BitVec.testBit_toNat]

theorem setFlag_true {n : Nat} (w : BitVec n) (i : Nat) :
    setFlag w i true = w ||| BitVec.twoPow n i := by
  apply BitVec.eq_of_getLsbD_eq
  intro j hj
  rw [getLsbD_setFlag, BitVec.getLsbD_or, BitVec.getLsbD_twoPow]
  by_cases h : j = i
  · simp [h, h ▸ hj]
  · simp [h, Ne.symm h]

theorem setFlag_false {n : Nat} (w : BitVec n) (i : Nat) :
    setFlag w i false = w &&& ~~~BitVec.twoPow n i := by
  apply BitVec.eq_of_getLsbD_eq
  intro j hj
  rw [getLsbD_setFlag, BitVec.getLsbD_and, BitVec.getLsbD_not, BitVec.getLsbD_twoPow]
  by_cases h : j = i
  · simp [h, h ▸ hj]
  · simp [h, hj, Ne.symm h]

/-! ## Layout texts -/

/-- A decoded field, as a layout text shows it. -/
inductive FieldValue where
  | number (n : Nat)
  | flag (b : Bool)
  deriving DecidableEq, Repr

def FieldValue.text : FieldValue → String
  | .number n => toString n
  | .flag true => "true"
  | .flag false => "false"

/-- The layout text of a word: its name, the raw number, then each field in order. -/
def layoutText (name : String) (raw : Nat) (fields : List (String × FieldValue)) : String :=
  let parts := (".0", .number raw) :: fields
  name ++ " \x7b " ++ ", ".intercalate (parts.map fun (label, v) => label ++ ": " ++ v.text)
    ++ " \x7d"

end NestedVisor
