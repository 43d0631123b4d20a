/-!
Machine words and how they are written.
-/

namespace NestedVisor

abbrev Word := BitVec 64

/-- Lower-case hexadecimal digits after a `0x` mark, without leading zeros. -/
def hexText (n : Nat) : String :=
  "0x" ++ String.ofList (Nat.toDigits 16 n)

/--
A 64-bit address is canonical when bits 63 to 47 all repeat bit 47, the form in which a
48-bit linear address is kept in a register.
-/
def Canonical (address : Word) : Prop :=
  (address.extractLsb' 0 48).signExtend 64 = address

instance (address : Word) : Decidable (Canonical address) :=
  inferInstanceAs (Decidable (_ = _))

end NestedVisor
