/-!
Exponential backoff between attempts of a busy wait.
-/

namespace NestedVisor.Sync

/-- The most pause instructions in one round. -/
def maxSpins : Nat := 1024

structure Backoff where
  /-- The number of pause instructions in the next round. -/
  spins : Nat := 1
  deriving DecidableEq, Repr

namespace Backoff

/-- After a round the delay is doubled, up to the ceiling. -/
def spin (b : Backoff) : Backoff :=
  ⟨min (2 * b.spins) maxSpins⟩

def reset (_ : Backoff) : Backoff := {}

/-- The delays of `n` rounds, and the backoff after them. -/
def rounds : Nat → Backoff → List Nat × Backoff
  | 0, b => ([], b)
  | n + 1, b =>
      let (delays, last) := rounds n b.spin
      (b.spins :: delays, last)

theorem spins_spin_le (b : Backoff) : b.spin.spins ≤ maxSpins :=
  Nat.min_le_right _ _

end Backoff

end NestedVisor.Sync
