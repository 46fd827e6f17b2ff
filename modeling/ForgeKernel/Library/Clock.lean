import Mathlib.Data.BitVec

/-!
# Wrapping clocks

A counter of `width` bits is the remainder of an unbounded clock.  Deadlines are
compared by the half-range test: a deadline counts as reached when the wrapped
difference `now - deadline` lies in the lower half of the range.  The test is
exact as long as clock and deadline are less than half a period apart.
-/

namespace Clocks

variable {width : Nat}

/-- A later instant minus an earlier one is the elapsed time. -/
theorem ofNat_sub_ofNat_of_le {earlier later : Nat} (ordered : earlier ≤ later) :
    BitVec.ofNat width later - BitVec.ofNat width earlier =
      BitVec.ofNat width (later - earlier) := by
  have split : later = (later - earlier) + earlier := by omega
  rw [split, BitVec.ofNat_add, BitVec.add_sub_cancel]
  simp

/-- Moving a wrapped instant by a wrapped distance to a target reaches the target. -/
theorem add_sub_self (now target : BitVec width) : now + (target - now) = target := by
  rw [BitVec.add_comm, BitVec.sub_add_cancel]

/-- The half-range test. -/
theorem sub_lt_half_iff
    (positive : 0 < width) {time deadline : Nat}
    (early : deadline < time + 2 ^ (width - 1)) (late : time < deadline + 2 ^ (width - 1)) :
    (BitVec.ofNat width time - BitVec.ofNat width deadline).toNat < 2 ^ (width - 1) ↔
      deadline ≤ time := by
  have period : 2 ^ width = 2 ^ (width - 1) + 2 ^ (width - 1) := by
    rw [← Nat.two_mul, ← Nat.pow_succ', Nat.succ_eq_add_one, Nat.sub_add_cancel positive]
  constructor
  · intro reached
    by_contra before
    -- The difference of an early clock is the negated remaining time.
    have negated : BitVec.ofNat width time - BitVec.ofNat width deadline =
        -BitVec.ofNat width (deadline - time) := by
      rw [← ofNat_sub_ofNat_of_le (by omega : time ≤ deadline), BitVec.neg_sub,
        BitVec.sub_eq_add_neg, BitVec.add_comm]
    have small : deadline - time < 2 ^ width := by omega
    have remaining : 2 ^ width - (deadline - time) < 2 ^ width := by omega
    rw [negated, BitVec.toNat_neg, BitVec.toNat_ofNat, Nat.mod_eq_of_lt small,
      Nat.mod_eq_of_lt remaining] at reached
    omega
  · intro ordered
    have small : time - deadline < 2 ^ width := by omega
    rw [ofNat_sub_ofNat_of_le ordered, BitVec.toNat_ofNat, Nat.mod_eq_of_lt small]
    omega

end Clocks
