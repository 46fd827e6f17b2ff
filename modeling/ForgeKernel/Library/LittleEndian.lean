import Mathlib.Data.BitVec
import Mathlib.Tactic.Ring

/-!
# Little-endian numbers

Numbers as lists of bytes, least significant byte first.
-/

namespace LittleEndian

/-- The `count` low bytes of a number. -/
def bytes : Nat → Nat → List (BitVec 8)
  | 0, _ => []
  | count + 1, value => BitVec.ofNat 8 value :: bytes count (value / 256)

/-- The number that a list of bytes stands for. -/
def value : List (BitVec 8) → Nat
  | [] => 0
  | byte :: rest => byte.toNat + 256 * value rest

@[simp] theorem bytes_length (count number : Nat) : (bytes count number).length = count := by
  induction count generalizing number with
  | zero => rfl
  | succ count inductionHypothesis => rw [bytes, List.length_cons, inductionHypothesis]

/-- Reading back the bytes of a number gives its low part. -/
theorem value_bytes (count number : Nat) :
    value (bytes count number) = number % 256 ^ count := by
  induction count generalizing number with
  | zero => simp [bytes, value, Nat.mod_one]
  | succ count inductionHypothesis =>
      rw [bytes, value, inductionHypothesis, pow_succ', Nat.mod_mul, BitVec.toNat_ofNat]

/-- A number that fits is read back. -/
theorem value_bytes_of_lt {count number : Nat} (small : number < 256 ^ count) :
    value (bytes count number) = number := by
  rw [value_bytes, Nat.mod_eq_of_lt small]

end LittleEndian
