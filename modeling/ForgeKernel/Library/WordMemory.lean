import Mathlib.Data.BitVec
import Mathlib.Data.List.Basic
import Mathlib.Logic.Function.Basic

/-!
# Blocks of words in memory

Memory maps 32-bit addresses to values.  A block is a run of words, each four bytes
above the one before it.  Writing a block leaves every other address alone, and the
words of a block that does not wrap around lie between its first byte and its end.
-/

namespace WordMemory

variable {V : Type*}

/-- Address of a word of the block that starts at `base`. -/
def wordAt (base : BitVec 32) (index : Nat) : BitVec 32 :=
  base + 4 * BitVec.ofNat 32 index

/-- Write the first `count` words of a block, from the lowest address upwards. -/
def writeBlock
    (memory : BitVec 32 → V) (base : BitVec 32) (value : Nat → V) (count : Nat) :
    BitVec 32 → V :=
  (List.range count).foldl
    (fun memory index => Function.update memory (wordAt base index) (value index)) memory

@[simp] theorem wordAt_zero (base : BitVec 32) : wordAt base 0 = base := by
  simp [wordAt]

theorem offset_toNat (index : Nat) :
    (4 * BitVec.ofNat 32 index).toNat = 4 * index % 2 ^ 32 := by
  rw [BitVec.toNat_mul, BitVec.toNat_ofNat]
  change 4 * (index % 2 ^ 32) % 2 ^ 32 = _
  omega

/-- Offsets inside a block add up. -/
theorem wordAt_add (base : BitVec 32) (first second : Nat) :
    wordAt (wordAt base first) second = wordAt base (first + second) := by
  unfold wordAt
  apply BitVec.eq_of_toNat_eq
  simp only [BitVec.toNat_add, offset_toNat]
  omega

/-- Addresses of a block that fits below the end of memory do not wrap. -/
theorem wordAt_toNat
    {base : BitVec 32} {index : Nat} (fits : base.toNat + 4 * index < 2 ^ 32) :
    (wordAt base index).toNat = base.toNat + 4 * index := by
  unfold wordAt
  rw [BitVec.toNat_add, offset_toNat]
  omega

/-- Different words of a block have different addresses. -/
theorem wordAt_injective
    {base : BitVec 32} {first second : Nat}
    (first_lt : first < 2 ^ 30) (second_lt : second < 2 ^ 30)
    (same : wordAt base first = wordAt base second) : first = second := by
  have offsets := congrArg BitVec.toNat (add_left_cancel same)
  rw [offset_toNat, offset_toNat] at offsets
  omega

/-- The last word of a block is written last. -/
theorem writeBlock_succ
    (memory : BitVec 32 → V) (base : BitVec 32) (value : Nat → V) (count : Nat) :
    writeBlock memory base value (count + 1) =
      Function.update (writeBlock memory base value count) (wordAt base count) (value count) := by
  unfold writeBlock
  rw [List.range_succ, List.foldl_append]
  rfl

/-- Addresses outside the block keep their values. -/
theorem writeBlock_of_outside
    {memory : BitVec 32 → V} {base : BitVec 32} {value : Nat → V} {count : Nat}
    {address : BitVec 32} (outside : ∀ index < count, address ≠ wordAt base index) :
    writeBlock memory base value count address = memory address := by
  induction count with
  | zero => rfl
  | succ count inductionHypothesis =>
      rw [writeBlock_succ, Function.update_of_ne (outside count (Nat.lt_succ_self count))]
      apply inductionHypothesis
      intro index small
      exact outside index (Nat.lt_succ_of_lt small)

/-- Every word of the block holds its value. -/
theorem writeBlock_wordAt
    (memory : BitVec 32 → V) (base : BitVec 32) (value : Nat → V) {count index : Nat}
    (inside : index < count) (fits : count ≤ 2 ^ 30) :
    writeBlock memory base value count (wordAt base index) = value index := by
  induction count with
  | zero => omega
  | succ count inductionHypothesis =>
      rw [writeBlock_succ]
      by_cases last : index = count
      · rw [last, Function.update_self]
      · rw [Function.update_of_ne]
        · exact inductionHypothesis (by omega) (by omega)
        · intro same
          exact last (wordAt_injective (by omega) (by omega) same)

/-- Blocks that do not wrap around and do not overlap are disjoint. -/
theorem writeBlock_of_apart
    {memory : BitVec 32 → V} {base : BitVec 32} {value : Nat → V} {count : Nat}
    {address : BitVec 32} (fits : base.toNat + 4 * count ≤ 2 ^ 32)
    (apart : address.toNat < base.toNat ∨ base.toNat + 4 * count ≤ address.toNat) :
    writeBlock memory base value count address = memory address := by
  apply writeBlock_of_outside
  intro index small same
  have value := congrArg BitVec.toNat same
  rw [wordAt_toNat (by omega)] at value
  omega

end WordMemory
