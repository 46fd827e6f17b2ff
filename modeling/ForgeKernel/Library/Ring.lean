import Mathlib.Data.List.Range
import Mathlib.Data.Nat.ModEq

/-!
# Ring buffers

A bounded first-in first-out buffer kept in an array of `capacity` slots: the
oldest item is at `head`, the others follow cyclically.  A slot may itself be a
block of `size` consecutive cells.
-/

namespace Rings

variable {α : Type*} {capacity head count : Nat}

/-- The items of a ring, oldest first. -/
def contents (capacity head count : Nat) (slots : Nat → α) : List α :=
  (List.range count).map fun offset => slots ((head + offset) % capacity)

@[simp] theorem contents_zero (slots : Nat → α) : contents capacity head 0 slots = [] := rfl

@[simp] theorem length_contents (slots : Nat → α) :
    (contents capacity head count slots).length = count := by
  simp [contents]

/-- The free slot behind the last item holds no item. -/
theorem position_ne {offset : Nat} (used : offset < count) (room : count < capacity) :
    (head + offset) % capacity ≠ (head + count) % capacity := by
  intro same
  have congruent : offset ≡ count [MOD capacity] := Nat.ModEq.add_left_cancel' head same
  have equal := Nat.ModEq.eq_of_lt_of_lt congruent (used.trans room) room
  omega

/-- Storing an item in the free slot appends it. -/
theorem contents_push
    {slots updated : Nat → α} {item : α} (room : count < capacity)
    (stored : updated ((head + count) % capacity) = item)
    (others : ∀ position, position ≠ (head + count) % capacity → position < capacity →
      updated position = slots position) :
    contents capacity head (count + 1) updated =
      contents capacity head count slots ++ [item] := by
  have kept : contents capacity head count updated = contents capacity head count slots := by
    apply List.map_congr_left
    intro offset used
    apply others
    · exact position_ne (List.mem_range.mp used) room
    · exact Nat.mod_lt _ (by omega)
  have split : contents capacity head (count + 1) updated =
      contents capacity head count updated ++ [updated ((head + count) % capacity)] := by
    simp [contents, List.range_succ]
  rw [split, kept, stored]

/-- Moving the head forward removes the oldest item. -/
theorem contents_pop (slots : Nat → α) (small : head < capacity) :
    contents capacity head (count + 1) slots =
      slots head :: contents capacity ((head + 1) % capacity) count slots := by
  simp only [contents, List.range_succ_eq_map, List.map_cons, List.map_map]
  congr 1
  · rw [Nat.add_zero, Nat.mod_eq_of_lt small]
  · apply List.map_congr_left
    intro offset _
    simp only [Function.comp_apply, Nat.mod_add_mod]
    congr 2
    omega

/-- The slot after `index`, as a comparison with the capacity. -/
theorem succ_mod {index : Nat} (small : index < capacity) :
    (index + 1) % capacity = if index + 1 = capacity then 0 else index + 1 := by
  split
  · rename_i last
    rw [last, Nat.mod_self]
  · exact Nat.mod_eq_of_lt (by omega)

/-! ## Logs that overwrite their oldest items -/

/-- The newest `capacity` items of a log stand in the slots given by their
positions. -/
def Retains (capacity : Nat) (slots : Nat → α) (items : List α) : Prop :=
  ∀ position item, items[position]? = some item → items.length ≤ position + capacity →
    slots (position % capacity) = item

/-- An empty log retains nothing. -/
theorem Retains.nil (slots : Nat → α) : Retains capacity slots [] := by
  intro position item present
  simp at present

/-- A new item takes the slot of the oldest one. -/
theorem Retains.push
    {slots : Nat → α} {items : List α}
    (retains : Retains capacity slots items) (item : α) :
    Retains capacity (Function.update slots (items.length % capacity) item)
      (items ++ [item]) := by
  intro position kept present recent
  rw [List.length_append, List.length_singleton] at recent
  rcases Nat.lt_or_ge position items.length with old | new
  · rw [List.getElem?_append_left old] at present
    have apart : position % capacity ≠ items.length % capacity := by
      intro same
      have difference : (items.length - position) % capacity = 0 :=
        Nat.sub_mod_eq_zero_of_mod_eq same.symm
      rw [Nat.mod_eq_of_lt (by omega)] at difference
      omega
    rw [Function.update_of_ne apart]
    apply retains position kept present
    omega
  · have last : position = items.length := by
      have inside := (List.getElem?_eq_some_iff.mp present).1
      rw [List.length_append, List.length_singleton] at inside
      omega
    rw [last, List.getElem?_concat_length, Option.some.injEq] at present
    rw [last, Function.update_self]
    exact present

/-- The slots behind the newest `count` items, read in order. -/
theorem Retains.contents_eq_drop
    {slots : Nat → α} {items : List α}
    (retains : Retains capacity slots items)
    (fits : count ≤ capacity) (held : count ≤ items.length) :
    contents capacity (items.length - count) count slots =
      items.drop (items.length - count) := by
  apply List.ext_getElem?
  intro offset
  rw [List.getElem?_drop, contents, List.getElem?_map]
  rcases Nat.lt_or_ge offset count with inside | outside
  · rw [List.getElem?_range inside, Option.map_some]
    have present : items.length - count + offset < items.length := by omega
    rw [List.getElem?_eq_getElem present, Option.some.injEq]
    apply retains
    · exact List.getElem?_eq_getElem present
    · omega
  · rw [List.getElem?_eq_none (by simpa using outside), Option.map_none,
      List.getElem?_eq_none (by omega)]

/-! ## Slots of several cells -/

/-- Cells of a slot lie inside the array. -/
theorem cell_lt {size position cell : Nat} (slot : position < capacity) (inside : cell < size) :
    position * size + cell < capacity * size := by
  have next : (position + 1) * size ≤ capacity * size := Nat.mul_le_mul_right size slot
  rw [Nat.add_mul, Nat.one_mul] at next
  omega

/-- Cells of different slots are different. -/
theorem cell_separate
    {size first second cell : Nat} (different : first ≠ second) (inside : cell < size) :
    ¬(second * size ≤ first * size + cell ∧ first * size + cell < second * size + size) := by
  rintro ⟨below, above⟩
  rcases Nat.lt_or_gt_of_ne different with less | greater
  · have next : (first + 1) * size ≤ second * size := Nat.mul_le_mul_right size less
    rw [Nat.add_mul, Nat.one_mul] at next
    omega
  · have next : (second + 1) * size ≤ first * size := Nat.mul_le_mul_right size greater
    rw [Nat.add_mul, Nat.one_mul] at next
    omega

end Rings
