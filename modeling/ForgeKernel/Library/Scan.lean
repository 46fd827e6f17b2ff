import Mathlib.Data.Finset.Lattice.Fold
import Mathlib.Data.Set.Basic
import Mathlib.Order.Lattice
import Mathlib.Order.Lattice.Nat

/-!
# Left-to-right scans

Loops over a list that keep a candidate of maximal weight, or a running
maximum, and invariants of loops in general.
-/

namespace Scans

variable {ι κ σ : Type*}

/-- Loop invariants: what every iteration preserves holds after the loop. -/
theorem foldl_invariant
    {motive : σ → Prop} {step : σ → κ → σ} (items : List κ) (initial : σ)
    (initially : motive initial)
    (preserved : ∀ state, ∀ item ∈ items, motive state → motive (step state item)) :
    motive (items.foldl step initial) := by
  induction items generalizing initial with
  | nil => exact initially
  | cons item items inductionHypothesis =>
      refine inductionHypothesis (step initial item)
        (preserved initial item (by simp) initially) ?_
      intro state other present
      exact preserved state other (List.mem_cons_of_mem item present)

/-- Loop invariants over `0, …, count - 1` that may mention how many positions
have been processed. -/
theorem foldl_range_invariant
    {motive : Nat → σ → Prop} {step : σ → Nat → σ} (count : Nat) (initial : σ)
    (initially : motive 0 initial)
    (preserved : ∀ state position, position < count →
      motive position state → motive (position + 1) (step state position)) :
    motive count ((List.range count).foldl step initial) := by
  induction count with
  | zero => exact initially
  | succ count inductionHypothesis =>
      rw [List.range_succ, List.foldl_append]
      refine preserved _ count (Nat.lt_succ_self count) (inductionHypothesis ?_)
      intro state position small
      exact preserved state position (by omega)

/-- Loop invariants over distinct items that may mention which of them have been
processed. -/
theorem foldl_nodup_invariant
    [DecidableEq κ] {motive : Finset κ → σ → Prop} {step : σ → κ → σ}
    (items : List κ) (initial : σ) (distinct : items.Nodup)
    (initially : motive ∅ initial)
    (preserved : ∀ state visited item, item ∈ items → item ∉ visited →
      motive visited state → motive (insert item visited) (step state item)) :
    motive items.toFinset (items.foldl step initial) := by
  induction items using List.reverseRecOn with
  | nil => exact initially
  | append_singleton items item inductionHypothesis =>
      obtain ⟨front, -, apart⟩ := List.nodup_append.mp distinct
      have fresh : item ∉ items.toFinset := by
        intro present
        exact apart item (List.mem_toFinset.mp present) item (by simp) rfl
      have reached : motive items.toFinset (items.foldl step initial) := by
        apply inductionHypothesis front
        intro state visited other present
        exact preserved state visited other (List.mem_append_left _ present)
      have processed := preserved _ _ item (by simp) fresh reached
      have visited : (items ++ [item]).toFinset = insert item items.toFinset := by
        ext other
        simp
      rw [visited, List.foldl_append]
      exact processed

/-- `selected` is a candidate of maximal weight, or there is no candidate. -/
def IsBest (weight : ι → Nat) (candidates : Set ι) : Option ι → Prop
  | none => candidates = ∅
  | some best => best ∈ candidates ∧ ∀ other ∈ candidates, weight other ≤ weight best

/-- The selection stays best when candidates other than it are lost and the weights
of the others stay. -/
theorem IsBest.mono
    {weight newWeight : ι → Nat} {candidates remaining : Set ι} {selected : Option ι}
    (best : IsBest weight candidates selected)
    (subset : remaining ⊆ candidates)
    (kept : ∀ item, selected = some item → item ∈ remaining)
    (weights : ∀ item ∈ remaining, newWeight item = weight item) :
    IsBest newWeight remaining selected := by
  cases selected with
  | none => exact Set.subset_empty_iff.mp (subset.trans best.subset)
  | some item =>
      refine ⟨kept item rfl, fun other present => ?_⟩
      rw [weights other present, weights item (kept item rfl)]
      exact best.2 other (subset present)

/-- A step that replaces the selection by one new candidate, or keeps it and
weighs at least as much. -/
theorem IsBest.insert
    {weight : ι → Nat} {candidates : Set ι} {selected : Option ι} {item : ι}
    (best : IsBest weight candidates selected)
    (result : Option ι)
    (choice : (result = some item ∧ ∀ old, selected = some old → weight old ≤ weight item) ∨
      (∃ old, selected = some old ∧ result = some old ∧ weight item ≤ weight old)) :
    IsBest weight (Insert.insert item candidates) result := by
  rcases choice with ⟨rfl, heavier⟩ | ⟨old, rfl, rfl, lighter⟩
  · refine ⟨Set.mem_insert _ _, ?_⟩
    intro other present
    rcases Set.mem_insert_iff.mp present with rfl | present
    · exact le_rfl
    · cases selected with
      | none =>
          rw [show candidates = ∅ from best] at present
          exact absurd present (Set.notMem_empty other)
      | some old => exact (best.2 other present).trans (heavier old rfl)
  · refine ⟨Set.mem_insert_of_mem _ best.1, ?_⟩
    intro other present
    rcases Set.mem_insert_iff.mp present with rfl | present
    · exact lighter
    · exact best.2 other present

/-- A scan whose steps add at most the visited item to the candidates selects a
candidate of maximal weight. -/
theorem foldl_isBest
    (weight : ι → Nat) (step : Option ι → κ → Option ι) (item : κ → ι)
    (eligible : ι → Prop)
    (accepts : ∀ candidates selected position, eligible (item position) →
      IsBest weight candidates selected →
      IsBest weight (Insert.insert (item position) candidates) (step selected position))
    (skips : ∀ selected position, ¬eligible (item position) →
      step selected position = selected)
    (positions : List κ) (candidates : Set ι) (initial : Option ι)
    (initially : IsBest weight candidates initial) :
    IsBest weight
      (candidates ∪ {other | eligible other ∧ ∃ position ∈ positions, item position = other})
      (positions.foldl step initial) := by
  induction positions generalizing candidates initial with
  | nil => simpa using initially
  | cons position positions inductionHypothesis =>
      by_cases accepted : eligible (item position)
      · rw [List.foldl_cons]
        have after := inductionHypothesis _ _ (accepts _ _ _ accepted initially)
        convert after using 1
        ext other
        simp only [Set.mem_union, Set.mem_ofPred_eq, List.mem_cons, exists_eq_or_imp,
          Set.mem_insert_iff]
        constructor
        · rintro (old | ⟨fits, rfl | later⟩)
          · exact Or.inl (Or.inr old)
          · exact Or.inl (Or.inl rfl)
          · exact Or.inr ⟨fits, later⟩
        · rintro ((rfl | old) | ⟨fits, later⟩)
          · exact Or.inr ⟨accepted, Or.inl rfl⟩
          · exact Or.inl old
          · exact Or.inr ⟨fits, Or.inr later⟩
      · rw [List.foldl_cons, skips _ _ accepted]
        have after := inductionHypothesis _ _ initially
        convert after using 1
        ext other
        simp only [Set.mem_union, Set.mem_ofPred_eq, List.mem_cons, exists_eq_or_imp]
        constructor
        · rintro (old | ⟨fits, rfl | later⟩)
          · exact Or.inl old
          · exact absurd fits accepted
          · exact Or.inr ⟨fits, later⟩
        · rintro (old | ⟨fits, later⟩)
          · exact Or.inl old
          · exact Or.inr ⟨fits, Or.inr later⟩

/-- `best` is heavier than `other`, or as heavy and earlier. -/
def Precedes (weight rank : ι → Nat) (best other : ι) : Prop :=
  weight other < weight best ∨ (weight other = weight best ∧ rank best ≤ rank other)

/-- The first of the heaviest candidates in the order of `rank`. -/
def IsFirst (weight rank : ι → Nat) (candidates : Set ι) : Option ι → Prop
  | none => candidates = ∅
  | some best => best ∈ candidates ∧ ∀ other ∈ candidates, Precedes weight rank best other

/-- The first among the best candidates is one of the best. -/
theorem IsFirst.isBest
    {weight rank : ι → Nat} {candidates : Set ι} {selected : Option ι}
    (first : IsFirst weight rank candidates selected) : IsBest weight candidates selected := by
  cases selected with
  | none => exact first
  | some best =>
      refine ⟨first.1, ?_⟩
      intro other present
      rcases first.2 other present with lighter | ⟨equal, _⟩
      · exact lighter.le
      · exact equal.le

/-- One more candidate replaces the selected one exactly when it precedes it. -/
theorem IsFirst.insert
    {weight rank : ι → Nat} {candidates : Set ι} {selected : Option ι} {item : ι}
    (first : IsFirst weight rank candidates selected)
    (result : Option ι)
    (choice :
      (result = some item ∧ ∀ old, selected = some old → Precedes weight rank item old) ∨
      (∃ old, selected = some old ∧ result = some old ∧ Precedes weight rank old item)) :
    IsFirst weight rank (Insert.insert item candidates) result := by
  rcases choice with ⟨rfl, beats⟩ | ⟨old, rfl, rfl, kept⟩
  · refine ⟨Set.mem_insert _ _, ?_⟩
    rintro other (rfl | present)
    · exact Or.inr ⟨rfl, le_rfl⟩
    · cases selected with
      | none =>
          rw [show candidates = ∅ from first] at present
          exact absurd present (Set.notMem_empty other)
      | some old =>
          have better := beats old rfl
          have worse := first.2 other present
          unfold Precedes at *
          omega
  · refine ⟨Set.mem_insert_of_mem _ first.1, ?_⟩
    rintro other (rfl | present)
    · exact kept
    · exact first.2 other present

/-- A loop that raises an accumulator to the weight of eligible positions
computes a maximum. -/
theorem foldl_raise_eq_max_sup
    (eligible : Nat → Bool) (weight : Nat → Nat) (count base : Nat) :
    (List.range count).foldl
        (fun highest position =>
          if eligible position ∧ highest < weight position then weight position
          else highest) base =
      max base (((Finset.range count).filter fun position =>
        eligible position = true).sup weight) := by
  induction count with
  | zero => simp
  | succ count inductionHypothesis =>
      rw [List.range_succ, List.foldl_append, inductionHypothesis, Finset.range_add_one,
        Finset.filter_insert]
      simp only [List.foldl_cons, List.foldl_nil]
      by_cases accepted : eligible count = true
      · rw [if_pos accepted, Finset.sup_insert]
        by_cases larger : max base (((Finset.range count).filter fun position =>
            eligible position = true).sup weight) < weight count
        · rw [if_pos ⟨accepted, larger⟩]
          omega
        · rw [if_neg fun both => larger both.2]
          omega
      · rw [if_neg accepted, if_neg fun both => accepted both.1]

end Scans
