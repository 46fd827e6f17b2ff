import ForgeKernel.Library.Scan
import ForgeKernel.Model.Scheduler

/-!
# What the registry scans select

A plain scan selects an eligible task of maximal priority.  `fr_scheduler_select_next`
visits the registry from the slot behind the current one and ends at the current one;
among the runnable tasks of maximal priority it selects the first in that order.
-/

namespace ForgeKernel

open Scans

namespace Kernel

/-- Effective priority of a registry slot. -/
def priorityOf (kernel : Kernel) (index : Nat) : Nat :=
  (kernel.tasks index).priority

/-- Eligible registered tasks. -/
def eligibleTasks (kernel : Kernel) (eligible : Task → Bool) : Set Nat :=
  {index | eligible (kernel.tasks index) = true ∧ index < kernel.taskCount}

/-- An eligible task enters the selection, or loses to the task already there. -/
theorem selectStep_isBest
    (kernel : Kernel) {eligible : Task → Bool}
    {candidates : Set Nat} {selected : Option Nat} {index : Nat}
    (accepted : eligible (kernel.tasks index) = true)
    (best : IsBest kernel.priorityOf candidates selected) :
    IsBest kernel.priorityOf (insert index candidates)
      (kernel.selectStep eligible selected index) := by
  apply best.insert
  unfold selectStep
  rw [if_pos accepted]
  cases selected with
  | none => exact Or.inl ⟨rfl, by simp⟩
  | some old =>
      dsimp only
      split
      · rename_i larger
        refine Or.inl ⟨rfl, ?_⟩
        intro other same
        rw [← Option.some.inj same]
        exact larger.le
      · rename_i smaller
        exact Or.inr ⟨old, rfl, rfl, Nat.le_of_not_lt smaller⟩

/-- A registry scan keeps an eligible task of maximal effective priority. -/
theorem selectBest_isBest (kernel : Kernel) (eligible : Task → Bool) :
    IsBest kernel.priorityOf (kernel.eligibleTasks eligible) (kernel.selectBest eligible) := by
  have scan := foldl_isBest kernel.priorityOf (kernel.selectStep eligible) id
    (fun index => eligible (kernel.tasks index) = true)
    (fun _ _ _ accepted best => kernel.selectStep_isBest accepted best)
    (fun _ _ rejected => if_neg rejected)
    (List.range kernel.taskCount) ∅ none rfl
  convert scan using 1
  · ext index
    simp [eligibleTasks]
  · rfl

/-- Registered tasks that the switch from task `current` may select. -/
def runnable (kernel : Kernel) (current : Nat) : Set Nat :=
  {index | index < kernel.taskCount ∧ ((kernel.tasks index).state = .ready ∨
    (index = current ∧ (kernel.tasks index).state = .running))}

end Kernel

/-! ## The cyclic scan -/

/-- The position visited by the cyclic scan at an offset. -/
def cyclicIndex (count current offset : Nat) : Nat :=
  if count ≤ current + offset then current + offset - count else current + offset

/-- Number of slots that the scan from `current` moves on to reach `index`; the current
slot comes last. -/
def rotationRank (count current index : Nat) : Nat :=
  if index ≤ current then index + count - current else index - current

/-- The slot at an offset has that offset as its rank. -/
theorem rotationRank_cyclicIndex
    {count current offset : Nat}
    (current_lt : current < count) (positive : 0 < offset) (offset_lt : offset < count) :
    rotationRank count current (cyclicIndex count current offset) = offset := by
  unfold rotationRank cyclicIndex
  split <;> split <;> omega

/-- The current slot comes last. -/
theorem rotationRank_self {count current : Nat} : rotationRank count current current = count := by
  unfold rotationRank
  rw [if_pos le_rfl]
  omega

theorem rotationRank_bounds
    {count current index : Nat} (current_lt : current < count) (index_lt : index < count)
    (different : index ≠ current) :
    0 < rotationRank count current index ∧ rotationRank count current index < count := by
  unfold rotationRank
  split <;> omega

/-- Two slots never have the same rank. -/
theorem rotationRank_injective
    {count current first second : Nat}
    (current_lt : current < count) (first_lt : first < count) (second_lt : second < count)
    (same : rotationRank count current first = rotationRank count current second) :
    first = second := by
  unfold rotationRank at same
  split at same <;> split at same <;> omega

/-- When `near` comes before `far` from `current`, it still does from every slot on the way
to `near`. -/
theorem rotationRank_advance
    {count current middle near far : Nat}
    (current_lt : current < count) (middle_lt : middle < count) (near_lt : near < count)
    (ahead : rotationRank count current near < rotationRank count current far)
    (onWay : rotationRank count current middle < rotationRank count current near) :
    rotationRank count middle near < rotationRank count middle far := by
  unfold rotationRank at *
  split at ahead <;> split at ahead <;> split at onWay <;> split <;> split <;> omega

/-- From a slot that the scan from `far` meets before `near`, it meets `near` first. -/
theorem rotationRank_between
    {count middle near far : Nat} (distinct : far ≠ near)
    (far_lt : far < count) (near_lt : near < count) (middle_lt : middle < count)
    (between : rotationRank count far middle < rotationRank count far near) :
    rotationRank count middle near < rotationRank count middle far := by
  unfold rotationRank at *
  split at between <;> split at between <;> split <;> split <;> omega

/-- From a third slot outside, it meets `far` first. -/
theorem rotationRank_outside
    {count middle near far : Nat} (notFar : middle ≠ far) (notNear : middle ≠ near)
    (far_lt : far < count) (middle_lt : middle < count)
    (outside : ¬rotationRank count far middle < rotationRank count far near) :
    rotationRank count middle far < rotationRank count middle near := by
  unfold rotationRank at *
  split at outside <;> split at outside <;> split <;> split <;> omega

/-- The scan also meets `near` first from a slot behind `far` and before `near` in the scan from
`current`. -/
theorem rotationRank_behind
    {count current middle near far : Nat}
    (current_lt : current < count) (middle_lt : middle < count) (near_lt : near < count)
    (behind : rotationRank count current far < rotationRank count current middle)
    (before : rotationRank count current middle < rotationRank count current near) :
    rotationRank count middle near < rotationRank count middle far := by
  unfold rotationRank at *
  by_cases farBehind : far ≤ current <;> by_cases middleBehind : middle ≤ current <;>
    by_cases nearBehind : near ≤ current <;>
    simp only [farBehind, middleBehind, nearBehind, ↓reduceIte] at behind before <;>
    split <;> split <;> omega

/-- A new slot at the end of the registry keeps the order of the old ones. -/
theorem rotationRank_grow
    {count wider current near far : Nat}
    (near_lt : near < count) (far_lt : far < count) (grown : count ≤ wider)
    (ahead : rotationRank count current near < rotationRank count current far) :
    rotationRank wider current near < rotationRank wider current far := by
  unfold rotationRank at *
  by_cases nearBehind : near ≤ current <;> by_cases farBehind : far ≤ current <;>
    simp only [nearBehind, farBehind, ↓reduceIte] at ahead ⊢ <;> omega

section Selection

variable (kernel : Kernel) {current : Nat}

/-- Tasks seen by the scan up to an offset. -/
def Kernel.scanned (current offset : Nat) : Set Nat :=
  {index | index < kernel.taskCount ∧
    (((kernel.tasks index).state = .ready ∧ index ≠ current ∧
        rotationRank kernel.taskCount current index ≤ offset) ∨
      (index = current ∧ (kernel.tasks index).state = .running))}

/-- The next offset adds its slot when that is READY. -/
theorem Kernel.scanned_succ
    (current_lt : current < kernel.taskCount) {offset : Nat}
    (offset_lt : offset + 1 < kernel.taskCount) :
    kernel.scanned current (offset + 1) =
      if (kernel.tasks (cyclicIndex kernel.taskCount current (offset + 1))).state = .ready then
        insert (cyclicIndex kernel.taskCount current (offset + 1)) (kernel.scanned current offset)
      else kernel.scanned current offset := by
  have rank := rotationRank_cyclicIndex current_lt (Nat.succ_pos offset) offset_lt
  have small : cyclicIndex kernel.taskCount current (offset + 1) < kernel.taskCount := by
    unfold cyclicIndex
    split <;> omega
  have other : cyclicIndex kernel.taskCount current (offset + 1) ≠ current := by
    unfold cyclicIndex
    split <;> omega
  generalize cyclicIndex kernel.taskCount current (offset + 1) = visited at *
  have unique : ∀ index < kernel.taskCount,
      rotationRank kernel.taskCount current index = offset + 1 → index = visited :=
    fun index index_lt same =>
      rotationRank_injective current_lt index_lt small (same.trans rank.symm)
  ext index
  by_cases ready : (kernel.tasks visited).state = .ready
  · rw [if_pos ready]
    simp only [Kernel.scanned, Set.mem_insert_iff, Set.mem_ofPred_eq]
    constructor
    · rintro ⟨index_lt, ⟨indexReady, different, reached⟩ | own⟩
      · rcases Nat.lt_or_ge offset (rotationRank kernel.taskCount current index) with new | old
        · exact Or.inl (unique index index_lt (by omega))
        · exact Or.inr ⟨index_lt, Or.inl ⟨indexReady, different, old⟩⟩
      · exact Or.inr ⟨index_lt, Or.inr own⟩
    · rintro (rfl | ⟨index_lt, ⟨indexReady, different, reached⟩ | own⟩)
      · exact ⟨small, Or.inl ⟨ready, other, rank.le⟩⟩
      · exact ⟨index_lt, Or.inl ⟨indexReady, different, by omega⟩⟩
      · exact ⟨index_lt, Or.inr own⟩
  · rw [if_neg ready]
    simp only [Kernel.scanned, Set.mem_ofPred_eq]
    constructor
    · rintro ⟨index_lt, ⟨indexReady, different, reached⟩ | own⟩
      · refine ⟨index_lt, Or.inl ⟨indexReady, different, ?_⟩⟩
        have notNew : rotationRank kernel.taskCount current index ≠ offset + 1 := by
          intro same
          rw [unique index index_lt same] at indexReady
          exact ready indexReady
        omega
      · exact ⟨index_lt, Or.inr own⟩
    · rintro ⟨index_lt, ⟨indexReady, different, reached⟩ | own⟩
      · exact ⟨index_lt, Or.inl ⟨indexReady, different, by omega⟩⟩
      · exact ⟨index_lt, Or.inr own⟩

/-- One turn of the scan keeps the first of the best seen so far. -/
theorem schedulerSelectNextStep_isFirst
    (current_lt : current < kernel.taskCount) {offset : Nat}
    (offset_lt : offset + 1 < kernel.taskCount) {selected : Option Nat}
    (first : IsFirst kernel.priorityOf (rotationRank kernel.taskCount current)
      (kernel.scanned current offset) selected) :
    IsFirst kernel.priorityOf (rotationRank kernel.taskCount current)
      (kernel.scanned current (offset + 1))
      (schedulerSelectNextStep kernel current selected (offset + 1)) := by
  have rank := rotationRank_cyclicIndex current_lt (Nat.succ_pos offset) offset_lt
  rw [kernel.scanned_succ current_lt offset_lt]
  simp only [schedulerSelectNextStep]
  rw [← cyclicIndex]
  generalize cyclicIndex kernel.taskCount current (offset + 1) = index at *
  by_cases ready : (kernel.tasks index).state = .ready
  · rw [if_pos ready, if_neg (not_not.mpr ready)]
    apply first.insert
    cases selected with
    | none => exact Or.inl ⟨rfl, by simp⟩
    | some old =>
        dsimp only
        split
        · rename_i preferred
          refine Or.inl ⟨rfl, ?_⟩
          intro other same
          obtain rfl := Option.some.inj same
          rcases preferred with larger | ⟨equal, isCurrent⟩
          · exact Or.inl larger
          · -- The current task loses every tie.
            refine Or.inr ⟨equal.symm, ?_⟩
            rw [rank, isCurrent, rotationRank_self]
            omega
        · rename_i kept
          simp only [not_or, not_lt, not_and] at kept
          refine Or.inr ⟨old, rfl, rfl, ?_⟩
          rcases Nat.lt_or_eq_of_le kept.1 with smaller | equal
          · exact Or.inl smaller
          · refine Or.inr ⟨equal, ?_⟩
            rcases first.1.2 with ⟨_, _, reached⟩ | ⟨isCurrent, _⟩
            · omega
            · exact absurd isCurrent (kept.2 equal)
  · rw [if_neg ready, if_pos ready]
    exact first

theorem find_range_self
    {count current : Nat} (current_lt : current < count) :
    (List.range count).find? (· = current) = some current := by
  rw [List.find?_range_eq_some]
  refine ⟨by simp, List.mem_range.mpr current_lt, ?_⟩
  intro index smaller
  simpa using smaller.ne

/-- From a running or blocked user task the scheduler selects, among the runnable tasks of
maximal priority, the first behind the current slot. -/
theorem schedulerSelectNext_isFirst
    (current_lt : current < kernel.taskCount)
    (active : (kernel.tasks current).state = .running ∨
      (kernel.tasks current).state = .blocked) :
    ∃ selected,
      IsFirst kernel.priorityOf (rotationRank kernel.taskCount current)
        (kernel.runnable current) selected ∧
      schedulerSelectNext kernel (some (.user current)) = some (taskOrIdle selected) := by
  have located := find_range_self current_lt
  let initial : Option Nat :=
    if (kernel.tasks current).state = .running then some current else none
  have initially : IsFirst kernel.priorityOf (rotationRank kernel.taskCount current)
      (kernel.scanned current 0) initial := by
    have empty : ∀ index ∈ kernel.scanned current 0,
        index = current ∧ (kernel.tasks index).state = .running := by
      rintro index ⟨index_lt, ⟨_, different, reached⟩ | own⟩
      · have positive := (rotationRank_bounds current_lt index_lt different).1
        omega
      · exact own
    by_cases running : (kernel.tasks current).state = .running
    · simp only [initial, if_pos running]
      refine ⟨⟨current_lt, Or.inr ⟨rfl, running⟩⟩, ?_⟩
      intro other present
      obtain ⟨rfl, _⟩ := empty other present
      exact Or.inr ⟨rfl, le_rfl⟩
    · simp only [initial, if_neg running]
      refine Set.eq_empty_of_forall_notMem fun index present => ?_
      obtain ⟨rfl, isRunning⟩ := empty index present
      exact running isRunning
  have scan : ∀ count, count < kernel.taskCount →
      IsFirst kernel.priorityOf (rotationRank kernel.taskCount current)
        (kernel.scanned current count)
        ((List.range' 1 count).foldl (schedulerSelectNextStep kernel current) initial) := by
    intro count
    induction count with
    | zero => exact fun _ => initially
    | succ count inductionHypothesis =>
        intro small
        rw [List.range'_1_concat, List.foldl_append, Nat.add_comm 1 count]
        exact schedulerSelectNextStep_isFirst kernel current_lt small
          (inductionHypothesis (by omega))
  have visited : kernel.scanned current (kernel.taskCount - 1) = kernel.runnable current := by
    ext index
    simp only [Kernel.scanned, Kernel.runnable, Set.mem_ofPred_eq]
    constructor
    · rintro ⟨index_lt, ⟨ready, _⟩ | own⟩
      · exact ⟨index_lt, Or.inl ready⟩
      · exact ⟨index_lt, Or.inr own⟩
    · rintro ⟨index_lt, ready | own⟩
      · have different : index ≠ current := by
          rintro rfl
          rcases active with active | active <;> simp [ready] at active
        have bounds := rotationRank_bounds current_lt index_lt different
        exact ⟨index_lt, Or.inl ⟨ready, different, by omega⟩⟩
      · exact ⟨index_lt, Or.inr own⟩
  have final := scan (kernel.taskCount - 1) (by omega)
  rw [visited] at final
  refine ⟨_, final, ?_⟩
  simp only [schedulerSelectNext, located]
  rw [if_neg (by rcases active with active | active <;> simp [active])]

end Selection

/-- In particular it selects a runnable task of maximal priority, and idle when there is
none. -/
theorem schedulerSelectNext_user
    (kernel : Kernel) {current : Nat}
    (current_lt : current < kernel.taskCount)
    (active : (kernel.tasks current).state = .running ∨
      (kernel.tasks current).state = .blocked) :
    ∃ selected, IsBest kernel.priorityOf (kernel.runnable current) selected ∧
      schedulerSelectNext kernel (some (.user current)) =
        some (taskOrIdle selected) := by
  obtain ⟨selected, first, selects⟩ := schedulerSelectNext_isFirst kernel current_lt active
  exact ⟨selected, first.isBest, selects⟩

/-- From idle the scheduler selects a ready task of maximal effective priority. -/
theorem schedulerSelectNext_idle (kernel : Kernel) :
    ∃ selected, IsBest kernel.priorityOf
        (kernel.eligibleTasks fun task => task.state = .ready) selected ∧
      schedulerSelectNext kernel (some .idle) = some (taskOrIdle selected) :=
  ⟨_, kernel.selectBest_isBest _, rfl⟩

end ForgeKernel
