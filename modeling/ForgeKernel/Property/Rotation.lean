import ForgeKernel.Property.RoundRobin

/-!
# The rotation among tasks of equal priority

`fr_scheduler_select_next` takes the first of the runnable tasks of maximal priority, in registry
order from the slot behind the current one to the current one.  When the running task is one of
the highest, as many switches as there are highest tasks run each of them once and come back.
-/

namespace ForgeKernel

open Scans Machines

/-! ## Cyclic registry order -/

/-- Registry slots from the one behind `current` to `current` itself. -/
def cyclicOrder (count current : Nat) : List Nat :=
  (List.range' 1 count).map (cyclicIndex count current)

theorem cyclicIndex_count (count current : Nat) : cyclicIndex count current count = current := by
  unfold cyclicIndex
  rw [if_pos (Nat.le_add_left count current), Nat.add_sub_cancel]

theorem cyclicIndex_lt
    {count current offset : Nat} (current_lt : current < count) (offset_le : offset ≤ count) :
    cyclicIndex count current offset < count := by
  unfold cyclicIndex
  split <;> omega

theorem rotationRank_offset
    {count current offset : Nat} (current_lt : current < count) (positive : 0 < offset)
    (offset_le : offset ≤ count) :
    rotationRank count current (cyclicIndex count current offset) = offset := by
  rcases Nat.lt_or_eq_of_le offset_le with small | rfl
  · exact rotationRank_cyclicIndex current_lt positive small
  · rw [cyclicIndex_count, rotationRank_self]

theorem rotationRank_le {count index : Nat} (current : Nat) (index_lt : index < count) :
    rotationRank count current index ≤ count := by
  unfold rotationRank
  split <;> omega

theorem rotationRank_pos {count current : Nat} (current_lt : current < count) (index : Nat) :
    0 < rotationRank count current index := by
  unfold rotationRank
  split <;> omega

/-- Ranks from another slot: what was passed on the way moves behind the rest. -/
theorem rotationRank_from
    {count current middle index : Nat} (current_lt : current < count) (middle_lt : middle < count)
    (index_lt : index < count) :
    rotationRank count middle index =
      if rotationRank count current middle < rotationRank count current index then
        rotationRank count current index - rotationRank count current middle
      else rotationRank count current index + count - rotationRank count current middle := by
  unfold rotationRank
  by_cases first : middle ≤ current <;> by_cases second : index ≤ current <;>
    by_cases third : index ≤ middle <;>
    simp only [first, second, third, ↓reduceIte] <;> split <;> omega

/-- Rank and offset are inverse to each other. -/
theorem cyclicIndex_rotationRank
    {count current index : Nat} (current_lt : current < count) (index_lt : index < count) :
    cyclicIndex count current (rotationRank count current index) = index := by
  unfold cyclicIndex rotationRank
  split <;> split <;> omega

/-- The cyclic order visits every slot. -/
theorem mem_cyclicOrder
    {count current index : Nat} (current_lt : current < count) :
    index ∈ cyclicOrder count current ↔ index < count := by
  simp only [cyclicOrder, List.mem_map, List.mem_range'_1]
  constructor
  · rintro ⟨offset, ⟨_, small⟩, rfl⟩
    exact cyclicIndex_lt current_lt (by omega)
  · intro index_lt
    have positive := rotationRank_pos current_lt index
    have bounded := rotationRank_le current index_lt
    exact ⟨rotationRank count current index, ⟨positive, by omega⟩,
      cyclicIndex_rotationRank current_lt index_lt⟩

/-- The order is that of the ranks. -/
theorem cyclicOrder_sorted {count current : Nat} (current_lt : current < count) :
    (cyclicOrder count current).Pairwise fun first second =>
      rotationRank count current first < rotationRank count current second := by
  unfold cyclicOrder
  rw [List.pairwise_map]
  have increasing : (List.range' 1 count).Pairwise (· < ·) := List.pairwise_lt_range'
  refine increasing.imp_of_mem ?_
  intro first second firstIn secondIn smaller
  rw [List.mem_range'_1] at firstIn secondIn
  rw [rotationRank_offset current_lt (by omega) (by omega),
    rotationRank_offset current_lt (by omega) (by omega)]
  exact smaller

/-- It ends with the current one. -/
theorem cyclicOrder_eq_append {count current : Nat} (current_lt : current < count) :
    ∃ front, cyclicOrder count current = front ++ [current] := by
  obtain ⟨size, rfl⟩ : ∃ size, count = size + 1 := ⟨count - 1, by omega⟩
  refine ⟨(List.range' 1 size).map (cyclicIndex (size + 1) current), ?_⟩
  unfold cyclicOrder
  rw [List.range'_1_concat, List.map_append, Nat.add_comm 1 size]
  rw [List.map_singleton, cyclicIndex_count]

/-! ## The tasks that take turns -/

/-- Ready or running. -/
def TaskState.Awake (state : TaskState) : Prop :=
  state = .ready ∨ state = .running

instance awakeDecidable (state : TaskState) : Decidable state.Awake :=
  inferInstanceAs (Decidable (_ ∨ _))

/-- Ready and running tasks of the current priority, in cyclic registry order. -/
def Kernel.turns (kernel : Kernel) (current : Nat) : List Nat :=
  (cyclicOrder kernel.taskCount current).filter fun index =>
    (kernel.tasks index).state.Awake ∧
      (kernel.tasks index).priority = (kernel.tasks current).priority

section Turns

variable {kernel : Kernel} {current : Nat}

/-- The tasks that take turns are the awake ones of the priority of the current task. -/
theorem Kernel.mem_turns (current_lt : current < kernel.taskCount) {index : Nat} :
    index ∈ kernel.turns current ↔ index < kernel.taskCount ∧
      (kernel.tasks index).state.Awake ∧
      (kernel.tasks index).priority = (kernel.tasks current).priority := by
  unfold turns
  rw [List.mem_filter, mem_cyclicOrder current_lt, decide_eq_true_eq]

theorem Kernel.turns_sorted (current_lt : current < kernel.taskCount) :
    (kernel.turns current).Pairwise fun first second =>
      rotationRank kernel.taskCount current first <
        rotationRank kernel.taskCount current second :=
  (cyclicOrder_sorted current_lt).filter _

theorem Kernel.turns_nodup (current_lt : current < kernel.taskCount) :
    (kernel.turns current).Nodup :=
  (kernel.turns_sorted current_lt).imp fun {first second} smaller same => by
    rw [same] at smaller
    exact lt_irrefl _ smaller

/-- The current task has its turn last. -/
theorem Kernel.turns_last
    (current_lt : current < kernel.taskCount) (awake : (kernel.tasks current).state.Awake) :
    (kernel.turns current).getLast? = some current := by
  obtain ⟨front, order⟩ := cyclicOrder_eq_append current_lt
  unfold turns
  rw [order, List.filter_append, List.filter_singleton, decide_eq_true ⟨awake, rfl⟩, cond_true,
    List.getLast?_concat]

/-- From the task whose turn it is, the next one of the list comes first. -/
theorem Kernel.turns_next
    (current_lt : current < kernel.taskCount) {step runner next : Nat}
    (turn : (current :: kernel.turns current)[step]? = some runner)
    (small : step < (kernel.turns current).length)
    (present : next ∈ kernel.turns current)
    (first : ∀ other ∈ kernel.turns current, rotationRank kernel.taskCount runner next ≤
      rotationRank kernel.taskCount runner other) :
    (kernel.turns current)[step]? = some next := by
  have sorted := List.pairwise_iff_getElem.mp (kernel.turns_sorted current_lt)
  have bounded : ∀ index ∈ kernel.turns current, index < kernel.taskCount := fun index member =>
    ((kernel.mem_turns current_lt).mp member).1
  generalize kernel.turns current = turns at *
  generalize kernel.taskCount = count at *
  have following_lt := bounded _ (List.getElem_mem small)
  have next_lt := bounded next present
  suffices earliest : ∀ other ∈ turns,
      rotationRank count runner turns[step] ≤ rotationRank count runner other by
    have runner_lt : runner < count := by
      rcases List.mem_cons.mp (List.mem_of_getElem? turn) with rfl | member
      · exact current_lt
      · exact bounded runner member
    have same := rotationRank_injective runner_lt following_lt next_lt
      (le_antisymm (earliest next present) (first _ (List.getElem_mem small)))
    rw [List.getElem?_eq_getElem small, same]
  intro other member
  obtain ⟨position, inside, rfl⟩ := List.getElem_of_mem member
  have other_lt := bounded _ member
  cases step with
  | zero =>
      obtain rfl : current = runner := Option.some.inj turn
      rcases Nat.eq_zero_or_pos position with rfl | later
      · exact le_rfl
      · exact (sorted 0 position small inside later).le
  | succ step =>
      have before : step < turns.length := by omega
      rw [List.getElem?_cons_succ, List.getElem?_eq_getElem before] at turn
      obtain rfl := Option.some.inj turn
      have runner_lt := bounded _ (List.getElem_mem before)
      have ahead := sorted step (step + 1) before small (Nat.lt_succ_self step)
      have limit := rotationRank_le current following_lt
      have positive := rotationRank_pos current_lt turns[position]
      rw [rotationRank_from current_lt runner_lt following_lt,
        rotationRank_from current_lt runner_lt other_lt, if_pos ahead]
      -- Slots up to the runner have been passed, the others are still ahead.
      rcases Nat.lt_or_ge step position with later | earlier
      · have beyond : rotationRank count current turns[step + 1] ≤
            rotationRank count current turns[position] := by
          rcases Nat.eq_or_lt_of_le later with same | further
          · simp only [← same, Nat.succ_eq_add_one, le_refl]
          · exact (sorted (step + 1) position small inside further).le
        rw [if_pos (by omega)]
        omega
      · have behind : rotationRank count current turns[position] ≤
            rotationRank count current turns[step] := by
          rcases Nat.eq_or_lt_of_le earlier with same | further
          · simp only [same, le_refl]
          · exact (sorted position step inside before further).le
        rw [if_neg (by omega)]
        omega

end Turns

/-! ## One switch -/

/-- The current task is the only running one and no ready task outranks it; the stored stack
pointers of the tasks it takes turns with are in order. -/
structure Kernel.Rotating (kernel : Kernel) (runner : Nat) : Prop where
  registered : runner < kernel.taskCount
  running : kernel.running = true
  current : kernel.currentTask = some (.user runner)
  sole : ∀ index < kernel.taskCount, (kernel.tasks index).state = .running ↔ index = runner
  idle : kernel.idleTask.state ≠ .running
  highest : ∀ index < kernel.taskCount, (kernel.tasks index).state = .ready →
    (kernel.tasks index).priority ≤ (kernel.tasks runner).priority
  saved : ∀ index < kernel.taskCount, (kernel.tasks index).state = .ready →
    (kernel.tasks index).priority = (kernel.tasks runner).priority →
    schedulerSavedSpValid (kernel.tasks index) (kernel.tasks index).savedSp = true

instance rotatingDecidable (kernel : Kernel) (runner : Nat) :
    Decidable (kernel.Rotating runner) :=
  decidable_of_iff
    (runner < kernel.taskCount ∧ kernel.running = true ∧
      kernel.currentTask = some (.user runner) ∧
      (∀ index < kernel.taskCount, (kernel.tasks index).state = .running ↔ index = runner) ∧
      kernel.idleTask.state ≠ .running ∧
      (∀ index < kernel.taskCount, (kernel.tasks index).state = .ready →
        (kernel.tasks index).priority ≤ (kernel.tasks runner).priority) ∧
      ∀ index < kernel.taskCount, (kernel.tasks index).state = .ready →
        (kernel.tasks index).priority = (kernel.tasks runner).priority →
        schedulerSavedSpValid (kernel.tasks index) (kernel.tasks index).savedSp = true)
    ⟨fun ⟨registered, running, current, sole, idle, highest, saved⟩ =>
        ⟨registered, running, current, sole, idle, highest, saved⟩,
      fun rotating => ⟨rotating.registered, rotating.running, rotating.current, rotating.sole,
        rotating.idle, rotating.highest, rotating.saved⟩⟩

/-- Nothing but which task runs, and stored stack pointers, has changed. -/
structure Kernel.Turned (before after : Kernel) : Prop where
  taskCount : after.taskCount = before.taskCount
  priority : ∀ index, (after.tasks index).priority = (before.tasks index).priority
  awake : ∀ index < before.taskCount,
    (after.tasks index).state.Awake ↔ (before.tasks index).state.Awake
  bounds : ∀ index savedSp, schedulerSavedSpValid (after.tasks index) savedSp =
    schedulerSavedSpValid (before.tasks index) savedSp

theorem Kernel.Turned.refl (kernel : Kernel) : kernel.Turned kernel :=
  ⟨rfl, fun _ => rfl, fun _ _ => Iff.rfl, fun _ _ => rfl⟩

theorem Kernel.Turned.trans
    {first second third : Kernel} (left : first.Turned second) (right : second.Turned third) :
    first.Turned third where
  taskCount := right.taskCount.trans left.taskCount
  priority index := (right.priority index).trans (left.priority index)
  awake index small :=
    (right.awake index (left.taskCount.symm ▸ small)).trans (left.awake index small)
  bounds index savedSp := (right.bounds index savedSp).trans (left.bounds index savedSp)

/-- Control blocks after `runner` has handed over to `next`. -/
def Kernel.handedOver (kernel : Kernel) (runner next : Nat) (psp : Word) (index : Nat) : Task :=
  { kernel.tasks index with
    savedSp := if index = runner then psp else (kernel.tasks index).savedSp
    state :=
      if index = next then .running
      else if index = runner then .ready
      else (kernel.tasks index).state }

/-- A switch between two tasks exchanges their states. -/
theorem schedulerSwitchTo_tasks
    {kernel : Kernel} {runner : Nat} (running : (kernel.tasks runner).state = .running)
    (next : Nat) (psp : Word) (index : Nat) :
    (schedulerSwitchTo (kernel.savedAt (.user runner) psp) (.user runner) (.user next)).tasks
      index = kernel.handedOver runner next psp index := by
  change ((Kernel.demoted (kernel.savedAt (.user runner) psp) (.user runner)).setTaskAt (.user next)
    { (Kernel.demoted (kernel.savedAt (.user runner) psp) (.user runner)).tasks next with
      state := .running }).tasks index = _
  simp only [Kernel.setTaskAt_tasks, Kernel.demoted_tasks, Kernel.savedAt_tasks,
    TaskRef.user.injEq, Kernel.handedOver]
  by_cases chosen : index = next
  · subst chosen
    simp only [if_true, eq_comm]
  · rw [if_neg (Ne.symm chosen), if_neg chosen]
    by_cases own : index = runner
    · subst own
      simp only [running, and_self, if_true]
    · simp only [own, Ne.symm own, false_and, if_false]

namespace Kernel.Rotating

variable {kernel : Kernel} {runner : Nat} {psp : Word}

/-- In rotation a task is awake when it is READY or it runs. -/
theorem awake_iff (rotating : kernel.Rotating runner) {index : Nat}
    (small : index < kernel.taskCount) :
    (kernel.tasks index).state.Awake ↔
      (kernel.tasks index).state = .ready ∨ index = runner := by
  unfold TaskState.Awake
  rw [rotating.sole index small]

/-- The switch selects the first task of the highest priority behind the running one. -/
theorem selects (rotating : kernel.Rotating runner) :
    ∃ next, schedulerSelectNext kernel (some (.user runner)) = some (.user next) ∧
      next < kernel.taskCount ∧ (kernel.tasks next).state.Awake ∧
      (kernel.tasks next).priority = (kernel.tasks runner).priority ∧
      ∀ other < kernel.taskCount, (kernel.tasks other).state.Awake →
        (kernel.tasks other).priority = (kernel.tasks runner).priority →
        rotationRank kernel.taskCount runner next ≤
          rotationRank kernel.taskCount runner other := by
  have runs := (rotating.sole runner rotating.registered).mpr rfl
  obtain ⟨selected, first, selects⟩ :=
    schedulerSelectNext_isFirst kernel rotating.registered (Or.inl runs)
  have member : ∀ other < kernel.taskCount, (kernel.tasks other).state.Awake →
      other ∈ kernel.runnable runner := by
    intro other small awake
    rcases (rotating.awake_iff small).mp awake with ready | rfl
    · exact ⟨small, Or.inl ready⟩
    · exact ⟨small, Or.inr ⟨rfl, runs⟩⟩
  have own := member runner rotating.registered (Or.inr runs)
  cases selected with
  | none =>
      have empty : kernel.runnable runner = ∅ := first
      rw [empty] at own
      exact absurd own (Set.notMem_empty runner)
  | some next =>
      obtain ⟨⟨small, choice⟩, precedes⟩ := first
      have awake : (kernel.tasks next).state.Awake :=
        choice.imp id fun isRunner => isRunner.2
      have bounded : (kernel.tasks next).priority ≤ (kernel.tasks runner).priority := by
        rcases choice with ready | ⟨rfl, _⟩
        · exact rotating.highest next small ready
        · exact le_rfl
      have equal : (kernel.tasks next).priority = (kernel.tasks runner).priority := by
        rcases precedes runner own with lower | ⟨same, _⟩
        · exact absurd lower (Nat.not_lt.mpr bounded)
        · exact same.symm
      refine ⟨next, selects, small, awake, equal, fun other otherSmall otherAwake same => ?_⟩
      rcases precedes other (member other otherSmall otherAwake) with lower | ⟨_, earlier⟩
      · exact absurd lower (by
          unfold Kernel.priorityOf
          omega)
      · exact earlier

/-- The switch hands over to the task that the selection names. -/
theorem handsOver
    (rotating : kernel.Rotating runner) {next : Nat}
    (valid : schedulerSavedSpValid (kernel.tasks runner) psp = true)
    (selects : schedulerSelectNext kernel (some (.user runner)) = some (.user next))
    (small : next < kernel.taskCount) (awake : (kernel.tasks next).state.Awake)
    (equal : (kernel.tasks next).priority = (kernel.tasks runner).priority) :
    (schedulerSwitchFromIsr kernel psp).1.tasks = kernel.handedOver runner next psp ∧
      (schedulerSwitchFromIsr kernel psp).1.taskCount = kernel.taskCount ∧
      (schedulerSwitchFromIsr kernel psp).1.running = kernel.running ∧
      (schedulerSwitchFromIsr kernel psp).1.currentTask = some (.user next) ∧
      (schedulerSwitchFromIsr kernel psp).1.idleTask = kernel.idleTask := by
  have runs := (rotating.sole runner rotating.registered).mpr rfl
  have stored := Kernel.savedAt_tasks kernel (.user runner) psp
  have selectsSaved : schedulerSelectNext (kernel.savedAt (.user runner) psp)
      (some (.user runner)) = some (.user next) := by
    rw [← selects]
    refine schedulerSelectNext_congr rfl (fun index => ?_) fun index => ?_
    · rw [stored]
    · rw [stored]
  have nextValid : schedulerSavedSpValid
      ((kernel.savedAt (.user runner) psp).taskAt (.user next))
      ((kernel.savedAt (.user runner) psp).taskAt (.user next)).savedSp = true := by
    change schedulerSavedSpValid ((kernel.savedAt (.user runner) psp).tasks next)
      ((kernel.savedAt (.user runner) psp).tasks next).savedSp = true
    rw [stored]
    by_cases same : next = runner
    · subst same
      rw [if_pos rfl]
      exact valid
    · rw [if_neg fun named => same (TaskRef.user.inj named).symm]
      have ready := ((rotating.awake_iff small).mp awake).resolve_right same
      exact rotating.saved next small ready equal
  rw [schedulerSwitchFromIsr_eq rotating.current rotating.running (Or.inl runs) valid selectsSaved
    nextValid]
  by_cases same : next = runner
  · subst same
    rw [if_pos rfl]
    refine ⟨funext fun index => ?_, rfl, rfl, rotating.current, rfl⟩
    rw [stored, Kernel.handedOver]
    by_cases own : index = next
    · subst own
      simp only [if_true, runs]
    · simp only [own, if_false, TaskRef.user.injEq, Ne.symm own]
  · rw [if_neg fun named => same (TaskRef.user.inj named)]
    have demoted := Kernel.demoted_facts (kernel.savedAt (.user runner) psp) (.user runner)
    refine ⟨funext (schedulerSwitchTo_tasks runs next psp), demoted.2.1, demoted.2.2.1, rfl, ?_⟩
    change (Kernel.demoted (kernel.savedAt (.user runner) psp) (.user runner)).idleTask = _
    unfold Kernel.demoted
    split <;> rfl

/-- One switch: the first task of the highest priority behind the running one runs now, alone. -/
theorem switch
    (rotating : kernel.Rotating runner)
    (valid : schedulerSavedSpValid (kernel.tasks runner) psp = true) :
    ∃ next, kernel.Turned (schedulerSwitchFromIsr kernel psp).1 ∧
      (schedulerSwitchFromIsr kernel psp).1.Rotating next ∧
      next < kernel.taskCount ∧ (kernel.tasks next).state.Awake ∧
      (kernel.tasks next).priority = (kernel.tasks runner).priority ∧
      ∀ other < kernel.taskCount, (kernel.tasks other).state.Awake →
        (kernel.tasks other).priority = (kernel.tasks runner).priority →
        rotationRank kernel.taskCount runner next ≤
          rotationRank kernel.taskCount runner other := by
  obtain ⟨next, selects, small, awake, equal, first⟩ := rotating.selects
  obtain ⟨tasks, taskCount, running, current, idle⟩ :=
    rotating.handsOver valid selects small awake equal
  generalize (schedulerSwitchFromIsr kernel psp).1 = after at *
  have runs := (rotating.sole runner rotating.registered).mpr rfl
  have state : ∀ index, (after.tasks index).state = if index = next then .running
      else if index = runner then .ready else (kernel.tasks index).state := fun index => by
    rw [tasks]
    rfl
  have priority : ∀ index, (after.tasks index).priority = (kernel.tasks index).priority :=
    fun index => by
      rw [tasks]
      rfl
  have bounds : ∀ index savedSp, schedulerSavedSpValid (after.tasks index) savedSp =
      schedulerSavedSpValid (kernel.tasks index) savedSp := fun index savedSp => by
    rw [tasks]
    rfl
  -- A task that is ready now was ready, or is the one that handed over.
  have wasReady : ∀ index < kernel.taskCount, (after.tasks index).state = .ready →
      index = runner ∨ (kernel.tasks index).state = .ready := by
    intro index _ ready
    rw [state] at ready
    split at ready
    · cases ready
    · split at ready
      · rename_i own
        exact Or.inl own
      · exact Or.inr ready
  refine ⟨next, ⟨taskCount, priority, ?_, bounds⟩, ⟨taskCount ▸ small,
    running.trans rotating.running, current, ?_, idle ▸ rotating.idle, ?_, ?_⟩, small, awake,
    equal, first⟩
  · intro index indexSmall
    rw [rotating.awake_iff indexSmall, TaskState.Awake, state]
    by_cases chosen : index = next
    · subst chosen
      simp only [if_true, or_true, true_iff]
      exact (rotating.awake_iff indexSmall).mp awake
    · rw [if_neg chosen]
      by_cases own : index = runner
      · simp [own]
      · rw [if_neg own, rotating.sole index indexSmall]
  · intro index indexSmall
    rw [state]
    by_cases chosen : index = next
    · simp [chosen]
    · rw [if_neg chosen]
      by_cases own : index = runner
      · simp [own]
        exact own ▸ chosen
      · rw [if_neg own, rotating.sole index (taskCount ▸ indexSmall)]
        simp [own, chosen]
  · intro index indexSmall ready
    rw [priority, priority, equal]
    rcases wasReady index (taskCount ▸ indexSmall) ready with rfl | before
    · exact le_rfl
    · exact rotating.highest index (taskCount ▸ indexSmall) before
  · intro index indexSmall ready same
    rw [priority, priority, equal] at same
    rw [bounds]
    have savedSp : (after.tasks index).savedSp =
        if index = runner then psp else (kernel.tasks index).savedSp := by
      rw [tasks]
      rfl
    rw [savedSp]
    by_cases own : index = runner
    · rw [if_pos own, own]
      exact valid
    · rw [if_neg own]
      have before := (wasReady index (taskCount ▸ indexSmall) ready).resolve_left own
      exact rotating.saved index (taskCount ▸ indexSmall) before same

end Kernel.Rotating

/-! ## A whole turn -/

/-- Successive calls of `fr_scheduler_switch_from_isr`, each with its own stack pointer. -/
def Kernel.switches (kernel : Kernel) (psp : Nat → Word) : Nat → Kernel
  | 0 => kernel
  | step + 1 => (schedulerSwitchFromIsr (kernel.switches psp step) (psp step)).1

/-- After each switch the next task of the list is the running one. -/
theorem Kernel.Rotating.switches_turn
    {kernel : Kernel} {current : Nat} {psp : Nat → Word} (rotating : kernel.Rotating current)
    (valid : ∀ step < (kernel.turns current).length,
      ∀ index ∈ schedulerCurrentTask (kernel.switches psp step),
        schedulerSavedSpValid (kernel.tasks index) (psp step) = true)
    {step : Nat} (inTurn : step ≤ (kernel.turns current).length) :
    ∃ runner, (current :: kernel.turns current)[step]? = some runner ∧
      kernel.Turned (kernel.switches psp step) ∧
      (kernel.switches psp step).Rotating runner := by
  induction step with
  | zero => exact ⟨current, rfl, .refl kernel, rotating⟩
  | succ step inductionHypothesis =>
      have small : step < (kernel.turns current).length := inTurn
      obtain ⟨runner, turn, turned, running⟩ := inductionHypothesis small.le
      have priority : (kernel.tasks runner).priority = (kernel.tasks current).priority := by
        rcases List.mem_cons.mp (List.mem_of_getElem? turn) with rfl | member
        · rfl
        · exact ((kernel.mem_turns rotating.registered).mp member).2.2
      have accepted : schedulerSavedSpValid ((kernel.switches psp step).tasks runner) (psp step) =
          true := by
        rw [turned.bounds]
        exact valid step small runner (schedulerCurrentTask_eq_some.mpr running.current)
      obtain ⟨next, further, rotates, next_lt, awake, equal, first⟩ := running.switch accepted
      rw [turned.priority, turned.priority] at equal
      rw [turned.taskCount] at next_lt
      have present : next ∈ kernel.turns current :=
        (kernel.mem_turns rotating.registered).mpr
          ⟨next_lt, (turned.awake next next_lt).mp awake, equal.trans priority⟩
      refine ⟨next, ?_, turned.trans further, rotates⟩
      rw [List.getElem?_cons_succ]
      refine Kernel.turns_next rotating.registered turn small present fun other member => ?_
      obtain ⟨other_lt, otherAwake, otherPriority⟩ :=
        (kernel.mem_turns rotating.registered).mp member
      have ahead := first other (turned.taskCount.symm ▸ other_lt)
        ((turned.awake other other_lt).mpr otherAwake)
        (by rw [turned.priority, turned.priority, otherPriority, priority])
      rwa [turned.taskCount] at ahead

/-- The tasks that take turns are those of maximal priority. -/
theorem Kernel.Rotating.mem_turns_iff
    {kernel : Kernel} {current : Nat} (rotating : kernel.Rotating current) {index : Nat} :
    index ∈ kernel.turns current ↔ index < kernel.taskCount ∧
      (kernel.tasks index).state.Awake ∧
      ∀ other < kernel.taskCount, (kernel.tasks other).state.Awake →
        (kernel.tasks other).priority ≤ (kernel.tasks index).priority := by
  have highest : ∀ other < kernel.taskCount, (kernel.tasks other).state.Awake →
      (kernel.tasks other).priority ≤ (kernel.tasks current).priority := by
    intro other small awake
    rcases (rotating.awake_iff small).mp awake with ready | rfl
    · exact rotating.highest other small ready
    · exact le_rfl
  have own := (rotating.awake_iff rotating.registered).mpr (Or.inr rfl)
  rw [kernel.mem_turns rotating.registered]
  constructor
  · rintro ⟨small, awake, equal⟩
    exact ⟨small, awake, fun other otherSmall otherAwake =>
      (highest other otherSmall otherAwake).trans equal.ge⟩
  · rintro ⟨small, awake, maximal⟩
    exact ⟨small, awake, le_antisymm (highest index small awake)
      (maximal current rotating.registered own)⟩

/-- The selection is the first of the runnable tasks of maximal priority in cyclic registry order,
and idle exactly when none is runnable.  If the running task is among the ready and running tasks
of maximal priority, one switch for each of them runs each once, in cyclic registry order, and
ends at the original one; after every switch exactly one task is running. -/
theorem selection_rotates
    {kernel : Kernel} {current : Nat} (registered : current < kernel.taskCount)
    (active : (kernel.tasks current).state = .running ∨
      (kernel.tasks current).state = .blocked) :
    (∃ selected, schedulerSelectNext kernel (some (.user current)) = some (taskOrIdle selected) ∧
      IsFirst kernel.priorityOf (rotationRank kernel.taskCount current) (kernel.runnable current)
        selected) ∧
    (schedulerSelectNext kernel (some (.user current)) = some .idle ↔
      kernel.runnable current = ∅) ∧
    ∀ psp : Nat → Word, kernel.Rotating current →
      (∀ step < (kernel.turns current).length,
        ∀ index ∈ schedulerCurrentTask (kernel.switches psp step),
          schedulerSavedSpValid (kernel.tasks index) (psp step) = true) →
      (∀ index, index ∈ kernel.turns current ↔ index < kernel.taskCount ∧
        (kernel.tasks index).state.Awake ∧
        ∀ other < kernel.taskCount, (kernel.tasks other).state.Awake →
          (kernel.tasks other).priority ≤ (kernel.tasks index).priority) ∧
      (kernel.turns current).Nodup ∧ (kernel.turns current).getLast? = some current ∧
      ∀ step ≤ (kernel.turns current).length,
        (kernel.switches psp step).currentTask =
          (current :: kernel.turns current)[step]?.map TaskRef.user ∧
        (kernel.switches psp step).idleTask.state ≠ .running ∧
        ∀ index < kernel.taskCount,
          ((kernel.switches psp step).tasks index).state = .running ↔
            (kernel.switches psp step).currentTask = some (.user index) := by
  obtain ⟨selected, first, selects⟩ := schedulerSelectNext_isFirst kernel registered active
  refine ⟨⟨selected, selects, first⟩, ?_, ?_⟩
  · rw [selects]
    cases selected with
    | none => exact iff_of_true rfl first
    | some best =>
        refine iff_of_false (by simp [taskOrIdle]) fun empty => ?_
        have member : best ∈ kernel.runnable current := first.1
        rw [empty] at member
        exact Set.notMem_empty best member
  · intro psp rotating valid
    refine ⟨fun index => rotating.mem_turns_iff, Kernel.turns_nodup registered,
      Kernel.turns_last registered ((rotating.awake_iff registered).mpr (Or.inr rfl)), ?_⟩
    intro step inTurn
    obtain ⟨runner, turn, turned, running⟩ := rotating.switches_turn valid inTurn
    refine ⟨by rw [turn, running.current]; rfl, running.idle, fun index small => ?_⟩
    rw [running.sole index (turned.taskCount.symm ▸ small), running.current, Option.some.injEq,
      TaskRef.user.injEq, eq_comm]

/-- Stack pointers of three tasks that have used half of their stacks. -/
def threeTurns (step : Nat) : Word :=
  Action.stackOf ([0, 2, 3].getD step 0) + 64

/-- Three tasks of one priority take turns; the fourth sleeps. -/
theorem three_of_four_take_turns :
    ∃ system : System, system.kernel.turns 0 = [2, 3, 0] ∧
      ∀ step ≤ 3, (system.kernel.switches threeTurns step).currentTask =
        [0, 2, 3, 0][step]?.map TaskRef.user := by
  obtain ⟨events, system, _, checked⟩ :=
    Machine.RunFrom.exists_of_execFrom (forge Config.default) Machine.anyStep System.boot
      (Action.bootProgram [] [2, 1, 2, 2]) (fun _ system =>
        decide (system.kernel.turns 0 = [2, 3, 0] ∧ system.kernel.Rotating 0 ∧
          ∀ step ∈ List.range 3,
            ∀ index ∈ schedulerCurrentTask (system.kernel.switches threeTurns step),
              schedulerSavedSpValid (system.kernel.tasks index) (threeTurns step) = true))
      (by decide +kernel)
  rw [decide_eq_true_eq] at checked
  obtain ⟨turns, rotating, valid⟩ := checked
  obtain ⟨_, _, turn⟩ := selection_rotates rotating.registered
    (Or.inl ((rotating.sole 0 rotating.registered).mpr rfl))
  have length : (system.kernel.turns 0).length = 3 := congrArg List.length turns
  obtain ⟨_, _, _, reached⟩ := turn threeTurns rotating fun step small =>
    valid step (List.mem_range.mpr (length ▸ small))
  refine ⟨system, turns, fun step inTurn => ?_⟩
  rw [(reached step (length ▸ inTurn)).1, turns]

end ForgeKernel
