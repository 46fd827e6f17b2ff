import ForgeKernel.Invariant.Calls

/-!
# The current task

`ControlOk` ties the current pointer to the task states.  It is what makes the
scheduler's selection meaningful: under it a switch always finds the task of
maximal effective priority among the ready tasks and the current one.
-/

namespace ForgeKernel

open Scans

/-- The current pointer agrees with the task states. -/
structure ControlOk (kernel : Kernel) : Prop where
  /-- Nothing runs or waits before the scheduler starts. -/
  stopped : kernel.running = false → kernel.currentTask = none ∧
    ∀ index, (kernel.tasks index).state ≠ .running ∧ (kernel.tasks index).state ≠ .blocked
  /-- A started scheduler has a current task. -/
  started : kernel.running = true → ∃ current, kernel.currentTask = some current
  idle : kernel.currentTask = some .idle → kernel.idleTask.state = .running
  user : ∀ current, kernel.currentTask = some (.user current) →
    current < kernel.taskCount ∧ kernel.idleTask.state = .ready ∧
      ((kernel.tasks current).state = .running ∨
        ((kernel.tasks current).state = .blocked ∧
          (kernel.pendSv = true ∨ kernel.halted.isSome = true)))
  /-- Only the current task is running. -/
  sole : ∀ index, (kernel.tasks index).state = .running →
    kernel.currentTask = some (.user index)

namespace Kernel

/-- Registered tasks among which a switch selects. -/
def candidates (kernel : Kernel) : Set Nat :=
  {index | index < kernel.taskCount ∧ ((kernel.tasks index).state = .ready ∨
    (kernel.currentTask = some (.user index) ∧ (kernel.tasks index).state = .running))}

end Kernel

/-- The current pointer is one that `fr_scheduler_select_next` accepts. -/
def Kernel.Selectable (kernel : Kernel) : Prop :=
  kernel.currentTask = some .idle ∨
    ∃ current, kernel.currentTask = some (.user current) ∧ current < kernel.taskCount ∧
      ((kernel.tasks current).state = .running ∨ (kernel.tasks current).state = .blocked)

/-- After the start there is always a task to select. -/
theorem ControlOk.selectable
    {kernel : Kernel} (control : ControlOk kernel) (running : kernel.running = true) :
    kernel.Selectable := by
  obtain ⟨current, present⟩ := control.started running
  cases current with
  | idle => exact Or.inl present
  | user current =>
      obtain ⟨current_lt, _, state⟩ := control.user current present
      exact Or.inr ⟨current, present, current_lt, state.imp_right fun blocked => blocked.1⟩

/-- The scheduler selects a candidate of maximal effective priority, or idle when
there is none. -/
theorem Kernel.Selectable.selectNext {kernel : Kernel} (selectable : kernel.Selectable) :
    ∃ selected, IsBest kernel.priorityOf kernel.candidates selected ∧
      schedulerSelectNext kernel kernel.currentTask = some (taskOrIdle selected) := by
  rcases selectable with present | ⟨current, present, current_lt, state⟩
  · obtain ⟨selected, best, next⟩ := schedulerSelectNext_idle kernel
    refine ⟨selected, ?_, by rw [present, next]⟩
    convert best using 1
    ext index
    simp [Kernel.candidates, Kernel.eligibleTasks, present, and_comm]
  · obtain ⟨selected, best, next⟩ := schedulerSelectNext_user kernel current_lt state
    refine ⟨selected, ?_, by rw [present, next]⟩
    convert best using 1
    ext index
    simp [Kernel.candidates, Kernel.runnable, present, eq_comm]

/-! ## Preservation by the effects of a step -/

section Preservation

variable {before after : Kernel}

/-- States, current pointer and pending bit decide `ControlOk`. -/
theorem ControlOk.of_states
    (control : ControlOk before)
    (same : before.SameControl after)
    (pendSv : before.pendSv = true → after.pendSv = true)
    (live : before.halted = none)
    (states : ∀ index, (after.tasks index).state = (before.tasks index).state) :
    ControlOk after where
  stopped running := by
    rw [same.running] at running
    simpa only [same.currentTask, states] using control.stopped running
  started running := by
    rw [same.running] at running
    simpa only [same.currentTask] using control.started running
  idle current := by
    rw [same.currentTask] at current
    simpa only [same.idle] using control.idle current
  user current present := by
    rw [same.currentTask] at present
    obtain ⟨current_lt, idle, state⟩ := control.user current present
    rw [same.taskCount, same.idle, states]
    refine ⟨current_lt, idle, state.imp_right fun blocked => ⟨blocked.1, Or.inl ?_⟩⟩
    exact pendSv (blocked.2.resolve_right (by simp [live]))
  sole index running := by
    rw [states] at running
    simpa only [same.currentTask] using control.sole index running

/-- A task that a wake-up moves out of `BLOCKED` runs exactly when it is current. -/
theorem ControlOk.wakes {cause : WakeCause}
    (control : ControlOk before) (woken : before.Wakes cause after) : ControlOk after where
  stopped running := by
    rw [woken.running] at running
    obtain ⟨current, inactive⟩ := control.stopped running
    refine ⟨woken.currentTask.trans current, fun index => ?_⟩
    rcases woken.tasks index with ⟨same⟩ | ⟨blocked, _, _⟩
    · rw [same]
      exact inactive index
    · exact absurd blocked (inactive index).2
  started running := by
    rw [woken.running] at running
    simpa only [woken.currentTask] using control.started running
  idle current := by
    rw [woken.currentTask] at current
    simpa only [woken.idle] using control.idle current
  user current present := by
    rw [woken.currentTask] at present
    obtain ⟨current_lt, idle, state⟩ := control.user current present
    rw [woken.taskCount, woken.idle, woken.halted]
    refine ⟨current_lt, idle, ?_⟩
    rcases woken.tasks current with ⟨same⟩ | ⟨_, _, ended⟩
    · rw [same]
      exact state.imp_right fun blocked => ⟨blocked.1, blocked.2.imp_left woken.pendSv⟩
    · rw [ended]
      exact Or.inl (if_pos present)
  sole index running := by
    rw [woken.currentTask]
    rcases woken.tasks index with ⟨same⟩ | ⟨_, _, ended⟩
    · rw [same] at running
      exact control.sole index running
    · rw [ended] at running
      by_contra other
      exact absurd ((if_neg other).symm.trans running) (by decide)

/-- The current task begins to wait, with a switch pending. -/
theorem ControlOk.blocks
    {current : Nat}
    (control : ControlOk before)
    (same : before.SameControl after)
    (pendSv : after.pendSv = true)
    (runs : before.Runs current)
    (blocked : (after.tasks current).state = .blocked)
    (others : ∀ index, index ≠ current →
      (after.tasks index).state = (before.tasks index).state) :
    ControlOk after where
  stopped running := by
    rw [same.running, runs.running] at running
    exact absurd running (by decide)
  started _ := ⟨.user current, same.currentTask.trans runs.currentTask⟩
  idle present := by
    rw [same.currentTask, runs.currentTask] at present
    exact absurd present (by simp)
  user other present := by
    rw [same.currentTask, runs.currentTask] at present
    obtain rfl : current = other := by simpa using present
    obtain ⟨current_lt, idle, _⟩ := control.user current runs.currentTask
    rw [same.taskCount, same.idle]
    exact ⟨current_lt, idle, Or.inr ⟨blocked, Or.inl pendSv⟩⟩
  sole index running := by
    rw [same.currentTask]
    by_cases self : index = current
    · rw [self, blocked] at running
      exact absurd running (by decide)
    · rw [others index self] at running
      exact control.sole index running

/-- One slot that is neither running nor blocked is rewritten. -/
theorem ControlOk.writes
    (control : ControlOk before) (target : Nat)
    (taskCount : before.taskCount ≤ after.taskCount)
    (idleState : after.idleTask.state = before.idleTask.state)
    (currentTask : after.currentTask = before.currentTask)
    (running : after.running = before.running)
    (pendSv : after.pendSv = before.pendSv)
    (live : before.halted = none)
    (inactive : (before.tasks target).state ≠ .running ∧ (before.tasks target).state ≠ .blocked)
    (written : (after.tasks target).state ≠ .running ∧ (after.tasks target).state ≠ .blocked)
    (others : ∀ index, index ≠ target → after.tasks index = before.tasks index) :
    ControlOk after where
  stopped stopped := by
    rw [running] at stopped
    obtain ⟨current, silent⟩ := control.stopped stopped
    refine ⟨currentTask.trans current, fun index => ?_⟩
    by_cases self : index = target
    · rw [self]
      exact written
    · rw [others index self]
      exact silent index
  started started := by
    rw [running] at started
    simpa only [currentTask] using control.started started
  idle current := by
    rw [currentTask] at current
    simpa only [idleState] using control.idle current
  user current present := by
    rw [currentTask] at present
    obtain ⟨current_lt, idle, state⟩ := control.user current present
    have other : current ≠ target := by
      rintro rfl
      rcases state with active | blocked
      · exact inactive.1 active
      · exact inactive.2 blocked.1
    rw [idleState, others current other]
    refine ⟨current_lt.trans_le taskCount, idle,
      state.imp_right fun blocked => ⟨blocked.1, Or.inl ?_⟩⟩
    exact pendSv.trans (blocked.2.resolve_right (by simp [live]))
  sole index active := by
    by_cases self : index = target
    · rw [self] at active
      exact absurd active written.1
    · rw [others index self] at active
      rw [currentTask]
      exact control.sole index active

/-- The scheduler starts on the task it selected. -/
theorem ControlOk.starts
    {first : Option Nat}
    (control : ControlOk before) (stopped : before.running = false)
    (started : StartedWith before first after) : ControlOk after where
  stopped running := by
    rw [started.running] at running
    exact absurd running (by decide)
  started _ := ⟨_, started.currentTask⟩
  idle present := by
    rw [started.currentTask] at present
    cases first with
    | none => exact started.idle
    | some best => simp [taskOrIdle] at present
  user current present := by
    rw [started.currentTask] at present
    cases first with
    | none => simp [taskOrIdle] at present
    | some best =>
        obtain rfl : best = current := by simpa [taskOrIdle] using present
        have selected := started.selected.1
        refine ⟨started.taskCount ▸ selected.2, started.idle, Or.inl ?_⟩
        rw [started.tasks, if_pos rfl]
  sole index running := by
    rw [started.tasks] at running
    split at running
    · rename_i first
      rw [started.currentTask, first]
      rfl
    · exact absurd running ((control.stopped stopped).2 index).1

end Preservation

end ForgeKernel
