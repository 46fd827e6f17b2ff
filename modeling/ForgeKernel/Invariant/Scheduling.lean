import ForgeKernel.Invariant.Selection
import ForgeKernel.Model.Mutex

/-!
# What the scheduler primitives do

One description per primitive: a request only sets the pending bit, blocking and
unblocking rewrite one control block.  Later modules use these descriptions and never
unfold the primitives.
-/

namespace ForgeKernel

open Scans

namespace Kernel

@[simp] theorem setTask_tasks_self (kernel : Kernel) (index : Nat) (task : Task) :
    (kernel.setTask index task).tasks index = task :=
  Function.update_self ..

theorem setTask_tasks_of_ne
    (kernel : Kernel) {index other : Nat} (task : Task) (different : other ≠ index) :
    (kernel.setTask index task).tasks other = kernel.tasks other :=
  Function.update_of_ne different ..

end Kernel

/-! ## Requests -/

/-- The selection differs from the current task. -/
def Kernel.switchDue (kernel : Kernel) : Bool :=
  kernel.running &&
    match schedulerSelectNext kernel kernel.currentTask with
    | none => false
    | some next => decide (kernel.currentTask ≠ some next)

/-- Note that a switch is due. -/
def Kernel.requested (kernel : Kernel) : Kernel :=
  { kernel with pendSv := kernel.pendSv || kernel.switchDue }

/-- The request sets PendSV exactly when a READY task has a higher priority than the current
one. -/
theorem schedulerRequestIfNeededLocked_eq (kernel : Kernel) :
    schedulerRequestIfNeededLocked kernel = kernel.requested := by
  have decided : schedulerRequestIfNeededLocked kernel =
      if kernel.switchDue then kernel.portRequestContextSwitch else kernel := by
    unfold schedulerRequestIfNeededLocked Kernel.switchDue
    cases kernel.running with
    | false => rfl
    | true =>
        cases schedulerSelectNext kernel kernel.currentTask with
        | none => rfl
        | some next => by_cases same : kernel.currentTask = some next <;> simp [same]
  rw [decided, Kernel.requested]
  cases kernel.switchDue with
  | false => simp only [Bool.or_false, Bool.false_eq_true, if_false]
  | true => simp only [Bool.or_true, if_true, Kernel.portRequestContextSwitch]

/-! ## Waiting and waking -/

namespace Kernel

/-- State that a woken task enters. -/
def wakeState (kernel : Kernel) (index : Nat) : TaskState :=
  if kernel.currentTask = some (.user index) then .running else .ready

/-- A task has ended its wait with `result`. -/
def wakeTask (kernel : Kernel) (index : Nat) (result : WaitResult) (trace : Trace) : Kernel :=
  { kernel with
    tasks := Function.update kernel.tasks index
      ((kernel.tasks index).endWait result (kernel.wakeState index))
    trace := trace }

/-- A task has begun to wait and a switch is pending. -/
def blockTask
    (kernel : Kernel) (index : Nat) (reason : WaitReason) (object : Option ObjectRef)
    (timeoutTicks : Word) (trace : Trace) : Kernel :=
  { kernel with
    tasks := Function.update kernel.tasks index
      ((kernel.tasks index).beginWait reason object timeoutTicks kernel.tickCount)
    trace := trace
    pendSv := true }

/-- Waking a task changes no priority. -/
@[simp] theorem wakeTask_priorityOf
    (kernel : Kernel) (index : Nat) (result : WaitResult) (trace : Trace) :
    (kernel.wakeTask index result trace).priorityOf = kernel.priorityOf := by
  funext other
  by_cases same : other = index
  · subst same
    simp [priorityOf, wakeTask, Task.endWait]
  · simp [priorityOf, wakeTask, same]

/-- Neither does blocking one. -/
@[simp] theorem blockTask_priorityOf
    (kernel : Kernel) (index : Nat) (reason : WaitReason) (object : Option ObjectRef)
    (timeoutTicks : Word) (trace : Trace) :
    (kernel.blockTask index reason object timeoutTicks trace).priorityOf =
      kernel.priorityOf := by
  funext other
  by_cases same : other = index
  · subst same
    simp [priorityOf, blockTask, Task.beginWait]
  · simp [priorityOf, blockTask, same]

@[simp] theorem requested_priorityOf (kernel : Kernel) :
    kernel.requested.priorityOf = kernel.priorityOf := rfl

theorem priorityOf_congr {first second : Kernel} (tasks : first.tasks = second.tasks) :
    first.priorityOf = second.priorityOf := by
  funext index
  simp only [priorityOf, tasks]

/-- A store that keeps the priority of its task changes no priority. -/
theorem setTask_priorityOf
    (kernel : Kernel) {index : Nat} {task : Task}
    (priority : task.priority = (kernel.tasks index).priority) :
    (kernel.setTask index task).priorityOf = kernel.priorityOf := by
  funext other
  by_cases same : other = index
  · subst same
    simp [priorityOf, priority]
  · simp only [priorityOf, setTask_tasks_of_ne _ _ same]

/-- A task that is woken becomes RUNNING, when it is still current, or READY. -/
theorem wakeState_eq (kernel : Kernel) (index : Nat) :
    kernel.wakeState index = .running ∨ kernel.wakeState index = .ready := by
  unfold wakeState
  split
  · exact Or.inl rfl
  · exact Or.inr rfl

theorem wakeState_ne_blocked (kernel : Kernel) (index : Nat) :
    kernel.wakeState index ≠ .blocked := by
  rcases kernel.wakeState_eq index with state | state <;> simp [state]

end Kernel

/-- Unblocking a blocked task succeeds. -/
theorem schedulerUnblockTaskLocked_eq
    (kernel : Kernel) (index : Nat) (result : WaitResult)
    (blocked : (kernel.tasks index).state = .blocked)
    (reason : (kernel.tasks index).waitReason ≠ .none)
    (final : result ≠ .pending) :
    ∃ trace, schedulerUnblockTaskLocked kernel index result =
      (kernel.wakeTask index result trace, true) := by
  have accepted : ¬((kernel.tasks index).state ≠ .blocked ∨
      (kernel.tasks index).waitReason = .none ∨
      (result ≠ .timeout ∧ result ≠ .signaled)) := by
    cases result <;> simp_all
  have states : (if kernel.currentTask = some (.user index) then TaskState.running
      else .ready) = .running ∨
      (if kernel.currentTask = some (.user index) then TaskState.running
        else .ready) = .ready := kernel.wakeState_eq index
  simp only [schedulerUnblockTaskLocked, if_neg accepted]
  by_cases timeout : result = .timeout
  · simp only [if_pos timeout, Kernel.record, Task.endWait]
    rw [if_pos ⟨trivial, trivial, trivial, trivial, states⟩]
    exact ⟨_, rfl⟩
  · simp only [if_neg timeout, Task.endWait]
    rw [if_pos ⟨trivial, trivial, trivial, trivial, states⟩]
    exact ⟨_, rfl⟩

/-- The arguments that `fr_scheduler_block_current_locked` accepts. -/
def blockAccepted (reason : WaitReason) (object : Option ObjectRef) (ticks : Word) : Prop :=
  ¬((reason ≠ .sleep ∧ reason.usesObject = false) ∨
    (reason = .sleep ∧ object ≠ none) ∨
    (reason.usesObject = true ∧ object = none) ∨
    ticks = 0 ∨
    (waitMaxFiniteTicks < ticks ∧ ticks ≠ waitForever))

/-- The scheduler accepts no block without a reason. -/
theorem blockAccepted.reason_ne
    {reason : WaitReason} {object : Option ObjectRef} {ticks : Word}
    (accepted : blockAccepted reason object ticks) : reason ≠ .none := by
  rintro rfl
  exact accepted (Or.inl ⟨by decide, rfl⟩)

/-- Blocking the current task either changes nothing or puts the running current
task to wait. -/
theorem schedulerBlockCurrentLocked_cases
    (kernel : Kernel) (reason : WaitReason) (object : Option ObjectRef) (ticks : Word) :
    schedulerBlockCurrentLocked kernel reason object ticks = (kernel, false) ∨
      ∃ current trace, kernel.currentTask = some (.user current) ∧ kernel.running = true ∧
        (kernel.tasks current).state = .running ∧ blockAccepted reason object ticks ∧
        schedulerBlockCurrentLocked kernel reason object ticks =
          (kernel.blockTask current reason object ticks trace, true) := by
  unfold schedulerBlockCurrentLocked
  split
  · exact Or.inl rfl
  · rename_i accepted
    split
    · rename_i current present
      split
      · exact Or.inl rfl
      · rename_i running
        simp only [not_or, Bool.not_eq_false, not_not] at running
        have named : reason ≠ .none := blockAccepted.reason_ne accepted
        refine Or.inr ⟨current, (kernel.record .taskBlock (kernel.tasks current).id
          reason.code ticks).trace, present, running.1, running.2, accepted, ?_⟩
        simp only [Task.beginWait]
        rw [if_pos ⟨named, trivial, trivial⟩]
        rfl
    · exact Or.inl rfl

end ForgeKernel
