import ForgeKernel.Property.PriorityInheritance

/-!
# No missed preemption

Whenever no switch is pending, the current task is running and no ready task has
a higher effective priority.  A release of a mutex for which nobody waits makes
no request; it needs none, because the recomputed priority of its owner is the
one it had.
-/

namespace ForgeKernel

open Machines Scans

/-- The current task is of maximal effective priority among the ready tasks and
itself. -/
def Kernel.Settled (kernel : Kernel) : Prop :=
  ∃ best, kernel.currentTask = some (taskOrIdle best) ∧
    IsBest kernel.priorityOf kernel.candidates best

/-- A due switch is pending.  A halted machine is inside a handler or behind a failed
assertion. -/
def Kernel.NoMissed (kernel : Kernel) : Prop :=
  kernel.running = true → kernel.halted = none → kernel.pendSv = false → kernel.Settled

namespace Kernel

variable {before after : Kernel}

/-- Neither the candidates nor their priorities change. -/
theorem Settled.of_same
    (settled : before.Settled)
    (currentTask : after.currentTask = before.currentTask)
    (candidates : after.candidates = before.candidates)
    (priorities : ∀ index ∈ before.candidates,
      after.priorityOf index = before.priorityOf index) : after.Settled := by
  obtain ⟨best, current, isBest⟩ := settled
  refine ⟨best, currentTask.trans current, ?_⟩
  rw [candidates]
  refine isBest.mono subset_rfl ?_ priorities
  rintro item rfl
  exact isBest.1

theorem candidates_congr
    (control : before.SameControl after)
    (states : ∀ index, (after.tasks index).state = (before.tasks index).state) :
    after.candidates = before.candidates := by
  ext index
  simp only [candidates, control.taskCount, control.currentTask, states]

theorem NoMissed.of_same
    (settled : before.NoMissed)
    (control : before.SameControl after)
    (pendSv : before.pendSv = true → after.pendSv = true)
    (live : before.halted = none)
    (states : ∀ index, (after.tasks index).state = (before.tasks index).state)
    (priorities : after.priorityOf = before.priorityOf) : after.NoMissed := by
  intro running _ quiet
  have quietBefore : before.pendSv = false := by
    rw [Bool.eq_false_iff]
    intro pending
    rw [pendSv pending] at quiet
    exact absurd quiet.symm Bool.false_ne_true
  exact (settled (control.running ▸ running) live quietBefore).of_same control.currentTask
    (candidates_congr control states) fun index _ => congrFun priorities index

/-- A request looks at the candidates and pends the switch if one is due. -/
theorem NoMissed.requested {kernel : Kernel} (control : ControlOk kernel.requested) :
    kernel.requested.NoMissed := by
  intro running _ quiet
  have selectable : kernel.Selectable := control.selectable running
  obtain ⟨selected, best, next⟩ := selectable.selectNext
  refine ⟨selected, ?_, best⟩
  change (kernel.pendSv || kernel.switchDue) = false at quiet
  change kernel.running = true at running
  simp only [Bool.or_eq_false_iff, switchDue, running, Bool.true_and, next,
    decide_eq_false_iff_not, not_not] at quiet
  exact quiet.2

end Kernel

/-! ## Steps -/

/-- The switch resumes a task of maximal effective priority. -/
theorem SwitchedTo.settled
    {before after : Kernel} {psp : Word} {next : Option Nat}
    (resumed : SwitchedTo before psp next after) : after.Settled := by
  refine ⟨next, resumed.currentTask, resumed.selected.mono ?_ ?_ ?_⟩
  · rintro index ⟨small, candidate⟩
    rw [resumed.taskCount] at small
    refine ⟨small, ?_⟩
    have chosen : next = some index → before.candidates index := by
      rintro rfl
      exact resumed.selected.1
    rcases candidate with ready | ⟨current, _⟩
    · rw [resumed.tasks] at ready
      dsimp only at ready
      split at ready
      · exact absurd ready (by decide)
      · split at ready
        · rename_i demoted
          exact Or.inr demoted
        · exact Or.inl ready
    · rw [resumed.currentTask] at current
      refine (chosen ?_).2
      cases next <;> simp_all [taskOrIdle]
  · rintro index rfl
    refine ⟨resumed.taskCount ▸ resumed.selected.1.1, Or.inr ⟨resumed.currentTask, ?_⟩⟩
    rw [resumed.tasks]
    exact if_pos rfl
  · intro index _
    simp only [Kernel.priorityOf, resumed.tasks]

/-- The scheduler starts with a task of maximal priority. -/
theorem StartedWith.settled
    {before after : Kernel} {first : Option Nat}
    (started : StartedWith before first after) : after.Settled := by
  refine ⟨first, started.currentTask, started.selected.mono ?_ ?_ ?_⟩
  · rintro index ⟨small, candidate⟩
    rw [started.taskCount] at small
    have chosen : first = some index → before.eligibleTasks (fun task => task.state = .ready)
        index := by
      rintro rfl
      exact started.selected.1
    rcases candidate with ready | ⟨current, _⟩
    · rw [started.tasks] at ready
      split at ready
      · exact absurd ready (by simp)
      · exact ⟨by simpa using ready, small⟩
    · rw [started.currentTask] at current
      apply chosen
      cases first <;> simp_all [taskOrIdle]
  · rintro index rfl
    refine ⟨started.taskCount ▸ started.selected.1.2, Or.inr ⟨started.currentTask, ?_⟩⟩
    rw [started.tasks, if_pos rfl]
  · intro index _
    simp only [Kernel.priorityOf, started.tasks]
    split <;> rfl

/-- Releasing a mutex for which nobody waits leaves every priority as it was. -/
theorem InheritanceOk.released_priorityOf
    {kernel : Kernel} {index : Nat} (ok : InheritanceOk kernel)
    (nobody : ∀ waiter < kernel.taskCount,
      Task.waitsOn .mutex (.mutex index) (kernel.tasks waiter) = false) (current : Nat) :
    ((kernel.setMutex index { kernel.mutexes index with owner := none }).recomputed
      current).priorityOf = kernel.priorityOf := by
  have unwanted := ok.mutexes.unwanted_of_nobody nobody
  have mutexes : MutexOk (kernel.setMutex index { kernel.mutexes index with owner := none }) :=
    ok.mutexes.setMutex unwanted fun owner same => absurd same (by simp)
  have consistent : PriorityOk (kernel.setMutex index
      { kernel.mutexes index with owner := none }) := by
    unfold PriorityOk
    rw [mutexUpstreamOwner_setMutex unwanted]
    exact ok.priorities
  exact Inheritance.recompute_of_consistent mutexes.effectivePriority_isEffective consistent _ _

/-! ## Runs that create every task before the start -/

/-- Actions that call `fr_task_create`. -/
def Action.createsTask : Action → Bool
  | .invoke (.taskCreate _ _) => true
  | _ => false

/-- All tasks are created before the scheduler starts. -/
def createsBeforeStart (system : System) (action : Action) : Prop :=
  action.createsTask = true → system.kernel.running = false

instance createsBeforeStartDecidable (system : System) (action : Action) :
    Decidable (createsBeforeStart system action) :=
  inferInstanceAs (Decidable (action.createsTask = true → system.kernel.running = false))

/-- No task is inside `fr_task_create`. -/
def System.NoCreation (system : System) : Prop :=
  ∀ index outTask config point,
    system.frames (.task index) ≠ .inCall (.taskCreate outTask config) point

theorem System.NoCreation.step
    {cfg : Config} {system after : System} {action : Action} {events : List Event}
    (absent : system.NoCreation) (core : Core system)
    (allowed : createsBeforeStart system action)
    (step : system.step cfg action = some (after, events)) : after.NoCreation := by
  intro index outTask config point
  cases System.stepped step with
  | sysTick => exact absent index outTask config point
  | pendSv => exact absent index outTask config point
  | @invoke thread call active user =>
      by_cases own : thread = .task index
      · subst own
        simp only [System.setFrame, Function.update_self]
        intro same
        obtain ⟨rfl, _⟩ := Frame.inCall.inj same
        have stopped := allowed rfl
        rw [(core.active_current active).running] at stopped
        exact absurd stopped.symm Bool.false_ne_true
      · simp only [System.setFrame, Function.update_of_ne (Ne.symm own)]
        exact absent index outTask config point
  | @advance thread call position result active inCall stepped =>
      by_cases own : thread = .task index
      · subst own
        simp only [System.setFrame, Function.update_self]
        intro same
        cases outcome : result.outcome with
        | goto next =>
            rw [outcome] at same
            obtain ⟨rfl, _⟩ := Frame.inCall.inj same
            exact absent index outTask config position inCall
        | reply value =>
            rw [outcome] at same
            exact absurd same (by simp [Outcome.frame])
      · simp only [System.setFrame, Function.update_of_ne (Ne.symm own)]
        exact absent index outTask config point
  | user => exact absent index outTask config point

/-- One step inside a call. -/
theorem Kernel.NoMissed.advance
    {cfg : Config} {system : System} {thread : Thread} {call : Call} {point : Point}
    {result : StepResult}
    (settled : system.kernel.NoMissed) (core : Core system)
    (inheritance : InheritanceOk system.kernel) (absent : system.NoCreation)
    (active : system.activeThread = some thread)
    (inCall : system.frames thread = .inCall call point)
    (stepped : call.step cfg system.cpu system.kernel system.memory thread.slot point =
      some result)
    (control : ControlOk result.kernel) :
    result.kernel.NoMissed := by
  have live := (core.active_cases active).1
  obtain ⟨effect, _, _, _⟩ := Call.step_advance stepped
  generalize result.outcome = outcome at effect
  generalize result.kernel = after at *
  cases effect with
  | passes same pendSv tasks =>
      exact settled.of_same same pendSv live (fun index => by rw [tasks])
        (Kernel.priorityOf_congr tasks)
  | @resets current _ _ same =>
      subst same
      refine settled.of_same ⟨rfl, rfl, rfl, rfl, rfl⟩ id live (fun index => ?_)
        (Kernel.setTask_priorityOf _ rfl)
      by_cases own : index = current
      · subst own
        rw [Kernel.setTask_tasks_self]
        rfl
      · rw [Kernel.setTask_tasks_of_ne _ _ own]
  | wakes _ _ woken notified =>
      cases notified with
      | requests same =>
          subst same
          exact .requested control
      | nobody tasks =>
          exact settled.of_same woken.toSameControl woken.pendSv live
            (fun index => by rw [tasks]) (Kernel.priorityOf_congr tasks)
      | released _ unwanted same =>
          subst same
          exact settled.of_same woken.toSameControl woken.pendSv live (fun _ => rfl)
            (inheritance.released_priorityOf unwanted _)
  | waits _ _ _ _ blocked =>
      subst blocked
      intro _ _ quiet
      exact absurd quiet (by simp [Kernel.withPriorities, Kernel.blockTask])
  | reserves _ _ reserved =>
      obtain ⟨_, rfl⟩ := taskCreateReserve_some reserved
      intro running _ quiet
      refine (settled running live quiet).of_same rfl ?_ ?_
      · -- The new slot is in state `CREATED`, which no switch selects.
        ext index
        by_cases new : index = system.kernel.taskCount
        · subst new
          simp [Kernel.candidates, Kernel.setTask, Task.reserve]
        · have bound : index < system.kernel.taskCount + 1 ↔
              index < system.kernel.taskCount := by omega
          change (index < system.kernel.taskCount + 1 ∧
            (((system.kernel.setTask _ _).tasks index).state = .ready ∨
              (system.kernel.currentTask = some (.user index) ∧
                ((system.kernel.setTask _ _).tasks index).state = .running))) ↔ _
          rw [Kernel.setTask_tasks_of_ne _ _ new, bound]
          exact Iff.rfl
      · rintro index ⟨small, _⟩
        change ((system.kernel.setTask _ _).tasks index).priority = _
        rw [Kernel.setTask_tasks_of_ne _ _ small.ne]
        rfl
  | @builds index _ built =>
      obtain ⟨same, pendSv, tasks⟩ := taskCreateBuild_facts cfg system.kernel index
      rw [← built] at same pendSv tasks
      exact settled.of_same same (fun pending => pendSv.trans pending) live
        (fun position => by rw [tasks]) (Kernel.priorityOf_congr tasks)
  | @publishes index initialSp _ started published =>
      -- Only boot code gets here, before the start.
      have holds : (Frame.inCall call point).reserves = some index := by
        rw [started]
        rfl
      obtain ⟨outTask, config, rfl⟩ := Call.step_creating holds stepped
      obtain ⟨_, ⟨_, stopped⟩ | ⟨current, rfl, _, _⟩⟩ := core.active_cases active
      · intro running
        rw [published, (taskCreatePublish_facts system.kernel index initialSp).1.running,
          stopped] at running
        exact absurd running Bool.false_ne_true
      · exact absurd inCall (absent current outTask config point)
  | starts _ started =>
      have outcome := schedulerStart_outcome cfg system.cpu system.kernel
      rw [started] at outcome
      cases outcome with
      | stopped _ _ _ _ _ running =>
          intro started
          rw [running] at started
          exact absurd started Bool.false_ne_true
      | started launched => exact fun _ _ _ => launched.settled

theorem Kernel.NoMissed.step
    {cfg : Config} {system after : System} {action : Action} {events : List Event}
    (settled : system.kernel.NoMissed) (core : Core system)
    (inheritance : InheritanceOk system.kernel) (absent : system.NoCreation)
    (step : system.step cfg action = some (after, events)) : after.kernel.NoMissed := by
  have control := (core.step step).control
  cases System.stepped step with
  | sysTick =>
      cases running : system.kernel.running with
      | false =>
          intro started
          rw [show (sysTickHandler system.kernel).running = system.kernel.running by
            rw [sysTickHandler_stopped running]; rfl, running] at started
          exact absurd started Bool.false_ne_true
      | true =>
          change ControlOk (sysTickHandler system.kernel) at control
          change (sysTickHandler system.kernel).NoMissed
          rw [sysTickHandler_running running] at control ⊢
          exact .requested control
  | @pendSv psp live =>
      rcases pendSvHandler_outcome psp core.control live with stopped | resumed
      · intro _ running
        have halted := stopped.halted
        rw [show (pendSvHandler system.kernel psp).halted = none from running] at halted
        exact absurd halted (by simp)
      · exact fun _ _ _ => resumed.settled
  | invoke => exact settled
  | advance active inCall stepped =>
      exact settled.advance core inheritance absent active inCall stepped control
  | user => exact settled

/-- In every state that such a run reaches, a due switch is pending. -/
theorem Kernel.NoMissed.of_run
    {cfg : Config} {events : List Event} {system : System}
    (run : (forge cfg).Run createsBeforeStart events system) : system.kernel.NoMissed :=
  (run.stateInvariant (motive := fun system => Core system ∧ InheritanceOk system.kernel ∧
      system.NoCreation ∧ system.kernel.NoMissed)
    ⟨Core.initial, InheritanceOk.initial, fun _ _ _ _ => by simp [forge, System.boot],
      fun running => absurd running (by simp [forge, System.boot, Kernel.reset])⟩
    fun _ _ _ _ held allowed stepped => ⟨held.1.step stepped, held.2.1.step held.1 stepped,
      held.2.2.1.step held.1 allowed stepped,
      held.2.2.2.step held.1 held.2.1 held.2.2.1 stepped⟩).2.2.2

/-- What a settled kernel with no switch pending runs. -/
theorem Kernel.Settled.current_cases
    {kernel : Kernel} (settled : kernel.Settled) (control : ControlOk kernel)
    (live : kernel.halted = none) (quiet : kernel.pendSv = false) :
    (kernel.currentTask = some .idle ∧ kernel.idleTask.state = .running ∧
      ∀ task < kernel.taskCount, (kernel.tasks task).state ≠ .ready) ∨
    ∃ current, kernel.currentTask = some (.user current) ∧
      (kernel.tasks current).state = .running ∧
      ∀ task < kernel.taskCount, (kernel.tasks task).state = .ready →
        (kernel.tasks task).priority ≤ (kernel.tasks current).priority := by
  obtain ⟨best, present, isBest⟩ := settled
  cases best with
  | none =>
      refine Or.inl ⟨present, control.idle present, fun task registered ready => ?_⟩
      have member : task ∈ kernel.candidates := ⟨registered, Or.inl ready⟩
      rw [show kernel.candidates = ∅ from isBest] at member
      exact Set.notMem_empty task member
  | some current =>
      refine Or.inr ⟨current, present, ?_, fun task registered ready => ?_⟩
      · obtain ⟨_, _, state | ⟨_, pending⟩⟩ := control.user current present
        · exact state
        · simp [quiet, live] at pending
      · exact isBest.2 task ⟨registered, Or.inl ready⟩

/-- Without a pending switch the current task runs, no ready task has a higher
effective priority, and idle runs only when no task is ready. -/
theorem no_missed_preemption
    {cfg : Config} {events : List Event} {system : System}
    (run : (forge cfg).Run createsBeforeStart events system)
    (started : system.kernel.running = true)
    (live : system.kernel.halted = none)
    (quiet : system.kernel.pendSv = false) :
    (∃ current, system.kernel.currentTask = some current ∧
      (system.kernel.taskAt current).state = .running) ∧
    (∀ current, system.kernel.currentTask = some (.user current) →
      ∀ task < system.kernel.taskCount, (system.kernel.tasks task).state = .ready →
        (system.kernel.tasks task).priority ≤ (system.kernel.tasks current).priority) ∧
    (system.kernel.currentTask = some .idle →
      ∀ task < system.kernel.taskCount, (system.kernel.tasks task).state ≠ .ready) := by
  have settled := Kernel.NoMissed.of_run run started live quiet
  rcases settled.current_cases (Core.of_run run).control live quiet
    with ⟨present, running, nobody⟩ | ⟨current, present, running, highest⟩
  · refine ⟨⟨.idle, present, running⟩, fun current user => ?_, fun _ => nobody⟩
    exact absurd (present.symm.trans user) (by simp)
  · refine ⟨⟨.user current, present, running⟩, fun other user => ?_, fun idle => ?_⟩
    · obtain rfl : current = other := by simpa using present.symm.trans user
      exact highest
    · exact absurd (present.symm.trans idle) (by simp)

/-- A ready task of priority 3 does not preempt a boosted task of priority 1. -/
theorem inversion_no_preemption :
    ∃ events system, (forge Config.default).Run createsBeforeStart events system ∧
      system.kernel.currentTask = some (.user 0) ∧
      (system.kernel.tasks 1).state = .ready ∧
      (system.kernel.tasks 1).priority ≤ (system.kernel.tasks 0).priority := by
  obtain ⟨events, system, run, checked⟩ :=
    Machine.RunFrom.exists_of_execFrom (forge Config.default) createsBeforeStart System.boot
      inversionProgram (fun _ system => decide (system.kernel.running = true ∧
        system.kernel.halted = none ∧ system.kernel.pendSv = false ∧
        system.kernel.currentTask = some (.user 0) ∧ 1 < system.kernel.taskCount ∧
        (system.kernel.tasks 1).state = .ready))
      (by decide +kernel)
  rw [decide_eq_true_eq] at checked
  obtain ⟨started, live, quiet, current, registered, ready⟩ := checked
  exact ⟨events, system, run, current, ready,
    (no_missed_preemption run started live quiet).2.1 0 current 1 registered ready⟩

/-! ## Bounded priority inversion -/

/-- `waiter` is blocked on a mutex that `owner` owns. -/
def Kernel.BlockedBehind (kernel : Kernel) (waiter owner : Nat) : Prop :=
  ∃ index, (kernel.tasks waiter).state = .blocked ∧
    (kernel.tasks waiter).waitReason = .mutex ∧
    (kernel.tasks waiter).waitObject = some (.mutex index) ∧
    (kernel.mutexes index).owner = some owner

theorem MutexOk.blockedBehind_eq {kernel : Kernel} (ok : MutexOk kernel) :
    kernel.BlockedBehind = Inheritance.Edge (mutexUpstreamOwner kernel) := by
  funext waiter owner
  apply propext
  rw [Inheritance.Edge, ok.upstream_iff]
  refine exists_congr fun index => ?_
  rw [Task.mutexWait_eq_some]
  tauto

theorem MutexOk.registered_of_chain
    {kernel : Kernel} (ok : MutexOk kernel) {waiter owner : Nat}
    (chain : Relation.TransGen kernel.BlockedBehind waiter owner) :
    owner < kernel.taskCount := by
  rw [ok.blockedBehind_eq] at chain
  obtain ⟨_, _, edge⟩ := Relation.TransGen.tail'_iff.mp chain
  exact (ok.upstream_lt edge).2

/-- While the chain of a blocked task ends in a task that can run, no task of lower
effective priority runs. -/
theorem bounded_priority_inversion
    {cfg : Config} {events : List Event} {system : System}
    (run : (forge cfg).Run createsBeforeStart events system)
    (live : system.kernel.halted = none)
    (quiet : system.kernel.pendSv = false)
    {high last : Nat}
    (chain : Relation.TransGen system.kernel.BlockedBehind high last)
    (runnable : (system.kernel.tasks last).state = .ready ∨
      (system.kernel.tasks last).state = .running) :
    (system.kernel.tasks high).priority ≤ (system.kernel.tasks last).priority ∧
    (∃ current, system.kernel.currentTask = some (.user current) ∧
      (system.kernel.tasks current).state = .running ∧
      (system.kernel.tasks high).priority ≤ (system.kernel.tasks current).priority) ∧
    (∀ task, (system.kernel.tasks task).state = .running →
      (system.kernel.tasks high).priority ≤ (system.kernel.tasks task).priority) ∧
    system.kernel.idleTask.state ≠ .running := by
  have control := (Core.of_run run).control
  have inheritance := InheritanceOk.of_run run
  have registered := inheritance.mutexes.registered_of_chain chain
  have boosted : (system.kernel.tasks high).priority ≤ (system.kernel.tasks last).priority := by
    rw [inheritance.mutexes.blockedBehind_eq] at chain
    exact inheritance.priorities.bounded.le_of_reaches chain.to_reflTransGen
  have started : system.kernel.running = true := by
    by_contra stopped
    have inactive := (control.stopped (Bool.not_eq_true _ ▸ stopped)).2
    obtain ⟨_, ⟨_, blocked, _⟩, _⟩ := Relation.TransGen.head'_iff.mp chain
    exact (inactive high).2 blocked
  have settled := Kernel.NoMissed.of_run run started live quiet
  rcases settled.current_cases control live quiet
    with ⟨present, _, nobody⟩ | ⟨current, present, running, highest⟩
  · -- Idle cannot be current: the last task of the chain is a candidate.
    rcases runnable with ready | running
    · exact absurd ready (nobody last registered)
    · exact absurd (present.symm.trans (control.sole last running)) (by simp)
  · have only : ∀ task, (system.kernel.tasks task).state = .running → task = current := by
      intro task state
      simpa using (control.sole task state).symm.trans present
    have above : (system.kernel.tasks high).priority ≤
        (system.kernel.tasks current).priority := by
      rcases runnable with ready | running
      · exact boosted.trans (highest last registered ready)
      · rwa [only last running] at boosted
    refine ⟨boosted, ⟨current, present, running, above⟩, fun task state => ?_, ?_⟩
    · rw [only task state]
      exact above
    · simp [(control.user current present).2.1]

/-- While the task of priority 5 is blocked, its owner runs and not the ready task of
priority 3. -/
theorem inversion_is_bounded :
    ∃ events system, (forge Config.default).Run createsBeforeStart events system ∧
      (system.kernel.tasks 1).state = .ready ∧ (system.kernel.tasks 2).priority = 5 ∧
      ∀ task, (system.kernel.tasks task).state = .running →
        (system.kernel.tasks 2).priority ≤ (system.kernel.tasks task).priority := by
  obtain ⟨events, system, run, checked⟩ :=
    Machine.RunFrom.exists_of_execFrom (forge Config.default) createsBeforeStart System.boot
      inversionProgram (fun _ system => decide (system.kernel.halted = none ∧
        system.kernel.pendSv = false ∧ (system.kernel.tasks 1).state = .ready ∧
        (system.kernel.tasks 2).priority = 5 ∧ (system.kernel.tasks 0).state = .running ∧
        (system.kernel.tasks 2).state = .blocked ∧
        (system.kernel.tasks 2).waitReason = .mutex ∧
        (system.kernel.tasks 2).waitObject = some (.mutex 0) ∧
        (system.kernel.mutexes 0).owner = some 0))
      (by decide +kernel)
  rw [decide_eq_true_eq] at checked
  obtain ⟨live, quiet, ready, priority, running, waits⟩ := checked
  exact ⟨events, system, run, ready, priority,
    (bounded_priority_inversion run live quiet (.single ⟨0, waits⟩) (Or.inr running)).2.2.1⟩

end ForgeKernel
