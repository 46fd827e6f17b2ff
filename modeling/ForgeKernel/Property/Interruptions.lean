import ForgeKernel.Property.MutexLedger
import ForgeKernel.Property.PriorityInheritance
import ForgeKernel.Property.Registration

/-!
# Interruptions

The tasks of some level of priority are interrupted while somebody of a higher base
priority is awake or waits, directly or through other owners, for a task that is.  Only
a switch ends an interruption: what a call or a tick takes away from a chain of waits
wakes the task at the cut.
-/

namespace ForgeKernel

open Inheritance Machines

/-- The task is READY or the current one. -/
def Kernel.Awake (kernel : Kernel) (task : Nat) : Prop :=
  (kernel.tasks task).state = .ready ∨ kernel.currentTask = some (.user task)

/-- Somebody of a base priority above `priority` leads to a task that is awake. -/
def Kernel.Interrupted (kernel : Kernel) (priority : Nat) : Prop :=
  ∃ donor task, priority < (kernel.tasks donor).basePriority ∧
    Relation.ReflTransGen kernel.WaitsFor donor task ∧ kernel.Awake task

theorem Core.registered_of_ready
    {system : System} (core : Core system) {task : Nat}
    (ready : (system.kernel.tasks task).state = .ready) : task < system.kernel.taskCount := by
  by_contra beyond
  obtain ⟨⟨_, zero⟩, _⟩ := core.unregistered task (Nat.le_of_not_lt beyond)
  rw [zero] at ready
  cases ready

theorem Core.registered_of_awake
    {system : System} (core : Core system) {task : Nat} (awake : system.kernel.Awake task) :
    task < system.kernel.taskCount :=
  awake.elim core.registered_of_ready core.current_lt

/-- A published task that is not blocked is awake. -/
theorem Core.awake_of_published
    {system : System} (core : Core system) {task : Nat}
    (published : task ∈ system.kernel.published)
    (free : (system.kernel.tasks task).state ≠ .blocked) : system.kernel.Awake task := by
  obtain ⟨registered, visible⟩ := published
  obtain ⟨valid, unsuspended⟩ := core.states task registered
  cases state : (system.kernel.tasks task).state with
  | ready => exact Or.inl state
  | running => exact Or.inr (core.control.sole task state)
  | created => exact absurd state visible
  | blocked => exact absurd state free
  | suspended => exact absurd state unsuspended
  | invalid => exact absurd state valid

theorem Publishes.published_subset
    {before after : Kernel} {slots : List Nat} (publishes : Publishes before after slots) :
    before.published ⊆ after.published := by
  cases publishes with
  | nothing same => exact same.ge
  | @slot index new grown =>
      rw [grown]
      exact Set.subset_insert index before.published

/-! ## Effective priorities -/

namespace InheritanceOk

variable {kernel : Kernel} {priority : Nat}

/-- An interruption raises a task that is awake. -/
theorem raised_of_interrupted (ok : InheritanceOk kernel)
    (interrupted : kernel.Interrupted priority) :
    ∃ task, kernel.Awake task ∧ priority < (kernel.tasks task).priority := by
  obtain ⟨donor, task, above, reaches, awake⟩ := interrupted
  rw [ok.mutexes.waitsFor_eq] at reaches
  have bounded := ok.priorities.bounded
  exact ⟨task, awake, above.trans_le ((bounded.base_le donor).trans
    (bounded.le_of_reaches reaches))⟩

/-- A raised task that is not blocked is raised by an interruption. -/
theorem interrupted_of_raised (ok : InheritanceOk kernel) {task : Nat}
    (awake : kernel.Awake task) (free : (kernel.tasks task).state ≠ .blocked)
    (raised : priority < (kernel.tasks task).priority) : kernel.Interrupted priority := by
  have idle : mutexUpstreamOwner kernel task = none := by
    rw [mutexUpstreamOwner_eq, Task.mutexWait_of_ne_blocked free, Option.bind_none]
  obtain ⟨donor, reaches, base⟩ := Consistent.exists_donor_of_idle
    (Finset.range kernel.taskCount) ok.priorities
    (fun waiter owner edge => Finset.mem_range.mpr (ok.mutexes.upstream_lt edge).1) idle
  refine ⟨donor, task, ?_, ok.mutexes.waitsFor_eq ▸ reaches, awake⟩
  exact raised.trans_eq base.symm

end InheritanceOk

/-! ## Steps -/

section Steps

variable {cfg : Config} {system after : System} {action : Action} {past emitted : List Event}

theorem Core.published_of_awake
    (core : Core system) {task : Nat} (awake : system.kernel.Awake task) :
    task ∈ system.kernel.published := by
  refine ⟨core.registered_of_awake awake, ?_⟩
  rcases awake with ready | present
  · rw [ready]
    decide
  · rcases (core.control.user task present).2.2 with running | ⟨blocked, _⟩
    · rw [running]
      decide
    · rw [blocked]
      decide

/-- Without a switch a task that is awake stays awake. -/
theorem Core.awake_step
    (core : Core system) (step : system.step cfg action = some (after, emitted))
    (noSwitch : ∀ psp, action ≠ .pendSv psp) {task : Nat} (awake : system.kernel.Awake task) :
    after.kernel.Awake task := by
  rcases awake with ready | present
  · have published := core.published_of_awake (Or.inl ready)
    refine (core.step step).awake_of_published
      ((core.step_publishes step).published_subset published) fun blocked => ?_
    cases core.taskStep step task with
    | invokes active | advances active =>
        have running := (core.active_current active).state
        rw [ready] at running
        cases running
    | watches _ _ move =>
        cases move with
        | stays same =>
            have before := same.mp blocked
            rw [ready] at before
            cases before
        | fresh _ free | expires _ _ free | signaled _ _ _ free => exact free blocked
  · have running := core.running_of_current present
    exact Or.inr ((core.step_control running step noSwitch).1.trans present)

/-- A new owner of a mutex is awake: it has just been granted the mutex or is the caller. -/
theorem owner_step
    (run : Run cfg past system) (step : system.step cfg action = some (after, emitted))
    (noSwitch : ∀ psp, action ≠ .pendSv psp) {mutex owner heir : Nat}
    (held : (system.kernel.mutexes mutex).owner = some owner)
    (inherited : (after.kernel.mutexes mutex).owner = some heir) :
    heir = owner ∨ after.kernel.Awake heir := by
  have core := Core.of_run run
  have later := core.step step
  rcases ((LedgerOk.of_run mutex (run.step step)).owner_iff heir).mp inherited with
    holding | ⟨ticks, flying⟩
  · by_cases returned : ∃ call reply, Event.returned (.task heir) call reply ∈ emitted
    · obtain ⟨call, reply, present⟩ := returned
      obtain ⟨_, _, active, _⟩ := (System.stepped step).returned present
      exact Or.inr (core.awake_step step noSwitch
        (Or.inr (core.active_current active).currentTask))
    · rw [holds_append, foldl_ledger_of_other fun call reply present =>
        returned ⟨call, reply, present⟩] at holding
      have same := ((LedgerOk.of_run mutex run).owner_iff heir).mpr (Or.inl holding)
      exact Or.inl (Option.some.inj (same.symm.trans held))
  · refine Or.inr (later.awake_of_published ⟨?_, fun created => ?_⟩ fun blocked => ?_)
    · exact (InheritanceOk.of_run (run.step step)).mutexes.owners mutex heir inherited
    · rw [System.view, later.fresh heir created] at flying
      cases flying
    · obtain ⟨call, waiting, _⟩ := (later.slots heir).view_of_blocked blocked
      cases waiting.symm.trans flying

/-- Without a switch a task that waits for an owner goes on waiting for it, or is awake, or
waits for an heir that is awake. -/
theorem waitsFor_step
    (run : Run cfg past system) (step : system.step cfg action = some (after, emitted))
    (noSwitch : ∀ psp, action ≠ .pendSv psp) {waiter owner : Nat}
    (waits : system.kernel.WaitsFor waiter owner) :
    after.kernel.Awake waiter ∨ ∃ heir, after.kernel.WaitsFor waiter heir ∧
      (heir = owner ∨ after.kernel.Awake heir) := by
  have core := Core.of_run run
  have later := core.step step
  obtain ⟨mutex, blocked, reason, pending, object, held⟩ := waits
  have published := (core.step_publishes step).published_subset
    ⟨core.registered_of_blocked blocked, show (system.kernel.tasks waiter).state ≠ .created by
      rw [blocked]
      decide⟩
  by_cases free : (after.kernel.tasks waiter).state ≠ .blocked
  · exact Or.inl (later.awake_of_published published free)
  · rw [not_not] at free
    right
    cases core.taskStep step waiter with
    | invokes active | advances active =>
        have running := (core.active_current active).state
        rw [blocked] at running
        cases running
    | watches _ _ move =>
        cases move with
        | fresh _ awake | expires _ _ awake | signaled _ _ _ awake => exact absurd free awake
        | stays _ wait =>
            have sameReason := (congrArg WaitPart.reason wait).trans reason
            have sameObject := (congrArg WaitPart.object wait).trans object
            obtain ⟨_, pendingStill, _, heir, inherited, _⟩ :=
              (InheritanceOk.of_run (run.step step)).mutexes.waiters waiter mutex
                (Task.mutexWait_eq_some.mpr ⟨free, sameReason, sameObject⟩)
            exact ⟨heir, ⟨mutex, free, sameReason, pendingStill, sameObject, inherited⟩,
              owner_step run step noSwitch held inherited⟩

/-- Only a switch ends an interruption. -/
theorem interrupted_step
    (run : Run cfg past system) (step : system.step cfg action = some (after, emitted))
    (noSwitch : ∀ psp, action ≠ .pendSv psp) {priority : Nat}
    (interrupted : system.kernel.Interrupted priority) : after.kernel.Interrupted priority := by
  have core := Core.of_run run
  have mutexes := (InheritanceOk.of_run run).mutexes
  obtain ⟨donor, task, above, reaches, awake⟩ := interrupted
  have registered := mutexes.registered_of_reaches (core.registered_of_awake awake) reaches
  have base : (after.kernel.tasks donor).basePriority = (system.kernel.tasks donor).basePriority :=
    congrArg TaskIdentity.basePriority
      ((core.step_keepsIdentities step).identities donor registered)
  suffices leads : ∃ finish, Relation.ReflTransGen after.kernel.WaitsFor donor finish ∧
      after.kernel.Awake finish by
    obtain ⟨finish, path, rouse⟩ := leads
    exact ⟨donor, finish, base.symm ▸ above, path, rouse⟩
  clear above registered base
  -- The chain is followed up to the first task that the step has roused.
  induction reaches using Relation.ReflTransGen.head_induction_on with
  | refl => exact ⟨task, .refl, core.awake_step step noSwitch awake⟩
  | @head waiter owner waits _ inductionHypothesis =>
      rcases waitsFor_step run step noSwitch waits with roused | ⟨heir, waitsStill, same | roused⟩
      · exact ⟨waiter, .refl, roused⟩
      · subst same
        obtain ⟨finish, path, rouse⟩ := inductionHypothesis
        exact ⟨finish, path.head waitsStill, rouse⟩
      · exact ⟨heir, .single waitsStill, roused⟩

end Steps

end ForgeKernel
