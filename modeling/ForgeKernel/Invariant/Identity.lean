import ForgeKernel.Invariant.CoreSteps

/-!
# Fields that only task creation writes

Stack, entry point, identifier and base priority of a registered task never
change, and no task is ever unregistered.
-/

namespace ForgeKernel

open Machines

/-- The fields that the reserving section of `fr_task_create` writes once. -/
structure TaskIdentity where
  stackBase : Word
  stackTop : Word
  entry : Word
  argument : Word
  stackSizeWords : Word
  id : Nat
  basePriority : Nat
  deriving DecidableEq, Repr

/-- The identity of a control block. -/
def Task.identity (task : Task) : TaskIdentity :=
  ⟨task.stackBase, task.stackTop, task.entry, task.argument, task.stackSizeWords, task.id,
    task.basePriority⟩

/-- Completing a wait keeps the identity of a control block. -/
theorem TaskMove.identity
    {cause : WakeCause} {kernel : Kernel} {index : Nat} {after : Task}
    (move : TaskMove cause kernel index after) :
    after.identity = (kernel.tasks index).identity := by
  rcases move with ⟨same⟩ | ⟨_, _, ended⟩
  · rw [same]
    rfl
  · rw [ended]
    rfl

/-- Blocking keeps every identity. -/
theorem Kernel.waiting_identity
    (kernel : Kernel) (call : Call) (current : Nat) (reason : WaitReason)
    (object : Option ObjectRef) (ticks : Word) (trace : Trace) (priorities : Nat → Nat)
    (index : Nat) :
    ((kernel.waiting call current reason object ticks trace priorities).tasks index).identity =
      (kernel.tasks index).identity := by
  by_cases self : index = current
  · subst self
    rw [waiting_self]
    cases call <;> rfl
  · rw [waiting_of_ne _ _ _ _ _ _ _ self]
    rfl

/-- Registered tasks keep their identity. -/
structure KeepsIdentities (before after : Kernel) : Prop where
  taskCount : before.taskCount ≤ after.taskCount
  identities : ∀ index < before.taskCount,
    (after.tasks index).identity = (before.tasks index).identity

/-- Two steps that keep the identities keep them together. -/
theorem KeepsIdentities.trans
    {first second third : Kernel}
    (left : KeepsIdentities first second) (right : KeepsIdentities second third) :
    KeepsIdentities first third where
  taskCount := left.taskCount.trans right.taskCount
  identities index small :=
    (right.identities index (small.trans_le left.taskCount)).trans (left.identities index small)

theorem KeepsIdentities.of_tasks
    {before after : Kernel} (taskCount : after.taskCount = before.taskCount)
    (identities : ∀ index, (after.tasks index).identity = (before.tasks index).identity) :
    KeepsIdentities before after :=
  ⟨taskCount.ge, fun index _ => identities index⟩

/-- No step of a call changes the identity of a registered task. -/
theorem Advance.keepsIdentities
    {cfg : Config} {system : System} {self : Nat} {call : Call} {point : Point}
    {result : StepResult} (core : Core system)
    (step : Advance cfg system.cpu system.kernel system.memory self call point result) :
    KeepsIdentities system.kernel result.kernel := by
  obtain ⟨effect, _, _, _⟩ := step
  generalize result.outcome = outcome at effect
  generalize result.kernel = after at *
  cases effect with
  | passes control _ tasks => exact .of_tasks control.taskCount fun index => by rw [tasks]
  | @resets current _ _ same =>
      subst same
      refine .of_tasks rfl fun index => ?_
      by_cases own : index = current
      · subst own
        rw [Kernel.setTask_tasks_self]
        rfl
      · rw [Kernel.setTask_tasks_of_ne _ _ own]
  | wakes _ _ woken =>
      exact .of_tasks woken.taskCount fun index => (woken.tasks index).identity
  | waits _ _ _ _ blocked =>
      subst blocked
      exact .of_tasks rfl (system.kernel.waiting_identity call _ _ _ _ _ _)
  | reserves _ _ reserved =>
      obtain ⟨_, rfl⟩ := taskCreateReserve_some reserved
      refine ⟨Nat.le_succ _, fun index small => ?_⟩
      change ((system.kernel.setTask _ _).tasks index).identity = _
      rw [Kernel.setTask_tasks_of_ne _ _ small.ne]
  | @builds index _ built =>
      obtain ⟨control, _, tasks⟩ := taskCreateBuild_facts cfg system.kernel index
      rw [← built] at control tasks
      exact .of_tasks control.taskCount fun index => by rw [tasks]
  | @publishes index initialSp _ _ published =>
      obtain ⟨control, _, tasks⟩ := taskCreatePublish_facts system.kernel index initialSp
      rw [← published] at control tasks
      refine .of_tasks control.taskCount fun position => ?_
      rw [tasks]
      by_cases own : position = index
      · subst own
        rw [Function.update_self]
        rfl
      · rw [Function.update_of_ne own]
  | starts _ started =>
      have outcome := schedulerStart_outcome cfg system.cpu system.kernel
      rw [started] at outcome
      obtain ⟨taskCount, _, _, tasks, _⟩ :=
        outcome.facts core.control (schedulerStart_stopped started)
      refine .of_tasks taskCount fun index => ?_
      obtain ⟨state, same, _⟩ := tasks index
      rw [same]
      rfl

/-- No step of the system does, and the registry never shrinks. -/
theorem Core.step_keepsIdentities
    {cfg : Config} {system after : System} {action : Action} {events : List Event}
    (core : Core system) (step : system.step cfg action = some (after, events)) :
    KeepsIdentities system.kernel after.kernel := by
  cases System.stepped step with
  | sysTick =>
      cases running : system.kernel.running with
      | false =>
          rw [sysTickHandler_stopped running]
          exact .of_tasks rfl fun _ => rfl
      | true =>
          obtain ⟨expired, _⟩ := sysTickHandler_expired core.waitsNamed running
          exact .of_tasks expired.woken.taskCount fun index =>
            (expired.woken.tasks index).identity
  | @pendSv psp live =>
      rcases pendSvHandler_outcome psp core.control live with stopped | resumed
      · refine .of_tasks stopped.taskCount fun index => ?_
        obtain ⟨savedSp, same⟩ := stopped.tasks index
        rw [same]
        rfl
      · refine .of_tasks resumed.taskCount fun index => ?_
        rw [resumed.tasks]
        rfl
  | invoke => exact .of_tasks rfl fun _ => rfl
  | advance _ _ stepped => exact (Call.step_advance stepped).keepsIdentities core
  | user => exact .of_tasks rfl fun _ => rfl

/-- Identities never change after creation. -/
theorem Core.run_keepsIdentities
    {cfg : Config} {allowed : System → Action → Prop} {system later : System}
    {events : List Event}
    (core : Core system) (run : (forge cfg).RunFrom allowed system events later) :
    KeepsIdentities system.kernel later.kernel :=
  (run.stateInvariant
    (motive := fun state => Core state ∧ KeepsIdentities system.kernel state.kernel)
    ⟨core, .of_tasks rfl fun _ => rfl⟩
    fun _ _ _ _ held _ stepped => ⟨held.1.step stepped,
      held.2.trans (held.1.step_keepsIdentities stepped)⟩).2

end ForgeKernel
