import ForgeKernel.Invariant.MutexSteps
import ForgeKernel.Invariant.Identity

/-!
# Priority inheritance

In every reachable state a task carries the maximum of its base priority and of
the priorities of the tasks that wait for a mutex it owns.  This holds while
chains merge, change hands, lose waiters to timeouts or close into a deadlock.
-/

namespace ForgeKernel

open Inheritance Machines

/-- `waiter` is blocked on a mutex that `owner` owns, and its wait is not decided. -/
def Kernel.WaitsFor (kernel : Kernel) (waiter owner : Nat) : Prop :=
  ∃ index,
    (kernel.tasks waiter).state = .blocked ∧
    (kernel.tasks waiter).waitReason = .mutex ∧
    (kernel.tasks waiter).waitResult = .pending ∧
    (kernel.tasks waiter).waitObject = some (.mutex index) ∧
    (kernel.mutexes index).owner = some owner

namespace MutexOk

variable {kernel : Kernel}

theorem waitsFor_iff (ok : MutexOk kernel) {waiter owner : Nat} :
    kernel.WaitsFor waiter owner ↔ Edge (mutexUpstreamOwner kernel) waiter owner := by
  rw [Edge, ok.upstream_iff]
  constructor
  · rintro ⟨index, blocked, reason, _, object, held⟩
    exact ⟨index, Task.mutexWait_eq_some.mpr ⟨blocked, reason, object⟩, held⟩
  · rintro ⟨index, waits, held⟩
    obtain ⟨blocked, reason, object⟩ := Task.mutexWait_eq_some.mp waits
    exact ⟨index, blocked, reason, (ok.waiters waiter index waits).2.1, object, held⟩

theorem waitsFor_eq (ok : MutexOk kernel) :
    kernel.WaitsFor = Edge (mutexUpstreamOwner kernel) := by
  funext waiter owner
  exact propext ok.waitsFor_iff

theorem registered_of_reaches
    (ok : MutexOk kernel) {waiter owner : Nat} (registered : owner < kernel.taskCount)
    (reaches : Relation.ReflTransGen kernel.WaitsFor waiter owner) :
    waiter < kernel.taskCount := by
  rcases Relation.ReflTransGen.cases_head reaches with rfl | ⟨next, edge, _⟩
  · exact registered
  · exact (ok.upstream_lt (ok.waitsFor_iff.mp edge)).1

end MutexOk

namespace InheritanceOk

variable {kernel : Kernel}

/-- A priority is the largest among the base priority and those of direct waiters. -/
theorem isGreatest_direct (ok : InheritanceOk kernel) (task : Nat) :
    IsGreatest (insert (kernel.tasks task).basePriority
      {priority | ∃ waiter < kernel.taskCount, kernel.WaitsFor waiter task ∧
        (kernel.tasks waiter).priority = priority}) (kernel.tasks task).priority := by
  have effective := ok.priorities task
  refine ⟨?_, ?_⟩
  · rcases effective.attained with own | ⟨waiter, edge, equal⟩
    · exact Or.inl own
    · exact Or.inr ⟨waiter, (ok.mutexes.upstream_lt edge).1, ok.mutexes.waitsFor_iff.mpr edge,
        equal⟩
  · rintro priority (rfl | ⟨waiter, _, waits, rfl⟩)
    · exact effective.base_le
    · exact effective.waiter_le waiter (ok.mutexes.waitsFor_iff.mp waits)

/-- Without a deadlock it is the largest base priority among transitive waiters. -/
theorem isGreatest_transitive
    (ok : InheritanceOk kernel)
    (acyclic : ∀ task, ¬Relation.TransGen kernel.WaitsFor task task)
    {task : Nat} (registered : task < kernel.taskCount) :
    IsGreatest {base | ∃ waiter < kernel.taskCount,
      Relation.ReflTransGen kernel.WaitsFor waiter task ∧
        (kernel.tasks waiter).basePriority = base} (kernel.tasks task).priority := by
  have greatest := Consistent.isGreatest_of_acyclic (Finset.range kernel.taskCount)
    ok.priorities (fun waiter owner edge => Finset.mem_range.mpr (ok.mutexes.upstream_lt edge).1)
    (ok.mutexes.waitsFor_eq ▸ acyclic) task
  rw [← ok.mutexes.waitsFor_eq] at greatest
  refine ⟨?_, ?_⟩
  · obtain ⟨waiter, reaches, base⟩ := greatest.1
    exact ⟨waiter, ok.mutexes.registered_of_reaches registered reaches, reaches, base⟩
  · rintro base ⟨waiter, _, reaches, rfl⟩
    exact greatest.2 ⟨waiter, reaches, rfl⟩

end InheritanceOk

/-- Effective priorities in every reachable state, and base priorities along every
later run. -/
theorem priority_inheritance_consistent
    {cfg : Config} {events : List Event} {system : System}
    (run : Run cfg events system) :
    (∀ task < system.kernel.taskCount,
      IsGreatest (insert (system.kernel.tasks task).basePriority
        {priority | ∃ waiter < system.kernel.taskCount, system.kernel.WaitsFor waiter task ∧
          (system.kernel.tasks waiter).priority = priority})
        (system.kernel.tasks task).priority) ∧
    ((∀ task, ¬Relation.TransGen system.kernel.WaitsFor task task) →
      ∀ task < system.kernel.taskCount,
        IsGreatest {base | ∃ waiter < system.kernel.taskCount,
          Relation.ReflTransGen system.kernel.WaitsFor waiter task ∧
            (system.kernel.tasks waiter).basePriority = base}
          (system.kernel.tasks task).priority) ∧
    (∀ task < system.kernel.taskCount,
      (∀ waiter < system.kernel.taskCount, ¬system.kernel.WaitsFor waiter task) →
        (system.kernel.tasks task).priority = (system.kernel.tasks task).basePriority) ∧
    (∀ laterEvents later, (forge cfg).RunFrom Machine.anyStep system laterEvents later →
      ∀ task < system.kernel.taskCount,
        (later.kernel.tasks task).basePriority = (system.kernel.tasks task).basePriority) := by
  have core := Core.of_run run
  have ok := InheritanceOk.of_run run
  refine ⟨fun task _ => ok.isGreatest_direct task,
    fun acyclic task registered => ok.isGreatest_transitive acyclic registered, ?_, ?_⟩
  · intro task registered alone
    rcases (ok.isGreatest_direct task).1 with own | ⟨waiter, small, waits, _⟩
    · exact own
    · exact absurd waits (alone waiter small)
  · intro laterEvents later further task registered
    exact congrArg TaskIdentity.basePriority
      ((core.run_keepsIdentities further).identities task registered)

/-- Tasks of priorities 1, 3 and 5.  The first one owns a mutex, the second is ready
and the third one runs. -/
def contentionProgram : List Action :=
  Action.bootProgram [.mutexInit (some 0)] [1, 3, 5] ++
    ([.invoke (.taskSleep 1), .advance, .switchFrom 2,
       .invoke (.taskSleep 1), .advance, .switchFrom 1,
       .invoke (.mutexLock (some 0) waitForever), .advance, .advance,
       .sysTick, .switchFrom 0, .advance] : List Action)

/-- The third task waits for the mutex, and its owner runs again. -/
def inversionProgram : List Action :=
  contentionProgram ++
    ([.invoke (.mutexLock (some 0) waitForever), .advance, .advance, .switchFrom 2] : List Action)

theorem inversion_boosts_owner :
    ∃ events system, Run Config.default events system ∧
      (system.kernel.tasks 0).basePriority = 1 ∧ (system.kernel.tasks 0).priority = 5 ∧
      IsGreatest (insert (system.kernel.tasks 0).basePriority
        {priority | ∃ waiter < system.kernel.taskCount, system.kernel.WaitsFor waiter 0 ∧
          (system.kernel.tasks waiter).priority = priority})
        (system.kernel.tasks 0).priority := by
  obtain ⟨events, system, run, checked⟩ :=
    Machine.RunFrom.exists_of_execFrom (forge Config.default) Machine.anyStep System.boot
      inversionProgram (fun _ system => decide (system.kernel.taskCount = 3 ∧
        (system.kernel.tasks 0).basePriority = 1 ∧ (system.kernel.tasks 0).priority = 5))
      (by decide +kernel)
  rw [decide_eq_true_eq] at checked
  obtain ⟨count, base, boosted⟩ := checked
  exact ⟨events, system, run, base, boosted,
    (priority_inheritance_consistent run).1 0 (by rw [count]; decide)⟩

end ForgeKernel
