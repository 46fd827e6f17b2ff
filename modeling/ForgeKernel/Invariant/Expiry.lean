import ForgeKernel.Invariant.MutexSteps

/-!
# The timeout pass

The pass of the tick over the registry, in any order of visits.  Every visited wait that
is due ends with a timeout, nothing else happens to a task but a change of its priority,
and the priorities are consistent on the graph that remains.
-/

namespace ForgeKernel

open Inheritance Scans

namespace Kernel

/-- A task after the pass has visited some positions, its priority apart. -/
def expiredTask (kernel : Kernel) (now : Word) (visited : Finset Nat) (task : Nat) : Task :=
  if task ∈ visited ∧ (kernel.tasks task).dueAt now = true then
    (kernel.tasks task).endWait .timeout (kernel.wakeState task)
  else kernel.tasks task

/-- All expired waits removed at once. -/
def withoutExpired (kernel : Kernel) (now : Word) : Kernel :=
  { kernel with
    tasks := fun task =>
      if (kernel.tasks task).dueAt now = true then
        (kernel.tasks task).endWait .timeout (kernel.wakeState task)
      else kernel.tasks task }

/-- A wait whose deadline is reached has ended with a timeout. -/
theorem withoutExpired_of_due
    {kernel : Kernel} {now : Word} {task : Nat} (due : (kernel.tasks task).dueAt now = true) :
    (kernel.withoutExpired now).tasks task =
      (kernel.tasks task).endWait .timeout (kernel.wakeState task) :=
  if_pos due

/-- The others are as before. -/
theorem withoutExpired_of_early
    {kernel : Kernel} {now : Word} {task : Nat} (early : ¬(kernel.tasks task).dueAt now = true) :
    (kernel.withoutExpired now).tasks task = kernel.tasks task :=
  if_neg early

end Kernel

/-- What the pass has done after visiting some positions. -/
structure ExpiredOver (now : Word) (before : Kernel) (visited : Finset Nat) (after : Kernel) :
    Prop where
  tasks : ∀ task, after.tasks task =
    { before.expiredTask now visited task with priority := after.priorityOf task }
  objects : before.SameObjects after
  control : before.SameControl after
  inheritance : InheritanceOk after
  settling : Settling (mutexUpstreamOwner after) before.priorityOf after.priorityOf

/-- Before the first position nothing has been done. -/
theorem ExpiredOver.start
    {kernel : Kernel} (now : Word) (ok : InheritanceOk kernel) :
    ExpiredOver now kernel ∅ kernel where
  tasks task := by simp [Kernel.expiredTask, Kernel.priorityOf]
  objects := .refl kernel
  control := .refl kernel
  inheritance := ok
  settling := .refl kernel.priorityOf

/-- An iteration removes at most the edge of the visited task. -/
theorem ExpireOutcome.upstream
    {now : Word} {before after : Kernel} {position task owner : Nat}
    (outcome : ExpireOutcome now before position after)
    (edge : mutexUpstreamOwner after task = some owner) :
    mutexUpstreamOwner before task = some owner := by
  rcases outcome.cases with ⟨rfl, -⟩ | ⟨-, trace, priorities, counters, rfl⟩
  · exact edge
  · change mutexUpstreamOwner (before.wakeTask position .timeout trace) task = some owner at edge
    rw [mutexUpstreamOwner_wakeTask] at edge
    split at edge
    · cases edge
    · exact edge

/-- An iteration raises no priority and leaves those on a remaining cycle. -/
theorem InheritanceOk.expires_settling
    {now : Word} {before after : Kernel} {position : Nat}
    (ok : InheritanceOk before) (outcome : ExpireOutcome now before position after) :
    Settling (mutexUpstreamOwner after) before.priorityOf after.priorityOf := by
  cases outcome with
  | skipped => exact .refl _
  | @expired trace counters _ _ =>
      have same : before.priorityOf =
          (before.wakeTask position .timeout trace).priorityOf :=
        (before.wakeTask_priorityOf position .timeout trace).symm
      rw [same]
      exact .refl _
  | @withdrawn trace counters mutex due reason object =>
      have waits := Task.mutexWait_eq_some.mpr ⟨(Task.dueAt_iff.mp due).1, reason, object⟩
      obtain ⟨owner, removed, relinked⟩ := ok.withdraws waits trace
      rw [removed]
      exact relinked.settling ok

/-- One more position expires its task when its deadline is reached. -/
theorem ExpiredOver.step
    {now : Word} {before middle : Kernel} {visited : Finset Nat} {position : Nat}
    (named : before.WaitsNamed) (reached : ExpiredOver now before visited middle)
    (fresh : position ∉ visited) :
    ExpiredOver now before (insert position visited)
      (schedulerExpireStep now middle position) := by
  have unvisited : middle.tasks position =
      { before.tasks position with priority := middle.priorityOf position } := by
    rw [reached.tasks, Kernel.expiredTask, if_neg fun chosen => fresh chosen.1]
  have outcome := schedulerExpireStep_outcome now middle position
    (fun blocked => by
      rw [unvisited] at blocked ⊢
      exact (named position blocked).1)
    (fun blocked => by
      rw [unvisited] at blocked ⊢
      exact (named position blocked).2)
  refine ⟨?_, ?_, ?_, reached.inheritance.expires outcome,
    reached.settling.trans (reached.inheritance.expires_settling outcome)
      fun _ _ => outcome.upstream⟩
  · intro task
    rcases outcome.cases with ⟨same, early⟩ | ⟨due, trace, priorities, counters, same⟩
    · have undue : (before.tasks position).dueAt now = false := by
        rw [unvisited] at early
        exact early
      rw [same, reached.tasks]
      simp only [Kernel.expiredTask]
      by_cases last : task = position
      · subst last
        simp [undue, fresh]
      · simp [last]
    · have isDue : (before.tasks position).dueAt now = true := by
        rw [unvisited] at due
        exact due
      have state : middle.wakeState position = before.wakeState position := by
        simp only [Kernel.wakeState, reached.control.currentTask]
      rw [same]
      by_cases last : task = position
      · subst last
        simp only [Kernel.expireTask, Kernel.wakeTask, Kernel.withPriorities_tasks,
          Function.update_self, unvisited, state, Kernel.expiredTask,
          if_pos (And.intro (Finset.mem_insert_self task visited) isDue)]
        rfl
      · have visits : task ∈ insert position visited ↔ task ∈ visited := by simp [last]
        simp only [Kernel.expireTask, Kernel.wakeTask, Kernel.withPriorities_tasks,
          Function.update_of_ne last, reached.tasks task, Kernel.expiredTask, visits]
        rfl
  · rcases outcome.cases with ⟨same, -⟩ | ⟨-, trace, priorities, counters, same⟩
    · rw [same]
      exact reached.objects
    · rw [same]
      exact reached.objects.trans ⟨rfl, rfl, rfl, rfl, rfl⟩
  · rcases outcome.cases with ⟨same, -⟩ | ⟨-, trace, priorities, counters, same⟩
    · rw [same]
      exact reached.control
    · rw [same]
      exact reached.control.trans ⟨rfl, rfl, rfl, rfl, rfl⟩

/-- The pass over any order of the registry. -/
theorem ExpiredOver.of_order
    {kernel : Kernel} (now : Word) (named : kernel.WaitsNamed) (ok : InheritanceOk kernel)
    {order : List Nat} (permuted : order.Perm (List.range kernel.taskCount)) :
    ExpiredOver now kernel (Finset.range kernel.taskCount)
      (order.foldl (schedulerExpireStep now) kernel) := by
  have distinct : order.Nodup := permuted.nodup_iff.mpr List.nodup_range
  have visited : order.toFinset = Finset.range kernel.taskCount := by
    ext task
    simp [permuted.mem_iff]
  have reached := foldl_nodup_invariant
    (motive := fun visited state => ExpiredOver now kernel visited state)
    order kernel distinct (.start now ok) (fun _ _ _ _ fresh reached => reached.step named fresh)
  rwa [visited] at reached

/-- After all positions the registry is that of a simultaneous removal. -/
theorem Core.expiredTask_eq
    {system : System} (core : Core system) (now : Word) (task : Nat) :
    system.kernel.expiredTask now (Finset.range system.kernel.taskCount) task =
      (system.kernel.withoutExpired now).tasks task := by
  by_cases due : (system.kernel.tasks task).dueAt now = true
  · have registered := core.registered_of_blocked (Task.dueAt_iff.mp due).1
    simp [Kernel.expiredTask, Kernel.withoutExpired, due, registered]
  · simp [Kernel.expiredTask, Kernel.withoutExpired, due]

/-- The pass in a reachable state: every due wait is gone, and only priorities are
changed besides. -/
theorem Core.expiredOver_tasks
    {system : System} (core : Core system) {now : Word} {after : Kernel}
    (passed : ExpiredOver now system.kernel (Finset.range system.kernel.taskCount) after)
    (task : Nat) :
    after.tasks task = { (system.kernel.withoutExpired now).tasks task with
      priority := after.priorityOf task } := by
  rw [← core.expiredTask_eq]
  exact passed.tasks task

end ForgeKernel
