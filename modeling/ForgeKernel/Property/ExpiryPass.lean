import Mathlib.Order.Lattice.Nat
import ForgeKernel.Invariant.Expiry
import ForgeKernel.Property.PriorityInheritance

/-!
# The timeout pass is a simultaneous removal

`fr_scheduler_expire_timeouts` recomputes priorities inside its loop, while later expired
waiters still count.  When the remaining waits-for graph has no cycle the result is the
same as removing every expired wait at once and computing all priorities from scratch.
-/

namespace ForgeKernel

open Inheritance Machines

/-- The largest base priority among a task and its transitive waiters. -/
noncomputable def Kernel.scratchPriority (kernel : Kernel) (task : Nat) : Nat :=
  sSup {base | ∃ waiter, Relation.ReflTransGen kernel.WaitsFor waiter task ∧
    (kernel.tasks waiter).basePriority = base}

/-- Without a deadlock the priorities are those computed from scratch. -/
theorem InheritanceOk.priorityOf_eq_scratch
    {kernel : Kernel} (ok : InheritanceOk kernel)
    (acyclic : ∀ task, ¬Relation.TransGen kernel.WaitsFor task task) (task : Nat) :
    kernel.priorityOf task = kernel.scratchPriority task := by
  have greatest := Consistent.isGreatest_of_acyclic (Finset.range kernel.taskCount)
    ok.priorities (fun waiter owner edge => Finset.mem_range.mpr (ok.mutexes.upstream_lt edge).1)
    (ok.mutexes.waitsFor_eq ▸ acyclic) task
  rw [← ok.mutexes.waitsFor_eq] at greatest
  exact greatest.csSup_eq.symm

section Pass

variable {system : System} {now : Word} {after : Kernel}

/-- The waits that remain after the pass. -/
theorem Core.expiredOver_waitsFor
    (core : Core system)
    (passed : ExpiredOver now system.kernel (Finset.range system.kernel.taskCount) after) :
    after.WaitsFor = (system.kernel.withoutExpired now).WaitsFor := by
  funext waiter owner
  simp only [Kernel.WaitsFor, core.expiredOver_tasks passed waiter, passed.objects.mutexes]
  rfl

theorem Core.expiredOver_scratch
    (core : Core system)
    (passed : ExpiredOver now system.kernel (Finset.range system.kernel.taskCount) after)
    (task : Nat) :
    after.scratchPriority task = (system.kernel.withoutExpired now).scratchPriority task := by
  unfold Kernel.scratchPriority
  rw [core.expiredOver_waitsFor passed]
  congr 1
  ext base
  simp only [Set.mem_ofPred_eq, core.expiredOver_tasks passed]

/-- The registry after the pass, when no cycle remains. -/
theorem Core.expiredOver_eq
    (core : Core system)
    (passed : ExpiredOver now system.kernel (Finset.range system.kernel.taskCount) after)
    (acyclic : ∀ task,
      ¬Relation.TransGen (system.kernel.withoutExpired now).WaitsFor task task) (task : Nat) :
    after.tasks task = { (system.kernel.withoutExpired now).tasks task with
      priority := (system.kernel.withoutExpired now).scratchPriority task } := by
  rw [← core.expiredOver_waitsFor passed] at acyclic
  rw [core.expiredOver_tasks passed, passed.inheritance.priorityOf_eq_scratch acyclic,
    core.expiredOver_scratch passed]

end Pass

/-- In every reachable state and for every tick value, the timeout pass unblocks with
TIMEOUT exactly the blocked tasks whose deadline is reached and changes nothing of the
other tasks but priorities, and no object; and when the remaining waits-for graph has no
cycle, the registry is that of a simultaneous removal with priorities computed from
scratch, in whatever order the registry is visited. -/
theorem expiry_pass_is_simultaneous_removal
    {cfg : Config} {events : List Event} {system : System}
    (run : Run cfg events system) (now : Word) :
    let kernel := system.kernel
    let after := schedulerExpireTimeouts kernel now
    let removed := kernel.withoutExpired now
    (∀ task, (kernel.tasks task).state = .blocked → (kernel.tasks task).waitHasDeadline = true →
      tickDeadlineReached now (kernel.tasks task).waitDeadline = true →
        ((after.tasks task).state = .ready ∨ (after.tasks task).state = .running) ∧
        (after.tasks task).waitResult = .timeout) ∧
    (∀ task, ¬((kernel.tasks task).state = .blocked ∧
        (kernel.tasks task).waitHasDeadline = true ∧
        tickDeadlineReached now (kernel.tasks task).waitDeadline = true) →
      after.tasks task =
        { kernel.tasks task with priority := (after.tasks task).priority }) ∧
    kernel.SameObjects after ∧
    ((∀ task, ¬Relation.TransGen removed.WaitsFor task task) →
      (∀ task, after.tasks task =
        { removed.tasks task with priority := removed.scratchPriority task }) ∧
      ∀ order : List Nat, order.Perm (List.range kernel.taskCount) →
        (order.foldl (schedulerExpireStep now) kernel).tasks = after.tasks) := by
  intro kernel after removed
  have core := Core.of_run run
  have ok := InheritanceOk.of_run run
  have passed : ExpiredOver now kernel (Finset.range kernel.taskCount) after :=
    .of_order now core.waitsNamed ok (List.Perm.refl _)
  refine ⟨?_, ?_, passed.objects, ?_⟩
  · intro task blocked timed reached
    have due : (kernel.tasks task).dueAt now = true :=
      Task.dueAt_iff.mpr ⟨blocked, timed, reached⟩
    rw [core.expiredOver_tasks passed, Kernel.withoutExpired_of_due due]
    exact ⟨(kernel.wakeState_eq task).symm, rfl⟩
  · intro task early
    rw [← Task.dueAt_iff] at early
    have kept := core.expiredOver_tasks passed task
    rw [Kernel.withoutExpired_of_early early] at kept
    exact kept
  · intro acyclic
    refine ⟨core.expiredOver_eq passed acyclic, ?_⟩
    intro order permuted
    funext task
    rw [core.expiredOver_eq passed acyclic,
      core.expiredOver_eq (.of_order now core.waitsNamed ok permuted) acyclic]

/-- The third task waits for the mutex of the first one, but not forever. -/
def timedInversionProgram : List Action :=
  contentionProgram ++
    ([.invoke (.mutexLock (some 0) 4), .advance, .advance, .switchFrom 2] : List Action)

/-- When the wait expires the owner loses what it had inherited. -/
theorem expired_waiter_takes_priority_back :
    ∃ events system, Run Config.default events system ∧
      (system.kernel.tasks 0).priority = 5 ∧
      ((schedulerExpireTimeouts system.kernel 5).tasks 2).waitResult = .timeout ∧
      ((schedulerExpireTimeouts system.kernel 5).tasks 0).priority =
        (system.kernel.withoutExpired 5).scratchPriority 0 := by
  obtain ⟨events, system, run, checked⟩ :=
    Machine.RunFrom.exists_of_execFrom (forge Config.default) Machine.anyStep System.boot
      timedInversionProgram
      (fun _ system => decide ((system.kernel.tasks 0).priority = 5) &&
        decide (system.kernel.taskCount = 3) &&
        (List.range 3).all (fun task =>
          ((system.kernel.withoutExpired 5).tasks task).state ≠ .blocked) &&
        (system.kernel.tasks 2).dueAt 5)
      (by decide +kernel)
  simp only [Bool.and_eq_true, List.all_eq_true, List.mem_range, decide_eq_true_eq] at checked
  obtain ⟨⟨⟨boosted, count⟩, free⟩, due⟩ := checked
  obtain ⟨blocked, timed, reached⟩ := Task.dueAt_iff.mp due
  have pass := expiry_pass_is_simultaneous_removal run 5
  have unblocked : ∀ task, ((system.kernel.withoutExpired 5).tasks task).state ≠ .blocked := by
    intro task
    by_cases small : task < 3
    · exact free task small
    · intro stillBlocked
      simp only [Kernel.withoutExpired] at stillBlocked
      split at stillBlocked
      · exact system.kernel.wakeState_ne_blocked task stillBlocked
      · have registered := (Core.of_run run).registered_of_blocked stillBlocked
        omega
  have acyclic : ∀ task,
      ¬Relation.TransGen (system.kernel.withoutExpired 5).WaitsFor task task := by
    intro task cycle
    obtain ⟨next, ⟨index, waits, -⟩, -⟩ := Relation.TransGen.head'_iff.mp cycle
    exact unblocked task waits
  refine ⟨events, system, run, boosted, (pass.1 2 blocked timed reached).2, ?_⟩
  rw [(pass.2.2.2 acyclic).1 0]

end ForgeKernel
