import ForgeKernel.Property.ExpiryPass
import Mathlib.Tactic.IntervalCases

/-!
# Lenders of inherited priorities

Every inherited priority should be the base priority of a task that still waits for its
holder, directly or through other owners.  Around a waits-for cycle the recomputed
priorities support one another, so a tick that expires the last wait which lent a deadlock
its priority leaves the priority behind.  This is the only step that breaks the property.
-/

namespace ForgeKernel

open Inheritance Machines

namespace Kernel

/-- Every task carries its own base priority or that of a task that waits for it,
directly or through other owners. -/
def PrioritiesLent (kernel : Kernel) : Prop :=
  ∀ task < kernel.taskCount, ∃ donor < kernel.taskCount,
    Relation.ReflTransGen kernel.WaitsFor donor task ∧
      (kernel.tasks donor).basePriority = (kernel.tasks task).priority

/-- Every deadlock that outlives the waits expiring at the next tick keeps, for each of its
tasks, a waiter whose base priority that task carries. -/
def TickKeepsLenders (kernel : Kernel) : Prop :=
  ∀ task, Relation.TransGen (kernel.withoutExpired (kernel.tickCount + 1)).WaitsFor task task →
    ∃ donor,
      Relation.ReflTransGen (kernel.withoutExpired (kernel.tickCount + 1)).WaitsFor
        donor task ∧
      (kernel.tasks donor).basePriority = (kernel.tasks task).priority

end Kernel

/-- The side condition on runs: ticks keep the lenders. -/
def System.KeepsLenders (system : System) : Action → Prop
  | .sysTick => system.kernel.TickKeepsLenders
  | _ => True

/-- The property over the graph that the chain loops walk. -/
def Kernel.LendersOk (kernel : Kernel) : Prop :=
  Justified (mutexUpstreamOwner kernel) kernel.baseOf kernel.priorityOf

theorem Kernel.LendersOk.of_view
    {before after : Kernel} (lent : before.LendersOk) (view : SameMutexView before after) :
    after.LendersOk := by
  unfold LendersOk
  rw [mutexUpstreamOwner_congr view.waits view.mutexes, view.bases, view.priorities]
  exact lent

namespace InheritanceOk

variable {kernel : Kernel}

/-- Under the invariant the graph of the chain loops is the waits-for graph. -/
theorem lendersOk_iff (ok : InheritanceOk kernel) :
    kernel.LendersOk ↔ kernel.PrioritiesLent := by
  unfold Kernel.LendersOk Kernel.PrioritiesLent
  rw [ok.mutexes.waitsFor_eq]
  refine ⟨fun justified task registered => ?_, fun lent task => ?_⟩
  · obtain ⟨donor, reaches, value⟩ := justified task
    refine ⟨donor, ?_, reaches, value⟩
    rw [← ok.mutexes.waitsFor_eq] at reaches
    exact ok.mutexes.registered_of_reaches registered reaches
  · by_cases registered : task < kernel.taskCount
    · obtain ⟨donor, _, reaches, value⟩ := lent task registered
      exact ⟨donor, reaches, value⟩
    · -- Nobody waits for an unregistered slot.
      rcases (ok.priorities task).attained with own | ⟨waiter, edge, _⟩
      · exact ⟨task, .refl, own.symm⟩
      · exact absurd (ok.mutexes.upstream_lt edge).2 registered

/-! ## Steps other than the tick -/

/-- A task that blocks on a mutex lends what its chain inherits. -/
theorem lendersOk_locks
    {index current owner : Nat} {ticks : Word} {trace : Trace}
    (ok : InheritanceOk kernel) (lent : kernel.LendersOk)
    (runs : kernel.Runs current)
    (initialized : (kernel.mutexes index).magic = mutexMagic)
    (held : (kernel.mutexes index).owner = some owner) (different : owner ≠ current) :
    ((kernel.blockTask current .mutex (some (.mutex index)) ticks trace).donated
      owner (kernel.priorityOf current)).LendersOk := by
  have added :
      mutexUpstreamOwner (kernel.blockTask current .mutex (some (.mutex index)) ticks trace) =
        Function.update (mutexUpstreamOwner kernel) current (some owner) :=
    mutexUpstreamOwner_blockTask initialized held different
  have donated := donate_added ok.priorities.bounded added
    (Finset.mem_range.mpr (ok.mutexes.owners index owner held))
    (fun _ _ edge => Finset.mem_range.mpr (ok.mutexes.upstream_lt edge).2)
    (Finset.card_range kernel.taskCount).le
  have justified := lent.donated runs.upstream added donated
  have bases := kernel.blockTask_baseOf current .mutex (some (.mutex index)) ticks trace
  have priorities := kernel.blockTask_priorityOf current .mutex (some (.mutex index)) ticks trace
  rw [← bases, ← priorities] at justified
  rw [← priorities]
  exact justified

/-- A new task carries its own priority. -/
theorem lendersOk_reserves
    {cfg : Config} {after : Kernel} {config : TaskConfig}
    (ok : InheritanceOk kernel) (lent : kernel.LendersOk)
    (vacant : (kernel.tasks kernel.taskCount).state ≠ .blocked)
    (reserved : taskCreateReserve cfg kernel config = some after) : after.LendersOk := by
  have upstream := taskCreateReserve_upstream vacant reserved
  unfold Kernel.LendersOk
  rw [upstream]
  intro task
  by_cases new : task = kernel.taskCount
  · refine ⟨task, .refl, ?_⟩
    simp [Kernel.baseOf, Kernel.priorityOf, new, taskCreateReserve_own reserved, Task.reserve]
  · obtain ⟨donor, reaches, value⟩ := lent task
    have donorOld : donor ≠ kernel.taskCount := by
      rintro rfl
      rcases Relation.ReflTransGen.cases_head reaches with same | ⟨_, edge, _⟩
      · exact new same.symm
      · exact (ok.mutexes.upstream_lt edge).1.ne rfl
    refine ⟨donor, reaches, ?_⟩
    simp only [Kernel.baseOf, Kernel.priorityOf, taskCreateReserve_others reserved new,
      taskCreateReserve_others reserved donorOld]
    exact value

/-- No step but the tick breaks the property. -/
theorem lendersOk_changed
    {cfg : Config} {after : Kernel}
    (ok : InheritanceOk kernel) (lent : kernel.LendersOk)
    (change : MutexChange cfg kernel after) : after.LendersOk := by
  cases change with
  | same view => exact lent.of_view view
  | reserves vacant reserved => exact ok.lendersOk_reserves lent vacant reserved
  | stores unwanted _ =>
      unfold Kernel.LendersOk
      rw [mutexUpstreamOwner_setMutex unwanted]
      exact lent
  | locks _ runs initialized held different =>
      exact ok.lendersOk_locks lent runs initialized held different
  | @unlocks current middle _ relinked idle view =>
      have settled : (middle.recomputed current).LendersOk := by
        have recomputed := (relinked.recomputed ok).priorities
        refine Justified.settled (Finset.range middle.taskCount) (relinked.bases ▸ lent)
          recomputed (relinked.settling ok) ?_ idle relinked.keeps
        exact fun _ _ edge => Finset.mem_range.mpr (relinked.mutexes.upstream_lt edge).1
      exact settled.of_view view

end InheritanceOk

/-! ## The tick -/

theorem Kernel.withoutExpired_blocked
    {kernel : Kernel} {now : Word} {task : Nat}
    (blocked : ((kernel.withoutExpired now).tasks task).state = .blocked) :
    (kernel.tasks task).state = .blocked := by
  by_cases due : (kernel.tasks task).dueAt now = true
  · exact (Task.dueAt_iff.mp due).1
  · rwa [withoutExpired_of_early due] at blocked

theorem Kernel.withoutExpired_base (kernel : Kernel) (now : Word) (task : Nat) :
    ((kernel.withoutExpired now).tasks task).basePriority =
      (kernel.tasks task).basePriority := by
  unfold withoutExpired
  dsimp only
  split <;> rfl

namespace InheritanceOk

variable {system : System}

/-- Before the start there is nothing to lend. -/
theorem lendersOk_stopped
    (core : Core system) (ok : InheritanceOk system.kernel)
    (stopped : system.kernel.running = false) :
    system.kernel.LendersOk ∧ system.kernel.TickKeepsLenders := by
  have calm := (core.control.stopped stopped).2
  have noEdge : ∀ waiter owner, mutexUpstreamOwner system.kernel waiter ≠ some owner := by
    intro waiter owner edge
    obtain ⟨_, waits, _⟩ := ok.mutexes.upstream_iff.mp edge
    exact (calm waiter).2 (Task.mutexWait_eq_some.mp waits).1
  refine ⟨fun task => ?_, fun task cycle => ?_⟩
  · rcases (ok.priorities task).attained with own | ⟨waiter, edge, _⟩
    · exact ⟨task, .refl, own.symm⟩
    · exact absurd edge (noEdge waiter task)
  · obtain ⟨_, ⟨_, blocked, _⟩, _⟩ := Relation.TransGen.head'_iff.mp cycle
    exact absurd (Kernel.withoutExpired_blocked blocked) (calm task).2

/-- After a tick the priorities are lent exactly when it kept the lenders of every deadlock
that outlives it. -/
theorem lendersOk_sysTick
    (core : Core system) (ok : InheritanceOk system.kernel) :
    (sysTickHandler system.kernel).LendersOk ↔ system.kernel.TickKeepsLenders := by
  cases running : system.kernel.running with
  | false =>
      obtain ⟨lent, keeps⟩ := ok.lendersOk_stopped core running
      rw [sysTickHandler_stopped running]
      exact ⟨fun _ => keeps, fun _ => lent⟩
  | true =>
      have coreTicked := core.ticked system.time
      have passed : ExpiredOver (system.kernel.tickCount + 1) system.kernel.ticked
          (Finset.range system.kernel.ticked.taskCount)
          (schedulerExpireTimeouts system.kernel.ticked system.kernel.ticked.tickCount) :=
        .of_order _ core.waitsNamed.ticked (ok.of_view (.of_tasks rfl rfl rfl)) (List.Perm.refl _)
      rw [sysTickHandler_running running]
      generalize schedulerExpireTimeouts system.kernel.ticked system.kernel.ticked.tickCount =
        expired at passed
      change expired.LendersOk ↔ _
      have graph : Edge (mutexUpstreamOwner expired) =
          (system.kernel.withoutExpired (system.kernel.tickCount + 1)).WaitsFor := by
        rw [← passed.inheritance.mutexes.waitsFor_eq]
        exact coreTicked.expiredOver_waitsFor passed
      have bases : expired.baseOf = system.kernel.baseOf := by
        funext task
        simp only [Kernel.baseOf, coreTicked.expiredOver_tasks passed task]
        exact Kernel.withoutExpired_base system.kernel.ticked _ task
      unfold Kernel.LendersOk Kernel.TickKeepsLenders
      rw [passed.inheritance.priorities.justified_iff (Finset.range expired.taskCount)
        passed.settling fun _ _ edge => Finset.mem_range.mpr
          (passed.inheritance.mutexes.upstream_lt edge).1, graph, bases]
      rfl

/-- A step keeps the priorities lent exactly when it keeps the lenders. -/
theorem lendersOk_step
    {cfg : Config} {after : System} {action : Action} {events : List Event}
    (core : Core system) (ok : InheritanceOk system.kernel) (lent : system.kernel.LendersOk)
    (step : system.step cfg action = some (after, events)) :
    after.kernel.LendersOk ↔ system.KeepsLenders action := by
  by_cases tick : action = .sysTick
  · subst tick
    cases System.stepped step with
    | sysTick => exact ok.lendersOk_sysTick core
    | user _ _ _ plain => exact absurd rfl plain
  · have permitted : system.KeepsLenders action := by
      cases action with
      | sysTick => exact absurd rfl tick
      | _ => trivial
    exact ⟨fun _ => permitted, fun _ => ok.lendersOk_changed lent (ok.change core step tick)⟩

end InheritanceOk

/-- Along every run whose ticks keep the lenders of surviving deadlocks, every priority is
the base priority of the task itself or of a task that still waits for it; and a step from
a state of such a run leads out of the property exactly when it is a tick that does not. -/
theorem inherited_priorities_lent
    {cfg : Config} {events : List Event} {system : System}
    (run : (forge cfg).Run System.KeepsLenders events system) :
    system.kernel.PrioritiesLent ∧
    ∀ action after emitted, (forge cfg).step system action = some (after, emitted) →
      (after.kernel.PrioritiesLent ↔ system.KeepsLenders action) := by
  have core := Core.of_run run
  have ok := InheritanceOk.of_run run
  have lent : system.kernel.LendersOk := by
    refine (run.stateInvariant (motive := fun system =>
        Core system ∧ InheritanceOk system.kernel ∧ system.kernel.LendersOk)
      ⟨Core.initial, InheritanceOk.initial, ?_⟩ ?_).2.2
    · exact (InheritanceOk.initial.lendersOk_stopped Core.initial rfl).1
    · rintro emitted middle next action ⟨core, ok, lent⟩ permitted stepped
      exact ⟨core.step stepped, ok.step core stepped,
        (ok.lendersOk_step core lent stepped).mpr permitted⟩
  refine ⟨ok.lendersOk_iff.mp lent, ?_⟩
  intro action after emitted stepped
  rw [← (ok.step core stepped).lendersOk_iff]
  exact ok.lendersOk_step core lent stepped

/-! ## Two deadlocks -/

/-- The owner that a task still waits for without the waits due at the next tick. -/
def Kernel.remainingOwner (kernel : Kernel) (task : Nat) : Option Nat :=
  if (kernel.tasks task).dueAt (kernel.tickCount + 1) then none
  else mutexUpstreamOwner kernel task

/-- That owner is the next one in the graph without the expiring waits. -/
theorem InheritanceOk.remainingOwner_iff
    {kernel : Kernel} (ok : InheritanceOk kernel) {waiter owner : Nat} :
    kernel.remainingOwner waiter = some owner ↔
      (kernel.withoutExpired (kernel.tickCount + 1)).WaitsFor waiter owner := by
  unfold Kernel.remainingOwner Kernel.WaitsFor
  by_cases due : (kernel.tasks waiter).dueAt (kernel.tickCount + 1) = true
  · rw [if_pos due, Kernel.withoutExpired_of_due due]
    constructor
    · rintro ⟨⟩
    · rintro ⟨_, blocked, _⟩
      exact absurd blocked (kernel.wakeState_ne_blocked waiter)
  · rw [if_neg due, Kernel.withoutExpired_of_early due]
    exact ok.mutexes.waitsFor_iff.symm

/-- Following at most `steps` of the remaining waits from `donor` leads to `task`. -/
def Kernel.lendsWithin (kernel : Kernel) (task : Nat) : Nat → Nat → Bool
  | 0, donor => donor == task
  | steps + 1, donor => donor == task ||
      (kernel.remainingOwner donor).any (kernel.lendsWithin task steps)

theorem InheritanceOk.reaches_of_lendsWithin
    {kernel : Kernel} (ok : InheritanceOk kernel) {task steps donor : Nat}
    (lends : kernel.lendsWithin task steps donor = true) :
    Relation.ReflTransGen (kernel.withoutExpired (kernel.tickCount + 1)).WaitsFor
      donor task := by
  induction steps generalizing donor with
  | zero =>
      rw [Kernel.lendsWithin, beq_iff_eq] at lends
      rw [lends]
  | succ steps inductionHypothesis =>
      rw [Kernel.lendsWithin, Bool.or_eq_true, beq_iff_eq, Option.any_eq_true] at lends
      rcases lends with rfl | ⟨owner, edge, further⟩
      · exact .refl
      · exact .head (ok.remainingOwner_iff.mp edge) (inductionHypothesis further)

/-- Every task that still waits when the next tick is over has a lender: a check that runs. -/
def System.findsLenders (system : System) (action : Action) : Prop :=
  action = .sysTick → ∀ task < system.kernel.taskCount,
    (system.kernel.remainingOwner task).isSome = true →
      ∃ donor < system.kernel.taskCount,
        system.kernel.lendsWithin task system.kernel.taskCount donor = true ∧
        (system.kernel.tasks donor).basePriority = (system.kernel.tasks task).priority

instance findsLendersDecidable (system : System) (action : Action) :
    Decidable (system.findsLenders action) :=
  inferInstanceAs (Decidable (_ → _))

/-- A tick that passes the check keeps the lenders. -/
theorem InheritanceOk.keepsLenders_of_findsLenders
    {system : System} (ok : InheritanceOk system.kernel) {action : Action}
    (finds : system.findsLenders action) : system.KeepsLenders action := by
  cases action with
  | sysTick =>
      intro task cycle
      obtain ⟨owner, edge, _⟩ := Relation.TransGen.head'_iff.mp cycle
      have waits := ok.remainingOwner_iff.mpr edge
      have registered : task < system.kernel.taskCount := by
        rw [Kernel.remainingOwner] at waits
        split at waits
        · cases waits
        · exact (ok.mutexes.upstream_lt waits).1
      obtain ⟨donor, _, lends, value⟩ := finds rfl task registered (by rw [waits]; rfl)
      exact ⟨donor, ok.reaches_of_lendsWithin lends, value⟩
  | _ => trivial

/-- The first two tasks lock two mutexes in opposite orders while the others sleep. -/
def lockInOppositeOrders : List Action :=
  [.invoke (.mutexLock (some 1) waitForever), .advance, .advance,
    .invoke (.taskSleep 1), .advance, .switchFrom 1,
    .invoke (.mutexLock (some 0) waitForever), .advance, .advance,
    .sysTick, .switchFrom 0, .advance,
    .invoke (.mutexLock (some 0) waitForever), .advance, .advance, .switchFrom 1,
    .invoke (.mutexLock (some 1) waitForever), .advance, .advance, .switchFrom 0,
    .sysTick, .sysTick, .pendSv 0x20000440#32, .advance]

/-- A third task then waits for one of the mutexes until tick 4. -/
def deadlockProgram : List Action :=
  Action.bootProgram [.mutexInit (some 0), .mutexInit (some 1)] [1, 2, 5] ++
    ([.invoke (.taskSleep 3), .advance, .switchFrom 2] : List Action) ++
    lockInOppositeOrders ++
    ([.invoke (.mutexLock (some 0) 1), .advance, .advance, .switchFrom 2] : List Action)

/-- Here two more tasks of one priority wait for it, the third one forever and the fourth one
until tick 4. -/
def lentDeadlockProgram : List Action :=
  Action.bootProgram [.mutexInit (some 0), .mutexInit (some 1)] [1, 2, 5, 5] ++
    ([.invoke (.taskSleep 3), .advance, .switchFrom 2,
      .invoke (.taskSleep 3), .advance, .switchFrom 3] : List Action) ++
    lockInOppositeOrders ++
    ([.invoke (.mutexLock (some 0) waitForever), .advance, .advance, .switchFrom 2, .advance,
      .invoke (.mutexLock (some 0) 1), .advance, .advance, .switchFrom 3] : List Action)

/-- The tick at which the fourth task gives up leaves the deadlock its other lender. -/
theorem timed_inversion_is_lent :
    ∃ events system, (forge Config.default).Run System.KeepsLenders events system ∧
      system.kernel.tickCount = 4 ∧ (system.kernel.tasks 3).waitResult = .timeout ∧
      Relation.TransGen system.kernel.WaitsFor 0 0 ∧
      (system.kernel.tasks 0).priority = 5 ∧ system.kernel.PrioritiesLent := by
  obtain ⟨events, system, run, checked⟩ :=
    Machine.RunFrom.exists_of_execFrom (forge Config.default) System.findsLenders System.boot
      (lentDeadlockProgram ++ [.sysTick])
      (fun _ system => decide (system.kernel.tickCount = 4 ∧
        (system.kernel.tasks 3).waitResult = .timeout ∧
        mutexUpstreamOwner system.kernel 0 = some 1 ∧
        mutexUpstreamOwner system.kernel 1 = some 0 ∧
        (system.kernel.tasks 0).priority = 5))
      (by decide +kernel)
  rw [decide_eq_true_eq] at checked
  obtain ⟨ticks, gaveUp, first, second, boosted⟩ := checked
  have lent : (forge Config.default).Run System.KeepsLenders events system :=
    run.mono_reached fun _ _ _ reached finds =>
      (InheritanceOk.of_run reached).keepsLenders_of_findsLenders finds
  have ok := InheritanceOk.of_run lent
  have cycle : Relation.TransGen system.kernel.WaitsFor 0 0 :=
    .head (ok.mutexes.waitsFor_iff.mpr first) (.single (ok.mutexes.waitsFor_iff.mpr second))
  exact ⟨events, system, lent, ticks, gaveUp, cycle, boosted,
    (inherited_priorities_lent lent).1⟩

/-- After the wait of the third task has expired the deadlocked tasks still carry its
priority. -/
theorem deadlock_keeps_lost_priority :
    ∃ events system, Run Config.default events system ∧ ¬system.kernel.PrioritiesLent := by
  obtain ⟨events, system, run, checked⟩ :=
    Machine.RunFrom.exists_of_execFrom (forge Config.default) Machine.anyStep System.boot
      (deadlockProgram ++ [.sysTick])
      (fun _ system => decide (system.kernel.taskCount = 3 ∧
        (system.kernel.tasks 0).priority = 5 ∧ (system.kernel.tasks 0).basePriority = 1 ∧
        (system.kernel.tasks 1).basePriority = 2 ∧ (system.kernel.tasks 2).state = .ready))
      (by decide +kernel)
  rw [decide_eq_true_eq] at checked
  obtain ⟨count, boosted, firstBase, secondBase, awake⟩ := checked
  refine ⟨events, system, run, fun lent => ?_⟩
  obtain ⟨donor, registered, reaches, value⟩ := lent 0 (by omega)
  rw [boosted] at value
  -- Only the third task has base priority 5, and it does not wait.
  obtain rfl : donor = 2 := by
    rw [count] at registered
    interval_cases donor
    · omega
    · omega
    · rfl
  rcases Relation.ReflTransGen.cases_head reaches with same | ⟨_, ⟨_, blocked, _⟩, _⟩
  · omega
  · rw [awake] at blocked
    cases blocked

end ForgeKernel
