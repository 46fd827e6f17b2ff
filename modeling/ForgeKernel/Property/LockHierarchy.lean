import ForgeKernel.Library.Ranking
import ForgeKernel.Property.InheritedPriorities
import ForgeKernel.Property.MutexLedger

/-!
# A lock hierarchy excludes deadlock

Nothing in `mutex.c` prevents two tasks from waiting for each other.  When every
task locks mutexes in the order of one list, the waits-for graph has no cycle in
any reachable state, whatever the interleaving, the handoffs and the timeouts.
The order is checked when the call is made, against the mutexes that the caller
owns at that moment.
-/

namespace ForgeKernel

open Inheritance Machines Ranking

/-- The mutex that a call about to be made would lock. -/
def Action.locked : Action → Option Nat
  | .invoke (.mutexLock mutex _) => mutex
  | _ => none

/-- A lock names a mutex of the hierarchy that comes after every mutex its caller
owns. -/
def LocksInOrder (hierarchy : List Nat) (system : System) (action : Action) : Prop :=
  ∀ mutex ∈ action.locked, mutex ∈ hierarchy ∧ ∀ held ∈ hierarchy,
    (system.kernel.mutexes held).owner.map Thread.task = system.activeThread →
      hierarchy.idxOf held < hierarchy.idxOf mutex

instance locksInOrderDecidable (hierarchy : List Nat) (system : System) (action : Action) :
    Decidable (LocksInOrder hierarchy system action) :=
  inferInstanceAs (Decidable (∀ mutex ∈ action.locked, _ ∧ ∀ held ∈ hierarchy, _ → _))

/-- From its call to its return a lock names a mutex of the hierarchy above all
those that the trace says its caller holds. -/
structure HierarchyOk (hierarchy : List Nat) (events : List Event) (system : System) :
    Prop where
  core : Core system
  ledger : ∀ mutex, LedgerOk mutex events system
  held : ∀ task mutex, holds mutex task events = true → mutex ∈ hierarchy
  named : ∀ task mutex ticks point,
    system.frames (.task task) = .inCall (.mutexLock (some mutex) ticks) point →
      mutex ∈ hierarchy
  ordered : ∀ task mutex ticks point,
    system.frames (.task task) = .inCall (.mutexLock (some mutex) ticks) point →
      ∀ other, holds other task events = true → hierarchy.idxOf other < hierarchy.idxOf mutex

namespace HierarchyOk

variable {hierarchy : List Nat} {events : List Event} {system : System}

theorem initial : HierarchyOk hierarchy [] System.boot where
  core := Core.initial
  ledger _ := LedgerOk.initial
  held _ _ entry := absurd entry Bool.false_ne_true
  named _ _ _ _ inCall := absurd inCall (by simp [System.boot])
  ordered _ _ _ _ inCall := absurd inCall (by simp [System.boot])

/-- Only the frame and the entries of one thread change in a step. -/
theorem moved
    {after : System} {emitted : List Event} {thread : Thread} {frame : Frame}
    (ok : HierarchyOk hierarchy events system)
    (core : Core after) (ledger : ∀ mutex, LedgerOk mutex (events ++ emitted) after)
    (frames : after.frames = Function.update system.frames thread frame)
    (foreign : ∀ task, thread ≠ .task task → ∀ call reply,
      Event.returned (.task task) call reply ∉ emitted)
    (own : ∀ task, thread = .task task →
      (∀ mutex, holds mutex task (events ++ emitted) = true → mutex ∈ hierarchy) ∧
      ∀ mutex ticks point, frame = .inCall (.mutexLock (some mutex) ticks) point →
        mutex ∈ hierarchy ∧ ∀ other, holds other task (events ++ emitted) = true →
          hierarchy.idxOf other < hierarchy.idxOf mutex) :
    HierarchyOk hierarchy (events ++ emitted) after := by
  have kept : ∀ task mutex, thread ≠ .task task →
      holds mutex task (events ++ emitted) = holds mutex task events := by
    intro task mutex other
    rw [holds_append]
    exact foldl_ledger_of_other (foreign task other) _
  refine ⟨core, ledger, fun task mutex entry => ?_, fun task mutex ticks point inCall => ?_,
    fun task mutex ticks point inCall other entry => ?_⟩
  · by_cases self : thread = .task task
    · exact (own task self).1 mutex entry
    · exact ok.held task mutex (kept task mutex self ▸ entry)
  · by_cases self : thread = .task task
    · rw [frames, ← self, Function.update_self] at inCall
      exact ((own task self).2 mutex ticks point inCall).1
    · rw [frames, Function.update_of_ne (Ne.symm self)] at inCall
      exact ok.named task mutex ticks point inCall
  · by_cases self : thread = .task task
    · rw [frames, ← self, Function.update_self] at inCall
      exact ((own task self).2 mutex ticks point inCall).2 other entry
    · rw [frames, Function.update_of_ne (Ne.symm self)] at inCall
      exact ok.ordered task mutex ticks point inCall other (kept task other self ▸ entry)

/-- Only a successful lock adds an entry to the ledger. -/
theorem ledger_gains
    {mutex task : Nat} {thread : Thread} {call : Call} {value : Reply} {before : Bool}
    (entry : (Event.returned thread call value).ledger mutex task before = true) :
    before = true ∨ ∃ ticks, thread = .task task ∧ call = .mutexLock (some mutex) ticks := by
  unfold Event.ledger at entry
  split at entry
  · rename_i caller locked ticks returned
    obtain ⟨rfl, rfl, _⟩ := Event.returned.inj returned
    split at entry
    · rename_i same
      obtain ⟨rfl, rfl⟩ := same
      exact Or.inr ⟨ticks, rfl, rfl⟩
    · exact Or.inl entry
  · split at entry
    · exact absurd entry Bool.false_ne_true
    · exact Or.inl entry
  · exact Or.inl entry

theorem step
    {cfg : Config} {after : System} {action : Action} {emitted : List Event}
    (ok : HierarchyOk hierarchy events system)
    (allowed : LocksInOrder hierarchy system action)
    (step : system.step cfg action = some (after, emitted)) :
    HierarchyOk hierarchy (events ++ emitted) after := by
  have core := ok.core.step step
  have ledger := fun mutex => (ok.ledger mutex).step ok.core step
  cases System.stepped step with
  | sysTick _ | pendSv _ _ | user _ _ _ _ _ =>
      rw [List.append_nil]
      simp only [List.append_nil] at ledger
      exact ⟨core, ledger, ok.held, ok.named, ok.ordered⟩
  | @invoke thread call active user =>
      have kept : ∀ task mutex, holds mutex task (events ++ [.called thread call]) =
          holds mutex task events := fun task mutex => by
        rw [holds_append]
        exact foldl_ledger_of_other (by simp) _
      refine ok.moved core ledger rfl (by simp) fun task self => ⟨fun mutex entry => ?_,
        fun mutex ticks point inCall => ⟨?_, fun other entry => ?_⟩⟩
      · exact ok.held task mutex (kept task mutex ▸ entry)
      · obtain ⟨rfl, _⟩ := Frame.inCall.inj inCall
        exact (allowed mutex rfl).1
      · obtain ⟨rfl, _⟩ := Frame.inCall.inj inCall
        rw [kept] at entry
        -- Outside its calls the caller owns what the trace says it holds.
        have owned := ((ok.ledger other).owner_iff task).mpr (Or.inl entry)
        refine (allowed mutex rfl).2 other (ok.held task other entry) ?_
        rw [owned, active, self]
        rfl
  | @advance thread call point result active inCall stepped =>
      cases outcome : result.outcome with
      | goto next =>
          rw [outcome] at core ledger
          have silent : ∀ task call' reply, Event.returned (.task task) call' reply ∉
              observe system thread call point result ++
                (Outcome.goto next).returns thread call :=
            fun _ _ _ present => (List.mem_append.mp present).elim returned_notMem_observe
              (by simp [Outcome.returns])
          refine ok.moved core ledger rfl (fun task _ => silent task) fun task self => ?_
          have kept : ∀ mutex, holds mutex task (events ++ (observe system thread call point
              result ++ (Outcome.goto next).returns thread call)) =
                holds mutex task events := fun mutex => by
            rw [holds_append]
            exact foldl_ledger_of_other (silent task) _
          rw [self] at inCall
          refine ⟨fun mutex entry => ok.held task mutex (kept mutex ▸ entry),
            fun mutex ticks later same => ?_⟩
          obtain ⟨rfl, _⟩ := Frame.inCall.inj same
          exact ⟨ok.named task mutex ticks point inCall, fun other entry =>
            ok.ordered task mutex ticks point inCall other (kept other ▸ entry)⟩
      | reply value =>
          rw [outcome] at core ledger
          refine ok.moved core ledger rfl (fun task other call' reply present => ?_)
            fun task self => ⟨fun mutex entry => ?_,
              fun _ _ _ user => absurd user (by simp [Outcome.frame])⟩
          · rcases List.mem_append.mp present with early | late
            · exact returned_notMem_observe early
            · obtain ⟨same, _⟩ := Event.returned.inj (List.mem_singleton.mp late)
              exact other same.symm
          · rw [holds_append, List.foldl_append,
              foldl_ledger_of_other fun _ _ => returned_notMem_observe] at entry
            rcases ledger_gains entry with already | ⟨ticks, _, rfl⟩
            · exact ok.held task mutex already
            · rw [self] at inCall
              exact ok.named task mutex ticks point inCall

theorem of_run
    {cfg : Config}
    (run : (forge cfg).Run (LocksInOrder hierarchy) events system) :
    HierarchyOk hierarchy events system :=
  run.invariant (motive := fun events system => HierarchyOk hierarchy events system) initial
    fun _ _ _ _ _ ok allowed stepped => ok.step allowed stepped

/-- Where a task stands in the hierarchy: at the mutex that it waits for, or past
the end when it waits for none. -/
def height (hierarchy : List Nat) (kernel : Kernel) (task : Nat) : Nat :=
  ((kernel.tasks task).mutexWait.map hierarchy.idxOf).getD hierarchy.length

theorem height_le (kernel : Kernel) (task : Nat) :
    height hierarchy kernel task ≤ hierarchy.length := by
  unfold height
  cases (kernel.tasks task).mutexWait with
  | none => exact le_rfl
  | some mutex => exact List.idxOf_le_length

/-- A waiter is inside its lock call and has been granted nothing. -/
theorem waits
    (ok : HierarchyOk hierarchy events system) {task mutex : Nat}
    (waiting : (system.kernel.tasks task).mutexWait = some mutex) :
    mutex ∈ hierarchy ∧ ∀ other, (system.kernel.mutexes other).owner = some task →
      hierarchy.idxOf other < hierarchy.idxOf mutex := by
  obtain ⟨blocked, reason, object⟩ := Task.mutexWait_eq_some.mp waiting
  obtain ⟨call, point, inCall, _, wait⟩ := (ok.core.slots task).suspended blocked
  rw [reason, object] at wait
  obtain ⟨named, ticks, rfl, same⟩ := Call.wait_mutex wait
  obtain rfl : mutex = named := by simpa using same
  refine ⟨ok.named task mutex ticks point inCall, fun other owned => ?_⟩
  rcases ((ok.ledger other).owner_iff task).mp owned with entry | ⟨_, flying⟩
  · exact ok.ordered task mutex ticks point inCall other entry
  · obtain ⟨call, waitingView, _⟩ := (ok.core.slots task).view_of_blocked blocked
    rw [System.view, waitingView] at flying
    exact absurd flying (by simp)

/-- Every wait leads to a task that waits further up, or for no mutex. -/
theorem climbs (ok : HierarchyOk hierarchy events system) :
    Climbs system.kernel.WaitsFor (height hierarchy system.kernel) := by
  rintro waiter owner ⟨mutex, blocked, reason, _, object, held⟩
  have waiting := Task.mutexWait_eq_some.mpr ⟨blocked, reason, object⟩
  have listed := (ok.waits waiting).1
  rw [height, height, waiting]
  cases above : (system.kernel.tasks owner).mutexWait with
  | none => exact List.idxOf_lt_length_iff.mpr listed
  | some next => exact (ok.waits above).2 mutex held

end HierarchyOk

/-- Under a lock hierarchy no run deadlocks on mutexes: the waits-for graph has no
cycle and no chain longer than the hierarchy, every waiter is held up by a task that
waits for no mutex, and effective priorities are exactly those of the transitive
waiters. -/
theorem lock_hierarchy_excludes_deadlock
    {cfg : Config} {hierarchy : List Nat} {events : List Event} {system : System}
    (run : (forge cfg).Run (LocksInOrder hierarchy) events system) :
    (∀ task, ¬Relation.TransGen system.kernel.WaitsFor task task) ∧
    (∀ task chain, List.IsChain system.kernel.WaitsFor (task :: chain) →
      chain.length ≤ hierarchy.length) ∧
    (∀ task, ∃ holder, Relation.ReflTransGen system.kernel.WaitsFor task holder ∧
      ∀ owner, ¬system.kernel.WaitsFor holder owner) ∧
    (∀ task < system.kernel.taskCount,
      IsGreatest {base | ∃ waiter < system.kernel.taskCount,
        Relation.ReflTransGen system.kernel.WaitsFor waiter task ∧
          (system.kernel.tasks waiter).basePriority = base}
        (system.kernel.tasks task).priority) := by
  have climbs := (HierarchyOk.of_run run).climbs
  have bounded : ∀ task, HierarchyOk.height hierarchy system.kernel task ≤ hierarchy.length :=
    HierarchyOk.height_le system.kernel
  refine ⟨climbs.acyclic, fun task chain linked => ?_, climbs.exists_terminal bounded,
    fun task registered => ?_⟩
  · exact (Nat.le_add_left _ _).trans (climbs.chain_length_le bounded linked)
  · exact (InheritanceOk.of_run run).isGreatest_transitive climbs.acyclic registered

/-- The first task locks mutex 1; the second one locks mutex 0 and waits for mutex 1;
the third one waits for mutex 0. -/
def hierarchyProgram : List Action :=
  Action.bootProgram [.mutexInit (some 0), .mutexInit (some 1)] [1, 2, 5] ++
    ([.invoke (.taskSleep 2), .advance, .switchFrom 2,
       .invoke (.taskSleep 1), .advance, .switchFrom 1,
       .invoke (.mutexLock (some 1) 0), .advance, .advance,
       .sysTick, .switchFrom 0, .advance,
       .invoke (.mutexLock (some 0) waitForever), .advance, .advance,
       .invoke (.mutexLock (some 1) waitForever), .advance, .advance, .switchFrom 1,
       .sysTick, .switchFrom 0, .advance,
       .invoke (.mutexLock (some 0) waitForever), .advance, .advance, .switchFrom 2] :
        List Action)

/-- A chain as long as the hierarchy, in a run that locks in order. -/
theorem hierarchy_chain_inherits :
    ∃ events system, (forge Config.default).Run (LocksInOrder [0, 1]) events system ∧
      system.kernel.WaitsFor 2 1 ∧ system.kernel.WaitsFor 1 0 ∧
      (system.kernel.tasks 0).priority = 5 ∧
      ∀ task, ¬Relation.TransGen system.kernel.WaitsFor task task := by
  obtain ⟨events, system, run, checked⟩ :=
    Machine.RunFrom.exists_of_execFrom (forge Config.default) (LocksInOrder [0, 1])
      System.boot hierarchyProgram (fun _ system => decide (
        (system.kernel.tasks 2).mutexWait = some 0 ∧
        (system.kernel.tasks 1).mutexWait = some 1 ∧
        (system.kernel.mutexes 0).owner = some 1 ∧ (system.kernel.mutexes 1).owner = some 0 ∧
        (system.kernel.tasks 0).priority = 5))
      (by decide +kernel)
  rw [decide_eq_true_eq] at checked
  obtain ⟨third, second, lower, upper, boosted⟩ := checked
  have ok := InheritanceOk.of_run run
  have edge : ∀ waiter mutex owner, (system.kernel.tasks waiter).mutexWait = some mutex →
      (system.kernel.mutexes mutex).owner = some owner → system.kernel.WaitsFor waiter owner :=
    fun waiter mutex owner waits held =>
      ok.mutexes.waitsFor_iff.mpr (ok.mutexes.upstream_iff.mpr ⟨mutex, waits, held⟩)
  exact ⟨events, system, run, edge 2 0 1 third lower, edge 1 1 0 second upper, boosted,
    (lock_hierarchy_excludes_deadlock run).1⟩

end ForgeKernel
