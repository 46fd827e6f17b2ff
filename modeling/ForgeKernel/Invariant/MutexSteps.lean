import ForgeKernel.Invariant.Mutexes

/-!
# Inherited priorities in every reachable state

One lemma for each operation that changes the waits-for graph: acquiring,
waiting, releasing, handing over, and the expiry of a mutex wait.  All other
steps leave the graph alone.
-/

namespace ForgeKernel

open Inheritance Machines

/-! ## Writing one mutex -/

section Mutexes

variable {kernel : Kernel} {index : Nat}

/-- Priorities do not matter to the first invariant. -/
theorem MutexOk.withPriorities (ok : MutexOk kernel) (priorities : Nat → Nat) :
    MutexOk (kernel.withPriorities priorities) :=
  ok.of_view (fun _ => rfl) (fun _ _ => rfl) le_rfl rfl

/-- A mutex on which nobody waits may change hands freely. -/
theorem MutexOk.setMutex
    (ok : MutexOk kernel)
    (unwanted : ∀ task, (kernel.tasks task).mutexWait ≠ some index)
    {mutex : Mutex}
    (registered : ∀ owner, mutex.owner = some owner → owner < kernel.taskCount) :
    MutexOk (kernel.setMutex index mutex) where
  owners other owner held := by
    by_cases same : other = index
    · subst same
      simp only [Kernel.setMutex, Function.update_self] at held
      exact registered owner held
    · simp only [Kernel.setMutex, Function.update_of_ne same] at held
      exact ok.owners other owner held
  waiters task other waiting := by
    have different : other ≠ index := by
      rintro rfl
      exact unwanted task waiting
    simp only [Kernel.setMutex, Function.update_of_ne different]
    exact ok.waiters task other waiting

/-- Writing a mutex for which nobody waits keeps the graph. -/
theorem mutexUpstreamOwner_setMutex
    (unwanted : ∀ task, (kernel.tasks task).mutexWait ≠ some index) (mutex : Mutex) :
    mutexUpstreamOwner (kernel.setMutex index mutex) = mutexUpstreamOwner kernel := by
  funext task
  rw [mutexUpstreamOwner_eq, mutexUpstreamOwner_eq]
  change (kernel.tasks task).mutexWait.bind _ = _
  cases waits : (kernel.tasks task).mutexWait with
  | none => rfl
  | some other =>
      have different : other ≠ index := by
        rintro rfl
        exact unwanted task waits
      simp only [Option.bind_some, Kernel.setMutex, Function.update_of_ne different]

/-- A free mutex has no waiter. -/
theorem MutexOk.unwanted_of_free
    (ok : MutexOk kernel) (free : (kernel.mutexes index).owner = none) (task : Nat) :
    (kernel.tasks task).mutexWait ≠ some index := by
  intro waits
  obtain ⟨_, _, _, owner, held, _⟩ := ok.waiters task index waits
  exact absurd (free.symm.trans held) (by simp)

/-- Waiting on a mutex in the sense of the waiter scan. -/
theorem MutexOk.waitsOn_iff (ok : MutexOk kernel) {task : Nat} :
    Task.waitsOn .mutex (.mutex index) (kernel.tasks task) = true ↔
      (kernel.tasks task).mutexWait = some index := by
  rw [Task.waitsOn_iff, Task.mutexWait_eq_some]
  constructor
  · rintro ⟨blocked, reason, _, object⟩
    exact ⟨blocked, reason, object⟩
  · rintro ⟨blocked, reason, object⟩
    have waits := Task.mutexWait_eq_some.mpr ⟨blocked, reason, object⟩
    exact ⟨blocked, reason, (ok.waiters task index waits).2.1, object⟩

/-- The waiter scan found nobody. -/
theorem MutexOk.unwanted_of_nobody
    (ok : MutexOk kernel)
    (nobody : ∀ waiter < kernel.taskCount,
      Task.waitsOn .mutex (.mutex index) (kernel.tasks waiter) = false) (task : Nat) :
    (kernel.tasks task).mutexWait ≠ some index := by
  intro waits
  have small := (ok.waiters task index waits).1
  rw [← ok.waitsOn_iff, nobody task small] at waits
  exact absurd waits Bool.false_ne_true

/-- So it keeps both invariants. -/
theorem InheritanceOk.setMutex
    (ok : InheritanceOk kernel)
    (unwanted : ∀ task, (kernel.tasks task).mutexWait ≠ some index)
    {mutex : Mutex}
    (registered : ∀ owner, mutex.owner = some owner → owner < kernel.taskCount) :
    InheritanceOk (kernel.setMutex index mutex) where
  mutexes := ok.mutexes.setMutex unwanted registered
  priorities := by
    unfold PriorityOk
    rw [mutexUpstreamOwner_setMutex unwanted]
    exact ok.priorities

end Mutexes

/-! ## Recomputing a chain -/

/-- Only edges into `start` have gone, and no new edge leads from a higher priority to a
lower one. -/
structure Relinked (kernel after : Kernel) (start : Nat) : Prop where
  mutexes : MutexOk after
  bases : after.baseOf = kernel.baseOf
  priorities : after.priorityOf = kernel.priorityOf
  start_lt : start < after.taskCount
  rises : ∀ task owner, mutexUpstreamOwner after task = some owner →
    kernel.priorityOf task ≤ kernel.priorityOf owner
  keeps : ∀ task owner, owner ≠ start → mutexUpstreamOwner kernel task = some owner →
    mutexUpstreamOwner after task = some owner

namespace Relinked

variable {kernel after : Kernel} {start : Nat}

/-- Along the remaining edges priorities still do not decrease. -/
theorem bounded (relinked : Relinked kernel after start) (ok : InheritanceOk kernel) :
    Bounded (mutexUpstreamOwner after) kernel.baseOf kernel.priorityOf :=
  ⟨ok.priorities.bounded.base_le, relinked.rises⟩

/-- Recomputing from `start` restores consistency. -/
theorem recomputed (relinked : Relinked kernel after start) (ok : InheritanceOk kernel) :
    InheritanceOk (after.recomputed start) := by
  refine ⟨relinked.mutexes.withPriorities _,
    relinked.mutexes.recomputed_priorityOk relinked.start_lt ?_ ?_⟩
  · rw [relinked.bases, relinked.priorities]
    exact relinked.bounded ok
  · rw [relinked.bases, relinked.priorities]
    intro other different
    refine ⟨ok.priorities.bounded.base_le other,
      fun waiter edge => relinked.rises waiter other edge, ?_⟩
    rcases (ok.priorities other).attained with own | ⟨waiter, edge, equal⟩
    · exact Or.inl own
    · exact Or.inr ⟨waiter, relinked.keeps waiter other different edge, equal⟩

/-- Recomputing raises no priority and leaves those on a remaining cycle. -/
theorem settling (relinked : Relinked kernel after start) (ok : InheritanceOk kernel) :
    Settling (mutexUpstreamOwner after) kernel.priorityOf
      (after.recomputed start).priorityOf := by
  have evaluates := relinked.mutexes.effectivePriority_isEffective
  rw [relinked.bases] at evaluates
  have settled := recompute_settling evaluates (relinked.bounded ok) after.taskCount start
    (.refl kernel.priorityOf)
  rw [← relinked.priorities] at settled ⊢
  exact settled

end Relinked

section Releases

variable {kernel : Kernel} {index : Nat}

/-- Releasing a mutex on which nobody waits. -/
theorem InheritanceOk.releases
    (ok : InheritanceOk kernel) {current : Nat}
    (held : (kernel.mutexes index).owner = some current)
    (nobody : ∀ waiter < kernel.taskCount,
      Task.waitsOn .mutex (.mutex index) (kernel.tasks waiter) = false) :
    Relinked kernel (kernel.setMutex index { kernel.mutexes index with owner := none })
      current := by
  have unwanted := ok.mutexes.unwanted_of_nobody nobody
  refine ⟨?_, rfl, rfl, ok.mutexes.owners index current held, ?_, ?_⟩
  · exact ok.mutexes.setMutex unwanted fun owner same => absurd same (by simp)
  · rw [mutexUpstreamOwner_setMutex unwanted]
    exact ok.priorities.bounded.waiter_le
  · rw [mutexUpstreamOwner_setMutex unwanted]
    exact fun _ _ _ edge => edge

end Releases

/-! ## Adding and removing waiters -/

section Waiters

variable {kernel : Kernel} {index : Nat}

/-- A task that blocks on a mutex waits for that mutex; the others wait as before. -/
theorem Kernel.blockTask_mutexWait
    (kernel : Kernel) (current : Nat) (index : Nat) (ticks : Word) (trace : Trace) :
    (fun task => ((kernel.blockTask current .mutex (some (.mutex index)) ticks
        trace).tasks task).mutexWait) =
      Function.update (fun task => (kernel.tasks task).mutexWait) current (some index) := by
  funext task
  by_cases self : task = current
  · subst self
    simp [blockTask, Task.beginWait, Task.mutexWait]
  · simp [blockTask, self]

theorem Kernel.blockTask_baseOf
    (kernel : Kernel) (current : Nat) (reason : WaitReason) (object : Option ObjectRef)
    (ticks : Word) (trace : Trace) :
    (kernel.blockTask current reason object ticks trace).baseOf = kernel.baseOf := by
  funext task
  by_cases self : task = current
  · subst self
    simp [blockTask, Task.beginWait, baseOf]
  · simp [blockTask, self, baseOf]

/-- Waiting adds one edge. -/
theorem mutexUpstreamOwner_blockTask
    {current owner : Nat} {ticks : Word} {trace : Trace}
    (initialized : (kernel.mutexes index).magic = mutexMagic)
    (held : (kernel.mutexes index).owner = some owner) (different : owner ≠ current) :
    mutexUpstreamOwner (kernel.blockTask current .mutex (some (.mutex index)) ticks trace) =
      Function.update (mutexUpstreamOwner kernel) current (some owner) := by
  have waits := congrFun (kernel.blockTask_mutexWait current index ticks trace)
  funext task
  by_cases self : task = current
  · subst self
    rw [Function.update_self, mutexUpstreamOwner_eq, waits, Function.update_self]
    simp [Kernel.blockTask, initialized, held, different]
  · rw [Function.update_of_ne self, mutexUpstreamOwner_eq, mutexUpstreamOwner_eq, waits,
      Function.update_of_ne self]
    rfl

/-- A running task waits for nobody. -/
theorem Kernel.Runs.upstream {current : Nat} (runs : kernel.Runs current) :
    mutexUpstreamOwner kernel current = none := by
  rw [mutexUpstreamOwner_eq, Task.mutexWait_of_ne_blocked (by simp [runs.state])]
  rfl

theorem Kernel.Runs.setMutex
    {current : Nat} (runs : kernel.Runs current) {mutex : Mutex} :
    (kernel.setMutex index mutex).Runs current :=
  ⟨runs.currentTask, runs.running, runs.state⟩

/-- The new wait donates along its edge. -/
theorem InheritanceOk.locks
    (ok : InheritanceOk kernel) {current owner : Nat} {ticks : Word} {trace : Trace}
    (registered : current < kernel.taskCount) (runs : kernel.Runs current)
    (initialized : (kernel.mutexes index).magic = mutexMagic)
    (held : (kernel.mutexes index).owner = some owner) (different : owner ≠ current) :
    InheritanceOk ((kernel.blockTask current .mutex (some (.mutex index)) ticks trace).donated
      owner (kernel.priorityOf current)) := by
  have waits := congrFun (kernel.blockTask_mutexWait current index ticks trace)
  have bases := kernel.blockTask_baseOf current .mutex (some (.mutex index)) ticks trace
  have priorities := kernel.blockTask_priorityOf current .mutex (some (.mutex index)) ticks trace
  have added :
      mutexUpstreamOwner (kernel.blockTask current .mutex (some (.mutex index)) ticks trace) =
        Function.update (mutexUpstreamOwner kernel) current (some owner) :=
    mutexUpstreamOwner_blockTask initialized held different
  have pending : ((kernel.blockTask current .mutex (some (.mutex index)) ticks trace).tasks
      current).waitResult = .pending := by
    simp [Kernel.blockTask, Task.beginWait]
  have others : ∀ task, task ≠ current →
      (kernel.blockTask current .mutex (some (.mutex index)) ticks trace).tasks task =
        kernel.tasks task := by
    intro task other
    simp [Kernel.blockTask, other]
  have control : (kernel.blockTask current .mutex (some (.mutex index)) ticks
      trace).taskCount = kernel.taskCount ∧
      (kernel.blockTask current .mutex (some (.mutex index)) ticks trace).mutexes =
        kernel.mutexes := ⟨rfl, rfl⟩
  generalize kernel.blockTask current .mutex (some (.mutex index)) ticks trace = blocked at *
  obtain ⟨taskCount, mutexes⟩ := control
  have mutexOk : MutexOk blocked := by
    refine ⟨?_, ?_⟩
    · intro other holder same
      rw [taskCount]
      exact ok.mutexes.owners other holder (mutexes ▸ same)
    · intro task other waiting
      rw [taskCount, mutexes]
      rw [waits] at waiting
      by_cases self : task = current
      · subst self
        rw [Function.update_self] at waiting
        obtain rfl := Option.some.inj waiting
        exact ⟨registered, pending, initialized, owner, held, different⟩
      · rw [Function.update_of_ne self] at waiting
        rw [others task self]
        exact ok.mutexes.waiters task other waiting
  refine ⟨mutexOk.withPriorities _, ?_⟩
  change Consistent (mutexUpstreamOwner blocked) blocked.baseOf
    (donate (mutexUpstreamOwner blocked) blocked.taskCount owner (kernel.priorityOf current)
      blocked.priorityOf)
  rw [bases, priorities, taskCount]
  exact donate_consistent ok.priorities runs.upstream added
    (Finset.mem_range.mpr (ok.mutexes.owners index owner held))
    (fun _ _ edge => Finset.mem_range.mpr (ok.mutexes.upstream_lt edge).2)
    (Finset.card_range kernel.taskCount).le

/-- A task that is woken waits no longer; the others wait as before. -/
theorem Kernel.wakeTask_mutexWait
    (kernel : Kernel) (waiter : Nat) (result : WaitResult) (trace : Trace) (task : Nat) :
    ((kernel.wakeTask waiter result trace).tasks task).mutexWait =
      if task = waiter then none else (kernel.tasks task).mutexWait := by
  split
  · rename_i self
    subst self
    apply Task.mutexWait_of_ne_blocked
    simp only [wakeTask, Function.update_self]
    exact kernel.wakeState_ne_blocked task
  · rename_i other
    simp [wakeTask, other]

theorem Kernel.wakeTask_baseOf
    (kernel : Kernel) (waiter : Nat) (result : WaitResult) (trace : Trace) :
    (kernel.wakeTask waiter result trace).baseOf = kernel.baseOf := by
  funext task
  by_cases self : task = waiter
  · subst self
    simp [wakeTask, Task.endWait, baseOf]
  · simp [wakeTask, self, baseOf]

/-- Handing a mutex to its best waiter moves the other waiters to the new owner. -/
theorem InheritanceOk.hands
    (ok : InheritanceOk kernel) {current waiter : Nat} {trace : Trace}
    (initialized : (kernel.mutexes index).magic = mutexMagic)
    (held : (kernel.mutexes index).owner = some current)
    (waiter_lt : waiter < kernel.taskCount)
    (waits : Task.waitsOn .mutex (.mutex index) (kernel.tasks waiter) = true)
    (highest : ∀ other < kernel.taskCount,
      Task.waitsOn .mutex (.mutex index) (kernel.tasks other) = true →
        kernel.priorityOf other ≤ kernel.priorityOf waiter) :
    Relinked kernel ((kernel.setMutex index
      { kernel.mutexes index with owner := some waiter }).wakeTask waiter .signaled trace)
        current := by
  rw [ok.mutexes.waitsOn_iff] at waits
  generalize marked : kernel.setMutex index
    { kernel.mutexes index with owner := some waiter } = handed
  have tasks : handed.tasks = kernel.tasks := by rw [← marked]; rfl
  have taskCount : handed.taskCount = kernel.taskCount := by rw [← marked]; rfl
  have own : handed.mutexes index = ⟨mutexMagic, some waiter⟩ := by
    rw [← marked, ← initialized]
    exact Function.update_self ..
  have others : ∀ other, other ≠ index → handed.mutexes other = kernel.mutexes other := by
    intro other different
    rw [← marked]
    exact Function.update_of_ne different ..
  have waiting : ∀ task other,
      ((handed.wakeTask waiter .signaled trace).tasks task).mutexWait = some other →
        task ≠ waiter ∧ (kernel.tasks task).mutexWait = some other := by
    intro task other
    rw [Kernel.wakeTask_mutexWait, tasks]
    split
    · exact fun absurdity => absurd absurdity (by simp)
    · rename_i different
      exact fun same => ⟨different, same⟩
  have mutexes : MutexOk (handed.wakeTask waiter .signaled trace) := by
    refine ⟨?_, ?_⟩
    · intro other owner same
      change (handed.mutexes other).owner = some owner at same
      change owner < handed.taskCount
      rw [taskCount]
      by_cases this : other = index
      · rw [this, own] at same
        exact Option.some.inj same ▸ waiter_lt
      · rw [others other this] at same
        exact ok.mutexes.owners other owner same
    · intro task other waitsOther
      obtain ⟨different, before⟩ := waiting task other waitsOther
      obtain ⟨small, pending, magic, owner, ownedBy, notSelf⟩ :=
        ok.mutexes.waiters task other before
      change task < handed.taskCount ∧ _ ∧ (handed.mutexes other).magic = mutexMagic ∧
        ∃ owner, (handed.mutexes other).owner = some owner ∧ owner ≠ task
      refine ⟨taskCount ▸ small, ?_, ?_⟩
      · simp only [Kernel.wakeTask, Function.update_of_ne different, tasks]
        exact pending
      · by_cases this : other = index
        · rw [this, own]
          exact ⟨rfl, waiter, rfl, Ne.symm different⟩
        · rw [others other this]
          exact ⟨magic, owner, ownedBy, notSelf⟩
  have bases : (handed.wakeTask waiter .signaled trace).baseOf = kernel.baseOf := by
    rw [Kernel.wakeTask_baseOf]
    funext task
    simp only [Kernel.baseOf, tasks]
  have priorities : (handed.wakeTask waiter .signaled trace).priorityOf = kernel.priorityOf := by
    rw [Kernel.wakeTask_priorityOf]
    exact Kernel.priorityOf_congr tasks
  refine ⟨mutexes, bases, priorities,
    (taskCount ▸ ok.mutexes.owners index current held : current < handed.taskCount), ?_, ?_⟩
  · intro task owner edge
    obtain ⟨other, waitsOther, ownedBy⟩ := mutexes.upstream_iff.mp edge
    obtain ⟨_, before⟩ := waiting task other waitsOther
    change (handed.mutexes other).owner = some owner at ownedBy
    by_cases this : other = index
    · rw [this, own] at ownedBy
      obtain rfl := Option.some.inj ownedBy
      rw [this] at before
      exact highest task (ok.mutexes.waiters task index before).1
        (ok.mutexes.waitsOn_iff.mpr before)
    · rw [others other this] at ownedBy
      exact ok.priorities.bounded.waiter_le task owner
        (ok.mutexes.upstream_iff.mpr ⟨other, before, ownedBy⟩)
  · intro task owner different edge
    obtain ⟨other, before, ownedBy⟩ := ok.mutexes.upstream_iff.mp edge
    have this : other ≠ index := by
      rintro rfl
      exact different (Option.some.inj (ownedBy.symm.trans held))
    have notWaiter : task ≠ waiter := by
      rintro rfl
      exact this (Option.some.inj (before.symm.trans waits))
    refine mutexes.upstream_iff.mpr ⟨other, ?_, ?_⟩
    · rw [Kernel.wakeTask_mutexWait, if_neg notWaiter, tasks]
      exact before
    · change (handed.mutexes other).owner = some owner
      rw [others other this]
      exact ownedBy

/-- The removal of a waiter recomputes the chain of the owner. -/
theorem mutexWaiterRemovedLocked_held
    {owner : Nat}
    (magic : (kernel.mutexes index).magic = mutexMagic)
    (held : (kernel.mutexes index).owner = some owner) :
    mutexWaiterRemovedLocked kernel index = kernel.recomputed owner := by
  unfold mutexWaiterRemovedLocked
  rw [if_neg (not_not.mpr magic), held]
  exact mutexRecomputePriorityChainLocked_eq ..

/-- A woken task waits for nobody. -/
theorem mutexUpstreamOwner_wakeTask
    (kernel : Kernel) (waiter : Nat) (result : WaitResult) (trace : Trace) (task : Nat) :
    mutexUpstreamOwner (kernel.wakeTask waiter result trace) task =
      if task = waiter then none else mutexUpstreamOwner kernel task := by
  rw [mutexUpstreamOwner_eq, Kernel.wakeTask_mutexWait, mutexUpstreamOwner_eq]
  split <;> rfl

/-- Waking a waiter keeps the first invariant. -/
theorem MutexOk.wakeTask
    (ok : MutexOk kernel) (waiter : Nat) (result : WaitResult) (trace : Trace) :
    MutexOk (kernel.wakeTask waiter result trace) := by
  refine ⟨ok.owners, ?_⟩
  intro task other waits
  rw [Kernel.wakeTask_mutexWait] at waits
  split at waits
  · cases waits
  · rename_i different
    simp only [Kernel.wakeTask, Function.update_of_ne different]
    exact ok.waiters task other waits

/-- A mutex wait expires: the chain of the owner is recomputed. -/
theorem InheritanceOk.withdraws
    (ok : InheritanceOk kernel) {waiter : Nat}
    (waits : (kernel.tasks waiter).mutexWait = some index) (trace : Trace) :
    ∃ owner,
      mutexWaiterRemovedLocked (kernel.wakeTask waiter .timeout trace) index =
        (kernel.wakeTask waiter .timeout trace).recomputed owner ∧
      Relinked kernel (kernel.wakeTask waiter .timeout trace) owner := by
  obtain ⟨_, _, magic, owner, held, _⟩ := ok.mutexes.waiters waiter index waits
  refine ⟨owner, mutexWaiterRemovedLocked_held magic held, ?_⟩
  refine ⟨ok.mutexes.wakeTask waiter .timeout trace,
    kernel.wakeTask_baseOf waiter .timeout trace,
    kernel.wakeTask_priorityOf waiter .timeout trace,
    ok.mutexes.owners index owner held, ?_, ?_⟩
  · intro task successor edge
    rw [mutexUpstreamOwner_wakeTask] at edge
    split at edge
    · cases edge
    · exact ok.priorities.bounded.waiter_le task successor edge
  · intro task successor different edge
    rw [mutexUpstreamOwner_wakeTask, if_neg ?_]
    · exact edge
    · rintro rfl
      obtain ⟨other, before, ownedBy⟩ := ok.mutexes.upstream_iff.mp edge
      obtain rfl : index = other := Option.some.inj (waits.symm.trans before)
      exact different (Option.some.inj (ownedBy.symm.trans held))

end Waiters

/-! ## The tick -/

/-- The end of a wait that is not a mutex wait. -/
theorem InheritanceOk.ends
    {kernel : Kernel} {waiter : Nat} (ok : InheritanceOk kernel)
    (unrelated : (kernel.tasks waiter).mutexWait = none) (result : WaitResult) (trace : Trace) :
    InheritanceOk (kernel.wakeTask waiter result trace) := by
  refine ok.of_view ⟨fun task => ?_, fun task waits => ?_,
    kernel.wakeTask_baseOf waiter result trace, kernel.wakeTask_priorityOf waiter result trace,
    rfl, rfl⟩
  · rw [Kernel.wakeTask_mutexWait]
    split
    · rename_i self
      rw [self, unrelated]
    · rfl
  · have other : task ≠ waiter := by
      rintro rfl
      exact waits unrelated
    simp [Kernel.wakeTask, other]

/-- One iteration of the timeout pass. -/
theorem InheritanceOk.expires
    {now : Word} {kernel after : Kernel} {position : Nat}
    (ok : InheritanceOk kernel) (outcome : ExpireOutcome now kernel position after) :
    InheritanceOk after := by
  cases outcome with
  | skipped => exact ok
  | @expired trace _ _ unrelated =>
      exact (ok.ends (Task.mutexWait_of_ne_mutex unrelated) .timeout trace).of_view
        (.of_tasks rfl rfl rfl)
  | @withdrawn trace _ _ due reason object =>
      have waits := Task.mutexWait_eq_some.mpr ⟨(Task.dueAt_iff.mp due).1, reason, object⟩
      obtain ⟨owner, removed, relinked⟩ := ok.withdraws waits trace
      rw [removed]
      exact (relinked.recomputed ok).of_view (.of_tasks rfl rfl rfl)

/-- The tick keeps both invariants. -/
theorem InheritanceOk.sysTick
    {kernel : Kernel} (ok : InheritanceOk kernel) (named : kernel.WaitsNamed) :
    InheritanceOk (sysTickHandler kernel) := by
  have ticked : InheritanceOk kernel.ticked := ok.of_view (.of_tasks rfl rfl rfl)
  cases running : kernel.running with
  | false =>
      rw [sysTickHandler_stopped running]
      exact ticked
  | true =>
      -- The pass keeps the waits named, which the outcome of an iteration needs.
      have passed : Expired kernel.ticked.tickCount kernel.ticked kernel.ticked.taskCount
            (schedulerExpireTimeouts kernel.ticked kernel.ticked.tickCount) ∧
          InheritanceOk (schedulerExpireTimeouts kernel.ticked kernel.ticked.tickCount) :=
        Scans.foldl_range_invariant (motive := fun count state =>
            Expired kernel.ticked.tickCount kernel.ticked count state ∧ InheritanceOk state)
          kernel.ticked.taskCount kernel.ticked
          ⟨⟨.refl _, .refl _, fun _ small => absurd small (Nat.not_lt_zero _)⟩, ticked⟩
          (fun state position _ reached => by
            have stateNamed : state.WaitsNamed := named.ticked.wakes reached.1.woken
            exact ⟨reached.1.step named.ticked, reached.2.expires
              (schedulerExpireStep_outcome _ state position
                (fun blocked => (stateNamed position blocked).1)
                (fun blocked => (stateNamed position blocked).2))⟩)
      rw [sysTickHandler_running running]
      exact passed.2.of_view (.of_tasks rfl rfl rfl)

/-! ## Calls -/

/-- Only `fr_mutex_unlock` signals the waiters of a mutex. -/
theorem Call.signals_mutex
    {call : Call} {object : ObjectRef} (signals : call.signals = some (.mutex, object)) :
    ∃ mutex, call = .mutexUnlock (some mutex) := by
  unfold Call.signals at signals
  split at signals <;> simp_all

section Reserves

variable {cfg : Config} {kernel after : Kernel} {config : TaskConfig}

/-- A reservation changes no wait. -/
theorem taskCreateReserve_mutexWait
    (vacant : (kernel.tasks kernel.taskCount).state ≠ .blocked)
    (reserved : taskCreateReserve cfg kernel config = some after) (task : Nat) :
    (after.tasks task).mutexWait = (kernel.tasks task).mutexWait := by
  by_cases new : task = kernel.taskCount
  · rw [new, taskCreateReserve_own reserved, Task.mutexWait_of_ne_blocked vacant]
    exact Task.mutexWait_of_ne_blocked (by simp [Task.reserve])
  · rw [taskCreateReserve_others reserved new]

/-- A new task waits for nobody and nobody for it. -/
theorem taskCreateReserve_upstream
    (vacant : (kernel.tasks kernel.taskCount).state ≠ .blocked)
    (reserved : taskCreateReserve cfg kernel config = some after) :
    mutexUpstreamOwner after = mutexUpstreamOwner kernel := by
  refine mutexUpstreamOwner_congr (taskCreateReserve_mutexWait vacant reserved) ?_
  obtain ⟨_, same⟩ := taskCreateReserve_some reserved
  rw [same]
  rfl

/-- A new task inherits from nobody. -/
theorem InheritanceOk.reserves
    (ok : InheritanceOk kernel)
    (vacant : (kernel.tasks kernel.taskCount).state ≠ .blocked)
    (reserved : taskCreateReserve cfg kernel config = some after) : InheritanceOk after := by
  have own := taskCreateReserve_own reserved
  have others : ∀ task, task ≠ kernel.taskCount → after.tasks task = kernel.tasks task :=
    fun _ other => taskCreateReserve_others reserved other
  have waits := taskCreateReserve_mutexWait vacant reserved
  have idle : (kernel.tasks kernel.taskCount).mutexWait = none :=
    Task.mutexWait_of_ne_blocked vacant
  obtain ⟨_, same⟩ := taskCreateReserve_some reserved
  have taskCount : after.taskCount = kernel.taskCount + 1 := by rw [same]
  have mutexes : after.mutexes = kernel.mutexes := by rw [same]; rfl
  refine ⟨ok.mutexes.of_view waits (fun task waiting => ?_) (by omega) mutexes, fun node => ?_⟩
  · have other : task ≠ kernel.taskCount := by
      rintro rfl
      exact waiting idle
    rw [others task other]
  · rw [mutexUpstreamOwner_congr waits mutexes]
    have waiterOld : ∀ waiter owner, mutexUpstreamOwner kernel waiter = some owner →
        after.priorityOf waiter = kernel.priorityOf waiter := by
      intro waiter owner edge
      have small := (ok.mutexes.upstream_lt edge).1
      simp only [Kernel.priorityOf, others waiter small.ne]
    by_cases new : node = kernel.taskCount
    · subst new
      have base : after.priorityOf kernel.taskCount = after.baseOf kernel.taskCount := by
        simp [Kernel.priorityOf, Kernel.baseOf, own, Task.reserve]
      refine ⟨base.ge, fun waiter edge => ?_, Or.inl base⟩
      exact absurd (ok.mutexes.upstream_lt edge).2 (lt_irrefl _)
    · have base : after.baseOf node = kernel.baseOf node := by
        simp only [Kernel.baseOf, others node new]
      have priority : after.priorityOf node = kernel.priorityOf node := by
        simp only [Kernel.priorityOf, others node new]
      have old := ok.priorities node
      rw [priority]
      refine ⟨base ▸ old.base_le, fun waiter edge => ?_, ?_⟩
      · rw [waiterOld waiter node edge]
        exact old.waiter_le waiter edge
      · rw [base]
        refine old.attained.imp_right ?_
        rintro ⟨waiter, edge, equal⟩
        exact ⟨waiter, edge, (waiterOld waiter node edge).trans equal⟩

end Reserves

/-- Writing a control block outside any wait, with the priorities left alone. -/
theorem SameMutexView.of_write
    {before after : Kernel} (target : Nat)
    (others : ∀ index, index ≠ target → after.tasks index = before.tasks index)
    (free : (before.tasks target).state ≠ .blocked)
    (stillFree : (after.tasks target).state ≠ .blocked)
    (base : (after.tasks target).basePriority = (before.tasks target).basePriority)
    (priority : (after.tasks target).priority = (before.tasks target).priority)
    (taskCount : after.taskCount = before.taskCount)
    (mutexes : after.mutexes = before.mutexes) : SameMutexView before after where
  waits index := by
    by_cases own : index = target
    · rw [own, Task.mutexWait_of_ne_blocked free, Task.mutexWait_of_ne_blocked stillFree]
    · rw [others index own]
  results index waits := by
    have own : index ≠ target := by
      rintro rfl
      exact waits (Task.mutexWait_of_ne_blocked free)
    rw [others index own]
  bases := by
    funext index
    by_cases own : index = target
    · rw [own]
      exact base
    · simp only [Kernel.baseOf, others index own]
  priorities := by
    funext index
    by_cases own : index = target
    · rw [own]
      exact priority
    · simp only [Kernel.priorityOf, others index own]
  taskCount := taskCount
  mutexes := mutexes

/-- What a step other than the tick can do to the mutexes, to the waits for them and to
the priorities. -/
inductive MutexChange (cfg : Config) (before : Kernel) : Kernel → Prop
  | same {after : Kernel} (view : SameMutexView before after) : MutexChange cfg before after
  | reserves {config : TaskConfig} {after : Kernel}
      (vacant : (before.tasks before.taskCount).state ≠ .blocked)
      (reserved : taskCreateReserve cfg before config = some after) :
      MutexChange cfg before after
  | stores {index : Nat} {mutex : Mutex}
      (unwanted : ∀ task, (before.tasks task).mutexWait ≠ some index)
      (registered : ∀ owner, mutex.owner = some owner → owner < before.taskCount) :
      MutexChange cfg before (before.setMutex index mutex)
  | locks {index current owner : Nat} {ticks : Word} {trace : Trace}
      (registered : current < before.taskCount) (runs : before.Runs current)
      (initialized : (before.mutexes index).magic = mutexMagic)
      (held : (before.mutexes index).owner = some owner) (different : owner ≠ current) :
      MutexChange cfg before
        ((before.blockTask current .mutex (some (.mutex index)) ticks trace).donated
          owner (before.priorityOf current))
  | unlocks {current : Nat} {middle after : Kernel}
      (relinked : Relinked before middle current)
      (idle : mutexUpstreamOwner middle current = none)
      (view : SameMutexView (middle.recomputed current) after) :
      MutexChange cfg before after

/-- Steps of calls that name no mutex. -/
theorem Core.unrelated
    {cfg : Config} {system : System} {thread : Thread} {call : Call} {point : Point}
    {result : StepResult}
    (core : Core system)
    (active : system.activeThread = some thread)
    (inCall : system.frames thread = .inCall call point)
    (step : Advance cfg system.cpu system.kernel system.memory thread.slot call point result)
    (other : ∀ index, call.object ≠ some (.mutex index))
    (unpriced : call.reprices = false ∨ (call.signals = none ∧ call.wait = none)) :
    MutexChange cfg system.kernel result.kernel := by
  have mutexes : result.kernel.mutexes = system.kernel.mutexes :=
    funext fun index => step.objects (.mutex index) (other index)
  obtain ⟨effect, _, _, samePriorities⟩ := step
  generalize result.outcome = outcome at effect
  generalize result.kernel = after at *
  cases effect with
  | passes control _ tasks _ => exact .same (.of_tasks tasks control.taskCount mutexes)
  | @resets current _ present same =>
      subst same
      have free : (system.kernel.tasks current).state ≠ .blocked := by
        simp [(core.current_runs active present).state]
      refine .same (.of_write current
        (fun index different => Kernel.setTask_tasks_of_ne _ _ different) free ?_ ?_ ?_ rfl rfl)
      all_goals rw [Kernel.setTask_tasks_self]
      · exact free
      · rfl
      · rfl
  | wakes _ signals woken =>
      have priorities := samePriorities (unpriced.resolve_right (by simp [signals]))
      refine .same (.of_wakes woken priorities mutexes ?_)
      rintro index result _ ⟨_, waits⟩ reason
      obtain ⟨_, sameReason, _, _⟩ := Task.waitsOn_iff.mp waits
      rw [← sameReason, reason] at signals
      obtain ⟨mutex, rfl⟩ := Call.signals_mutex signals
      exact other mutex rfl
  | waits runs wait _ _ blocked =>
      have priorities := samePriorities (unpriced.resolve_right (by simp [wait]))
      subst blocked
      refine .same (.of_waiting runs ?_ priorities)
      rintro rfl
      obtain ⟨mutex, ticks, rfl, _⟩ := Call.wait_mutex wait
      exact other mutex rfl
  | reserves _ _ reserved =>
      refine .reserves ?_ reserved
      obtain ⟨⟨priority, zero⟩, _⟩ := core.unregistered system.kernel.taskCount le_rfl
      simp [zero, Task.zero]
  | @builds index _ built =>
      obtain ⟨control, _, tasks⟩ := taskCreateBuild_facts cfg system.kernel index
      rw [← built] at control tasks
      exact .same (.of_tasks tasks control.taskCount mutexes)
  | @publishes index initialSp _ started published =>
      obtain ⟨control, _, tasks⟩ := taskCreatePublish_facts system.kernel index initialSp
      rw [← published] at control tasks
      have holds : (system.frames thread).reserves = some index := by
        rw [inCall, started]
        rfl
      have created := (core.reserved thread index holds).2
      refine .same (.of_write index (fun position different => ?_)
        (by simp [created]) ?_ ?_ ?_ control.taskCount mutexes)
      · rw [tasks, Function.update_of_ne different]
      all_goals rw [tasks, Function.update_self]
      · exact fun blocked => absurd blocked (by simp [Task.publish])
      · rfl
      · rfl
  | starts _ started =>
      have outcome := schedulerStart_outcome cfg system.cpu system.kernel
      rw [started] at outcome
      have stopped := schedulerStart_stopped started
      obtain ⟨taskCount, _, _, tasks, _⟩ := outcome.facts core.control stopped
      have calm := (core.control.stopped stopped).2
      refine .same (.of_states (fun index => ?_) taskCount mutexes)
      obtain ⟨state, same, awake⟩ := tasks index
      exact ⟨_, state, same, fun blocked => absurd blocked awake,
        fun blocked => absurd blocked (calm index).2⟩

/-- Every such change keeps both invariants. -/
theorem InheritanceOk.changed
    {cfg : Config} {kernel after : Kernel}
    (ok : InheritanceOk kernel) (change : MutexChange cfg kernel after) :
    InheritanceOk after := by
  cases change with
  | same view => exact ok.of_view view
  | reserves vacant reserved => exact ok.reserves vacant reserved
  | stores unwanted registered => exact ok.setMutex unwanted registered
  | locks registered runs initialized held different =>
      exact ok.locks registered runs initialized held different
  | unlocks relinked _ view => exact (relinked.recomputed ok).of_view view

/-- The steps of `fr_mutex_lock`. -/
inductive LockStep
    (kernel : Kernel) (memory : Memory) (self : Nat) (mutex : Option Nat) :
    Point → StepResult → Prop
  | refuses :
      LockStep kernel memory self mutex .entry (.reply kernel memory (.bool false))
  | arms {index : Nat} {timeout : WaitTimeout} (named : mutex = some index) :
      LockStep kernel memory self mutex .entry (.goto kernel memory (.armed timeout))
  | decides {index : Nat} {timeout : WaitTimeout} {ended : Kernel × Progress Bool}
      (named : mutex = some index)
      (outcome : LockOutcome kernel index timeout ended) :
      LockStep kernel memory self mutex (.armed timeout)
        (.ofProgress memory (.suspended timeout) ended)
  | expires {timeout : WaitTimeout}
      (unsignaled : (kernel.tasks self).waitResult ≠ .signaled) :
      LockStep kernel memory self mutex (.suspended timeout)
        (.reply kernel memory (.bool false))
  | resumes {timeout : WaitTimeout}
      (signaled : (kernel.tasks self).waitResult = .signaled) :
      LockStep kernel memory self mutex (.suspended timeout)
        (.goto kernel memory (.signaled timeout))
  | settles {index : Nat} {timeout : WaitTimeout} (named : mutex = some index) :
      LockStep kernel memory self mutex (.signaled timeout)
        (.reply kernel memory (.bool ((kernel.mutexes index).owner = some self)))

/-- A step of `fr_mutex_lock` runs its section, or only moves on. -/
theorem mutexLockStep_cases
    {cfg : Config} {cpu : Cpu} {kernel : Kernel} {memory : Memory} {self : Nat}
    {mutex : Option Nat} {timeoutTicks : Word} {point : Point} {result : StepResult}
    (stepped : (Call.mutexLock mutex timeoutTicks).step cfg cpu kernel memory self point =
      some result) :
    LockStep kernel memory self mutex point result := by
  change mutexLockStep cpu kernel memory self mutex timeoutTicks point = some result at stepped
  cases point with
  | entry =>
      simp only [mutexLockStep] at stepped
      split at stepped
      · obtain rfl := Option.some.inj stepped
        exact .refuses
      · rename_i index
        obtain rfl := Option.some.inj stepped
        unfold StepResult.arm
        split
        · split
          · exact .arms rfl
          · exact .refuses
        · exact .refuses
  | armed timeout =>
      obtain ⟨index, rfl, rfl⟩ := Option.map_eq_some_iff.mp stepped
      exact .decides rfl (mutexLockSection_outcome cpu kernel index timeout)
  | suspended timeout =>
      simp only [mutexLockStep] at stepped
      split at stepped
      · rename_i signaled
        obtain rfl := Option.some.inj stepped
        exact .resumes signaled
      · rename_i unsignaled
        obtain rfl := Option.some.inj stepped
        exact .expires unsignaled
  | signaled timeout =>
      obtain ⟨index, rfl, rfl⟩ := Option.map_eq_some_iff.mp stepped
      exact .settles rfl
  | _ => exact absurd stepped (by simp [mutexLockStep])

/-- One step of any call. -/
theorem InheritanceOk.advance
    {cfg : Config} {system : System} {thread : Thread} {call : Call} {point : Point}
    {result : StepResult}
    (core : Core system) (ok : InheritanceOk system.kernel)
    (active : system.activeThread = some thread)
    (inCall : system.frames thread = .inCall call point)
    (stepped : call.step cfg system.cpu system.kernel system.memory thread.slot point =
      some result) :
    MutexChange cfg system.kernel result.kernel := by
  have plain := core.unrelated active inCall (Call.step_advance stepped)
  have unchanged : SameMutexView system.kernel system.kernel := .of_tasks rfl rfl rfl
  cases call with
  | mutexInit mutex =>
      cases point with
      | entry =>
          obtain rfl := Option.some.inj stepped
          cases mutex with
          | none => exact .same unchanged
          | some index =>
              simp only [Option.elim, mutexInit]
              split
              · exact .same unchanged
              · rename_i stopped
                rw [Bool.not_eq_true] at stopped
                have calm := (core.control.stopped stopped).2
                refine .stores (fun task waits => ?_) (by simp)
                rw [Task.mutexWait_of_ne_blocked (calm task).2] at waits
                exact absurd waits (by simp)
      | _ => exact absurd stepped (by simp [Call.step, atomicStep])
  | mutexLock mutex ticks =>
      cases mutexLockStep_cases stepped with
      | decides _ outcome =>
          cases outcome with
          | refused => exact .same unchanged
          | acquired present _ _ free =>
              exact .stores (ok.mutexes.unwanted_of_free free)
                fun owner held => Option.some.inj held ▸ core.current_lt present
          | waits runs initialized held different =>
              exact .locks (core.current_lt runs.currentTask) runs initialized held different
      | _ => exact .same unchanged
  | mutexUnlock mutex =>
      cases point with
      | entry =>
          obtain rfl := Option.some.inj stepped
          cases mutex with
          | none => exact .same unchanged
          | some index =>
              have outcome := mutexUnlock_outcome system.cpu system.kernel index
              simp only [Option.elim]
              generalize mutexUnlock system.cpu system.kernel index = ended at outcome
              cases outcome with
              | refused => exact .same unchanged
              | released present _ _ held unwanted =>
                  have runs := core.current_runs active present
                  exact .unlocks (ok.releases held unwanted) runs.setMutex.upstream
                    (.of_tasks rfl rfl rfl)
              | handed present _ initialized held waiter_lt waits highest =>
                  have runs := core.current_runs active present
                  refine .unlocks (ok.hands initialized held waiter_lt waits highest) ?_
                    (.of_tasks rfl rfl rfl)
                  rw [mutexUpstreamOwner_wakeTask]
                  split
                  · rfl
                  · exact runs.setMutex.upstream
      | _ => exact absurd stepped (by simp [Call.step, atomicStep])
  | taskCreate => exact plain (by simp [Call.object]) (Or.inr ⟨rfl, rfl⟩)
  | _ => exact plain (by simp [Call.object]) (Or.inl rfl)

/-- Every step of the system but the tick makes one of these changes. -/
theorem InheritanceOk.change
    {cfg : Config} {system after : System} {action : Action} {events : List Event}
    (core : Core system) (ok : InheritanceOk system.kernel)
    (step : system.step cfg action = some (after, events)) (noTick : action ≠ .sysTick) :
    MutexChange cfg system.kernel after.kernel := by
  cases System.stepped step with
  | sysTick => exact absurd rfl noTick
  | @pendSv psp live =>
      rcases pendSvHandler_outcome psp core.control live with stopped | resumed
      · refine .same (.of_states (fun index => ?_) stopped.taskCount stopped.objects.mutexes)
        obtain ⟨savedSp, same⟩ := stopped.tasks index
        exact ⟨savedSp, _, same, Iff.rfl⟩
      · refine .same (.of_states (fun index => ?_) resumed.taskCount resumed.objects.mutexes)
        have same := resumed.blocked_iff index
        rw [resumed.tasks] at same
        exact ⟨_, _, resumed.tasks index, same⟩
  | invoke => exact .same (.of_tasks rfl rfl rfl)
  | advance active inCall stepped => exact ok.advance core active inCall stepped
  | user => exact .same (.of_tasks rfl rfl rfl)

/-- Every step of the system keeps both invariants. -/
theorem InheritanceOk.step
    {cfg : Config} {system after : System} {action : Action} {events : List Event}
    (core : Core system) (ok : InheritanceOk system.kernel)
    (step : system.step cfg action = some (after, events)) :
    InheritanceOk after.kernel := by
  by_cases tick : action = .sysTick
  · subst tick
    cases System.stepped step with
    | sysTick => exact ok.sysTick core.waitsNamed
    | user _ _ _ plain => exact absurd rfl plain
  · exact ok.changed (ok.change core step tick)

/-- They hold when boot code starts. -/
theorem InheritanceOk.initial : InheritanceOk System.boot.kernel where
  mutexes := ⟨by simp [System.boot, Kernel.reset],
    fun task index waits =>
      absurd waits (by simp [System.boot, Kernel.reset, Task.mutexWait, Task.zero])⟩
  priorities node := ⟨le_rfl, fun waiter edge => absurd edge (by
    simp [System.boot, Kernel.reset, mutexUpstreamOwner, Task.zero]), Or.inl rfl⟩

/-- Inherited priorities are consistent in every state that any run reaches. -/
theorem InheritanceOk.of_run
    {cfg : Config} {allowed : System → Action → Prop} {events : List Event} {system : System}
    (run : (forge cfg).Run allowed events system) : InheritanceOk system.kernel :=
  (run.stateInvariant (motive := fun system => Core system ∧ InheritanceOk system.kernel)
    ⟨Core.initial, InheritanceOk.initial⟩
    fun _ _ _ _ held _ stepped => ⟨held.1.step stepped, held.2.step held.1 stepped⟩).2

end ForgeKernel
