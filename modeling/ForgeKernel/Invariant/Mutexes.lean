import ForgeKernel.Invariant.CoreSteps

/-!
# Mutex waiters and inherited priorities

Two kernel invariants.  `MutexOk`: every mutex waiter waits on an initialized
mutex that another registered task owns.  `PriorityOk`: effective priorities are
consistent with the waits-for graph of the mutexes.  The graph depends on the
mutexes and on `Task.mutexWait` only, so steps that touch neither preserve both.
-/

namespace ForgeKernel

open Inheritance

/-- The mutex on which a task waits. -/
def Task.mutexWait (task : Task) : Option Nat :=
  if task.state = .blocked ∧ task.waitReason = .mutex then
    match task.waitObject with
    | some (.mutex index) => some index
    | _ => none
  else none

theorem Task.mutexWait_eq_some {task : Task} {index : Nat} :
    task.mutexWait = some index ↔
      task.state = .blocked ∧ task.waitReason = .mutex ∧
        task.waitObject = some (.mutex index) := by
  unfold mutexWait
  split
  · rename_i waits
    split
    · rename_i other object
      simp [waits, object, eq_comm]
    · rename_i object
      simp only [waits, true_and, reduceCtorEq, false_iff]
      exact object index
  · rename_i waits
    simp only [reduceCtorEq, false_iff]
    exact fun both => waits ⟨both.1, both.2.1⟩

/-- A task that is not blocked waits for no mutex. -/
theorem Task.mutexWait_of_ne_blocked
    {task : Task} (free : task.state ≠ .blocked) : task.mutexWait = none :=
  if_neg fun waits => free waits.1

theorem Task.mutexWait_of_ne_mutex
    {task : Task} (other : task.waitReason ≠ .mutex) : task.mutexWait = none :=
  if_neg fun waits => other waits.2

/-- Base priority of a registry slot. -/
def Kernel.baseOf (kernel : Kernel) (index : Nat) : Nat :=
  (kernel.tasks index).basePriority

/-- Mutex waiters wait on an initialized mutex that another task owns. -/
structure MutexOk (kernel : Kernel) : Prop where
  owners : ∀ index owner, (kernel.mutexes index).owner = some owner →
    owner < kernel.taskCount
  waiters : ∀ task index, (kernel.tasks task).mutexWait = some index →
    task < kernel.taskCount ∧ (kernel.tasks task).waitResult = .pending ∧
      (kernel.mutexes index).magic = mutexMagic ∧
      ∃ owner, (kernel.mutexes index).owner = some owner ∧ owner ≠ task

/-- Every task carries the maximum of its base priority and the priorities of the
tasks that wait for it. -/
def PriorityOk (kernel : Kernel) : Prop :=
  Consistent (mutexUpstreamOwner kernel) kernel.baseOf kernel.priorityOf

/-! ## The waits-for graph -/

/-- The upstream owner is found through the mutex for which a task waits. -/
theorem mutexUpstreamOwner_eq (kernel : Kernel) (task : Nat) :
    mutexUpstreamOwner kernel task =
      (kernel.tasks task).mutexWait.bind fun index =>
        if (kernel.mutexes index).magic ≠ mutexMagic then none
        else if (kernel.mutexes index).owner = some task then none
        else (kernel.mutexes index).owner := by
  unfold mutexUpstreamOwner Task.mutexWait
  by_cases waits : (kernel.tasks task).state = .blocked ∧ (kernel.tasks task).waitReason = .mutex
  · rw [if_neg (by simp [waits]), if_pos waits]
    cases (kernel.tasks task).waitObject with
    | none => rfl
    | some object => cases object <;> rfl
  · rw [if_pos (by tauto), if_neg waits]
    rfl

/-- Nobody is upstream of himself. -/
theorem mutexUpstreamOwner_irreflexive (kernel : Kernel) (task : Nat) :
    mutexUpstreamOwner kernel task ≠ some task := by
  rw [mutexUpstreamOwner_eq]
  intro edge
  obtain ⟨index, _, found⟩ := Option.bind_eq_some_iff.mp edge
  split at found
  · exact absurd found (by simp)
  · split at found
    · exact absurd found (by simp)
    · rename_i other
      exact other found

namespace MutexOk

variable {kernel : Kernel}

/-- Under the invariant an edge is a wait for a mutex with an owner. -/
theorem upstream_iff (ok : MutexOk kernel) {task owner : Nat} :
    mutexUpstreamOwner kernel task = some owner ↔
      ∃ index, (kernel.tasks task).mutexWait = some index ∧
        (kernel.mutexes index).owner = some owner := by
  rw [mutexUpstreamOwner_eq, Option.bind_eq_some_iff]
  refine exists_congr fun index => and_congr_right fun waits => ?_
  obtain ⟨_, _, magic, holder, held, different⟩ := ok.waiters task index waits
  rw [if_neg (not_not.mpr magic), if_neg]
  rw [held]
  exact fun same => different (Option.some.inj same)

/-- Both ends of an edge are registered. -/
theorem upstream_lt (ok : MutexOk kernel) {task owner : Nat}
    (edge : mutexUpstreamOwner kernel task = some owner) :
    task < kernel.taskCount ∧ owner < kernel.taskCount := by
  obtain ⟨index, waits, held⟩ := ok.upstream_iff.mp edge
  exact ⟨(ok.waiters task index waits).1, ok.owners index owner held⟩

/-- The source's scan visits exactly the direct waiters. -/
theorem mem_mutexWaiters (ok : MutexOk kernel) {owner waiter : Nat} :
    waiter ∈ kernel.mutexWaiters owner ↔ mutexUpstreamOwner kernel waiter = some owner := by
  rw [ok.upstream_iff, Kernel.mutexWaiters, Finset.mem_filter, Finset.mem_range]
  unfold Kernel.isMutexWaiter
  constructor
  · rintro ⟨_, counted⟩
    split at counted
    · exact absurd counted Bool.false_ne_true
    · rename_i waits
      simp only [not_or, not_not] at waits
      split at counted
      · rename_i index object
        simp only [decide_eq_true_eq] at counted
        exact ⟨index, Task.mutexWait_eq_some.mpr ⟨waits.1, waits.2.1, object⟩, counted.2⟩
      · exact absurd counted Bool.false_ne_true
  · rintro ⟨index, waits, held⟩
    obtain ⟨small, pending, magic, _⟩ := ok.waiters waiter index waits
    obtain ⟨blocked, reason, object⟩ := Task.mutexWait_eq_some.mp waits
    refine ⟨small, ?_⟩
    rw [if_neg (by simp [blocked, reason, pending])]
    simp [object, magic, held]

/-- The scan computes the effective priority. -/
theorem effectivePriority_isEffective
    (ok : MutexOk kernel) (priorities : Nat → Nat) (owner : Nat) :
    IsEffective (mutexUpstreamOwner kernel) kernel.baseOf priorities owner
      (kernel.effectivePriority priorities owner) where
  base_le := le_max_left _ _
  waiter_le waiter edge :=
    le_max_of_le_right (Finset.le_sup (ok.mem_mutexWaiters.mpr edge))
  attained := by
    rcases le_total ((kernel.mutexWaiters owner).sup priorities)
      (kernel.tasks owner).basePriority with small | large
    · exact Or.inl (max_eq_left small)
    · rcases (kernel.mutexWaiters owner).eq_empty_or_nonempty with empty | nonempty
      · left
        simp [Kernel.effectivePriority, empty, Kernel.baseOf]
      · obtain ⟨waiter, present, attained⟩ :=
          Finset.exists_mem_eq_sup _ nonempty priorities
        refine Or.inr ⟨waiter, ok.mem_mutexWaiters.mp present, ?_⟩
        rw [Kernel.effectivePriority, max_eq_right large, attained]

/-- Recomputing a chain restores consistency. -/
theorem recomputed_priorityOk
    (ok : MutexOk kernel) {start : Nat}
    (start_lt : start < kernel.taskCount)
    (bounded : Bounded (mutexUpstreamOwner kernel) kernel.baseOf kernel.priorityOf)
    (settled : ∀ other, other ≠ start →
      IsEffective (mutexUpstreamOwner kernel) kernel.baseOf kernel.priorityOf other
        (kernel.priorityOf other)) :
    PriorityOk (kernel.recomputed start) :=
  recompute_consistent ok.effectivePriority_isEffective
    (mutexUpstreamOwner_irreflexive kernel) bounded settled (Finset.mem_range.mpr start_lt)
    (fun _ _ edge => Finset.mem_range.mpr (ok.upstream_lt edge).2)
    (Finset.card_range kernel.taskCount).le

end MutexOk

/-! ## Steps that leave the graph alone -/

/-- The data on which the two invariants depend. -/
structure SameMutexView (before after : Kernel) : Prop where
  waits : ∀ index, (after.tasks index).mutexWait = (before.tasks index).mutexWait
  results : ∀ index, (before.tasks index).mutexWait ≠ none →
    (after.tasks index).waitResult = (before.tasks index).waitResult
  bases : after.baseOf = before.baseOf
  priorities : after.priorityOf = before.priorityOf
  taskCount : after.taskCount = before.taskCount
  mutexes : after.mutexes = before.mutexes

/-- Both invariants of this module. -/
structure InheritanceOk (kernel : Kernel) : Prop where
  mutexes : MutexOk kernel
  priorities : PriorityOk kernel

/-- Waits and mutexes decide the graph. -/
theorem mutexUpstreamOwner_congr
    {before after : Kernel}
    (waits : ∀ index, (after.tasks index).mutexWait = (before.tasks index).mutexWait)
    (mutexes : after.mutexes = before.mutexes) :
    mutexUpstreamOwner after = mutexUpstreamOwner before := by
  funext task
  rw [mutexUpstreamOwner_eq, mutexUpstreamOwner_eq, waits, mutexes]

/-- The first invariant depends on waits, results and mutexes only. -/
theorem MutexOk.of_view
    {before after : Kernel} (ok : MutexOk before)
    (waits : ∀ index, (after.tasks index).mutexWait = (before.tasks index).mutexWait)
    (results : ∀ index, (before.tasks index).mutexWait ≠ none →
      (after.tasks index).waitResult = (before.tasks index).waitResult)
    (taskCount : before.taskCount ≤ after.taskCount)
    (mutexes : after.mutexes = before.mutexes) : MutexOk after where
  owners index owner held := by
    rw [mutexes] at held
    exact (ok.owners index owner held).trans_le taskCount
  waiters task index waiting := by
    rw [waits] at waiting
    obtain ⟨small, pending, magic, held⟩ := ok.waiters task index waiting
    rw [mutexes, results task (by simp [waiting])]
    exact ⟨small.trans_le taskCount, pending, magic, held⟩

/-- Steps that leave the data of both invariants alone keep them. -/
theorem InheritanceOk.of_view
    {before after : Kernel} (ok : InheritanceOk before) (view : SameMutexView before after) :
    InheritanceOk after where
  mutexes := ok.mutexes.of_view view.waits view.results view.taskCount.ge view.mutexes
  priorities := by
    unfold PriorityOk
    rw [mutexUpstreamOwner_congr view.waits view.mutexes, view.bases, view.priorities]
    exact ok.priorities

namespace SameMutexView

variable {before after : Kernel}

/-- A step that leaves registry and mutexes alone is such a step. -/
theorem of_tasks
    (tasks : after.tasks = before.tasks) (taskCount : after.taskCount = before.taskCount)
    (mutexes : after.mutexes = before.mutexes) : SameMutexView before after where
  waits index := by rw [tasks]
  results index _ := by rw [tasks]
  bases := by
    funext index
    simp only [Kernel.baseOf, tasks]
  priorities := Kernel.priorityOf_congr tasks
  taskCount := taskCount
  mutexes := mutexes

/-- Completing waits that are not mutex waits. -/
theorem of_wakes {cause : WakeCause}
    (woken : before.Wakes cause after)
    (priorities : after.priorityOf = before.priorityOf)
    (mutexes : after.mutexes = before.mutexes)
    (unrelated : ∀ index result, (before.tasks index).state = .blocked →
      cause.Allows (before.tasks index) result → (before.tasks index).waitReason ≠ .mutex) :
    SameMutexView before after where
  waits index := by
    rcases woken.tasks index with ⟨same⟩ | ⟨blocked, allowed, ended⟩
    · rw [same]
      rfl
    · rw [ended, Task.mutexWait_of_ne_mutex (unrelated index _ blocked allowed)]
      exact Task.mutexWait_of_ne_blocked (before.wakeState_ne_blocked index)
  results index waits := by
    rcases woken.tasks index with ⟨same⟩ | ⟨blocked, allowed, ended⟩
    · rw [same]
    · exact absurd (Task.mutexWait_of_ne_mutex (unrelated index _ blocked allowed)) waits
  bases := by
    funext index
    simp only [Kernel.baseOf]
    rcases woken.tasks index with ⟨same⟩ | ⟨_, _, ended⟩
    · rw [same]
    · rw [ended]
      rfl
  priorities := priorities
  taskCount := woken.taskCount
  mutexes := mutexes

/-- Changing states and stack pointers of tasks without starting or ending a wait. -/
theorem of_states
    (tasks : ∀ index, ∃ savedSp state, after.tasks index =
      { before.tasks index with
        savedSp := savedSp
        state := state } ∧ (state = .blocked ↔ (before.tasks index).state = .blocked))
    (taskCount : after.taskCount = before.taskCount)
    (mutexes : after.mutexes = before.mutexes) : SameMutexView before after where
  waits index := by
    obtain ⟨savedSp, state, same, blocked⟩ := tasks index
    rw [same]
    simp only [Task.mutexWait, blocked]
  results index _ := by
    obtain ⟨savedSp, state, same, _⟩ := tasks index
    rw [same]
  bases := by
    funext index
    obtain ⟨savedSp, state, same, _⟩ := tasks index
    simp only [Kernel.baseOf, same]
  priorities := by
    funext index
    obtain ⟨savedSp, state, same, _⟩ := tasks index
    simp only [Kernel.priorityOf, same]
  taskCount := taskCount
  mutexes := mutexes

/-- A running task begins a wait that is not a mutex wait. -/
theorem of_waiting
    {call : Call} {current : Nat} {reason : WaitReason} {object : Option ObjectRef}
    {ticks : Word} {trace : Trace} {priorities : Nat → Nat}
    (runs : before.Runs current) (unrelated : reason ≠ .mutex)
    (same : (before.waiting call current reason object ticks trace priorities).priorityOf =
      before.priorityOf) :
    SameMutexView before
      (before.waiting call current reason object ticks trace priorities) where
  waits index := by
    by_cases self : index = current
    · subst self
      rw [Kernel.waiting_self]
      have awake : (before.tasks index).state ≠ .blocked := by simp [runs.state]
      rw [Task.mutexWait_of_ne_blocked awake]
      exact Task.mutexWait_of_ne_mutex unrelated
    · rw [Kernel.waiting_of_ne _ _ _ _ _ _ _ self]
      rfl
  results index waits := by
    by_cases self : index = current
    · subst self
      have awake : (before.tasks index).state ≠ .blocked := by simp [runs.state]
      exact absurd (Task.mutexWait_of_ne_blocked awake) waits
    · rw [Kernel.waiting_of_ne _ _ _ _ _ _ _ self]
  bases := by
    funext index
    simp only [Kernel.baseOf]
    by_cases self : index = current
    · subst self
      rw [Kernel.waiting_self]
      cases call <;> rfl
    · rw [Kernel.waiting_of_ne _ _ _ _ _ _ _ self]
  priorities := same
  taskCount := rfl
  mutexes := rfl

end SameMutexView

end ForgeKernel
