import ForgeKernel.Library.Inheritance
import ForgeKernel.Invariant.Scheduling

/-!
# The two priority chain loops

`fr_mutex_inherit_priority_chain_locked` and
`fr_mutex_recompute_priority_chain_locked` write nothing but effective
priorities.  The values they leave are those of `Inheritance.donate` and
`Inheritance.recompute` on the waits-for graph of the mutexes.
-/

namespace ForgeKernel

open Inheritance

namespace Kernel

/-- Waiters that `fr_mutex_compute_effective_priority_locked` counts for a task. -/
def mutexWaiters (kernel : Kernel) (owner : Nat) : Finset Nat :=
  (Finset.range kernel.taskCount).filter fun index =>
    kernel.isMutexWaiter owner (kernel.tasks index) = true

/-- The maximum of a base priority and of given priorities of the waiters. -/
def effectivePriority (kernel : Kernel) (priorities : Nat → Nat) (owner : Nat) : Nat :=
  max (kernel.tasks owner).basePriority ((kernel.mutexWaiters owner).sup priorities)

@[simp] theorem withPriorities_priorityOf (kernel : Kernel) :
    kernel.withPriorities kernel.priorityOf = kernel := rfl

@[simp] theorem withPriorities_tasks
    (kernel : Kernel) (priorities : Nat → Nat) (index : Nat) :
    (kernel.withPriorities priorities).tasks index =
      { kernel.tasks index with priority := priorities index } := rfl

@[simp] theorem withPriorities_withPriorities
    (kernel : Kernel) (first second : Nat → Nat) :
    (kernel.withPriorities first).withPriorities second = kernel.withPriorities second := rfl

/-- Storing one priority updates the table. -/
theorem setPriority_withPriorities
    (kernel : Kernel) (priorities : Nat → Nat) (index value : Nat) :
    (kernel.withPriorities priorities).setPriority index value =
      kernel.withPriorities (Function.update priorities index value) := by
  simp only [setPriority, setTask, withPriorities, mk.injEq, and_true]
  funext other
  by_cases same : other = index
  · subst same
    simp
  · simp [same]

@[simp] theorem isMutexWaiter_withPriorities
    (kernel : Kernel) (priorities : Nat → Nat) (owner : Nat) (waiter : Task) :
    (kernel.withPriorities priorities).isMutexWaiter owner waiter =
      kernel.isMutexWaiter owner waiter := rfl

@[simp] theorem mutexWaiters_withPriorities
    (kernel : Kernel) (priorities : Nat → Nat) (owner : Nat) :
    (kernel.withPriorities priorities).mutexWaiters owner = kernel.mutexWaiters owner := rfl

end Kernel

@[simp] theorem mutexUpstreamOwner_withPriorities
    (kernel : Kernel) (priorities : Nat → Nat) :
    mutexUpstreamOwner (kernel.withPriorities priorities) = mutexUpstreamOwner kernel := rfl

/-- `fr_mutex_compute_effective_priority_locked` is the effective priority over the current
table. -/
theorem mutexComputeEffectivePriorityLocked_eq (kernel : Kernel) (owner : Nat) :
    mutexComputeEffectivePriorityLocked kernel owner =
      kernel.effectivePriority kernel.priorityOf owner :=
  Scans.foldl_raise_eq_max_sup
    (fun index => kernel.isMutexWaiter owner (kernel.tasks index))
    kernel.priorityOf kernel.taskCount (kernel.tasks owner).basePriority

/-- The loop of the donation works on the table of priorities alone. -/
theorem mutexInheritLoop_eq
    (kernel : Kernel) (fuel : Nat) (priorities : Nat → Nat) (owner donated : Nat) :
    mutexInheritLoop fuel (kernel.withPriorities priorities) (some owner) donated =
      kernel.withPriorities
        (donate (mutexUpstreamOwner kernel) fuel owner donated priorities) := by
  induction fuel generalizing priorities owner donated with
  | zero => rfl
  | succ fuel inductionHypothesis =>
      have raised : (if ((kernel.withPriorities priorities).tasks owner).priority < donated then
            (kernel.withPriorities priorities).setPriority owner donated
          else kernel.withPriorities priorities) =
          kernel.withPriorities
            (Function.update priorities owner (max (priorities owner) donated)) := by
        by_cases smaller : priorities owner < donated
        · rw [max_eq_right smaller.le, ← Kernel.setPriority_withPriorities]
          exact if_pos smaller
        · rw [max_eq_left (Nat.le_of_not_lt smaller), Function.update_eq_self]
          exact if_neg smaller
      simp only [mutexInheritLoop, raised, donate, mutexUpstreamOwner_withPriorities]
      cases mutexUpstreamOwner kernel owner with
      | none => cases fuel <;> rfl
      | some upstream => exact inductionHypothesis _ upstream _

/-- The inheritance loop is a donation on the waits-for graph. -/
theorem mutexInheritPriorityChainLocked_eq (kernel : Kernel) (owner donated : Nat) :
    mutexInheritPriorityChainLocked kernel owner donated =
      kernel.withPriorities (donate (mutexUpstreamOwner kernel) kernel.taskCount
        owner donated kernel.priorityOf) :=
  mutexInheritLoop_eq kernel kernel.taskCount kernel.priorityOf owner donated

/-- So does the loop of the recomputation. -/
theorem mutexRecomputeLoop_eq
    (kernel : Kernel) (fuel : Nat) (priorities : Nat → Nat) (task : Nat) :
    mutexRecomputeLoop fuel (kernel.withPriorities priorities) (some task) =
      kernel.withPriorities
        (recompute (mutexUpstreamOwner kernel) kernel.effectivePriority
          fuel task priorities) := by
  induction fuel generalizing priorities task with
  | zero => rfl
  | succ fuel inductionHypothesis =>
      simp only [mutexRecomputeLoop, recompute, mutexComputeEffectivePriorityLocked_eq,
        Kernel.setPriority_withPriorities, mutexUpstreamOwner_withPriorities]
      cases mutexUpstreamOwner kernel task with
      | none => cases fuel <;> rfl
      | some upstream => exact inductionHypothesis _ upstream

/-- The recomputation loop re-evaluates a chain of the waits-for graph. -/
theorem mutexRecomputePriorityChainLocked_eq (kernel : Kernel) (task : Nat) :
    mutexRecomputePriorityChainLocked kernel task =
      kernel.withPriorities (recompute (mutexUpstreamOwner kernel)
        kernel.effectivePriority kernel.taskCount task kernel.priorityOf) :=
  mutexRecomputeLoop_eq kernel kernel.taskCount kernel.priorityOf task

/-- Removing a waiter rewrites priorities only. -/
theorem mutexWaiterRemovedLocked_eq (kernel : Kernel) (mutex : Nat) :
    ∃ priorities, mutexWaiterRemovedLocked kernel mutex =
      kernel.withPriorities priorities := by
  unfold mutexWaiterRemovedLocked
  split
  · exact ⟨kernel.priorityOf, rfl⟩
  · split
    · exact ⟨kernel.priorityOf, rfl⟩
    · exact ⟨_, mutexRecomputePriorityChainLocked_eq kernel _⟩

end ForgeKernel
