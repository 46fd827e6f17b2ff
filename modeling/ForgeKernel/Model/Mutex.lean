import ForgeKernel.Model.Scheduler

/-!
# Mutexes with priority inheritance

`mutex.c`, and the tick handler, whose timeout pass is the third place that
recomputes inherited priorities.
-/

namespace ForgeKernel

/-- A registry entry counted by `fr_mutex_compute_effective_priority_locked`. -/
def Kernel.isMutexWaiter (kernel : Kernel) (owner : Nat) (waiter : Task) : Bool :=
  if waiter.state ≠ .blocked ∨ waiter.waitReason ≠ .mutex ∨ waiter.waitResult ≠ .pending then
    false
  else
    match waiter.waitObject with
    | some (.mutex index) =>
        decide ((kernel.mutexes index).magic = mutexMagic ∧
          (kernel.mutexes index).owner = some owner)
    | _ => false

/-- `fr_mutex_compute_effective_priority_locked`. -/
def mutexComputeEffectivePriorityLocked (kernel : Kernel) (owner : Nat) : Nat :=
  (List.range kernel.taskCount).foldl
    (fun effective index =>
      let waiter := kernel.tasks index
      if kernel.isMutexWaiter owner waiter ∧ effective < waiter.priority then
        waiter.priority
      else effective)
    (kernel.tasks owner).basePriority

/-- The upstream owner at which both chain loops continue; `none` is a break. -/
def mutexUpstreamOwner (kernel : Kernel) (task : Nat) : Option Nat :=
  if (kernel.tasks task).state ≠ .blocked ∨ (kernel.tasks task).waitReason ≠ .mutex then
    none
  else
    match (kernel.tasks task).waitObject with
    | some (.mutex index) =>
        if (kernel.mutexes index).magic ≠ mutexMagic then none
        else if (kernel.mutexes index).owner = some task then none
        else (kernel.mutexes index).owner
    | _ => none

/-- The loop of `fr_mutex_inherit_priority_chain_locked` with `fuel` iterations
left before `depth` reaches the task count. -/
def mutexInheritLoop : (fuel : Nat) → Kernel → Option Nat → Nat → Kernel
  | 0, kernel, _, _ => kernel
  | _ + 1, kernel, none, _ => kernel
  | fuel + 1, kernel, some owner, donated =>
      let kernel :=
        if (kernel.tasks owner).priority < donated then kernel.setPriority owner donated
        else kernel
      mutexInheritLoop fuel kernel (mutexUpstreamOwner kernel owner)
        (kernel.tasks owner).priority

/-- `fr_mutex_inherit_priority_chain_locked`. -/
def mutexInheritPriorityChainLocked (kernel : Kernel) (owner donated : Nat) : Kernel :=
  mutexInheritLoop kernel.taskCount kernel (some owner) donated

/-- The loop of `fr_mutex_recompute_priority_chain_locked`. -/
def mutexRecomputeLoop : (fuel : Nat) → Kernel → Option Nat → Kernel
  | 0, kernel, _ => kernel
  | _ + 1, kernel, none => kernel
  | fuel + 1, kernel, some task =>
      let kernel := kernel.setPriority task (mutexComputeEffectivePriorityLocked kernel task)
      mutexRecomputeLoop fuel kernel (mutexUpstreamOwner kernel task)

/-- `fr_mutex_recompute_priority_chain_locked`. -/
def mutexRecomputePriorityChainLocked (kernel : Kernel) (task : Nat) : Kernel :=
  mutexRecomputeLoop kernel.taskCount kernel (some task)

/-- `fr_mutex_waiter_removed_locked`. -/
def mutexWaiterRemovedLocked (kernel : Kernel) (index : Nat) : Kernel :=
  if (kernel.mutexes index).magic ≠ mutexMagic then kernel
  else
    match (kernel.mutexes index).owner with
    | none => kernel
    | some owner => mutexRecomputePriorityChainLocked kernel owner

/-- `fr_mutex_init`. -/
def mutexInit (kernel : Kernel) (index : Nat) : Kernel × Bool :=
  if kernel.running then (kernel, false)
  else (kernel.setMutex index ⟨mutexMagic, none⟩, true)

/-- The critical section of `fr_mutex_lock`. -/
def mutexLockSection
    (cpu : Cpu) (kernel : Kernel) (index : Nat) (timeout : WaitTimeout) :
    Kernel × Progress Bool :=
  match schedulerCurrentTask kernel with
  | none => (kernel, .returned false)
  | some current =>
      let mutex := kernel.mutexes index
      if cpu.basepri ≠ 0 ∨ mutex.magic ≠ mutexMagic ∨ kernel.running = false then
        (kernel, .returned false)
      else
        match mutex.owner with
        | none => (kernel.setMutex index { mutex with owner := some current }, .returned true)
        | some owner =>
            if owner = current then (kernel, .returned false)
            else
              match waitTimeoutRemaining kernel.tickCount timeout with
              | none => (kernel, .returned false)
              | some waitTicks =>
                  let blocked := schedulerBlockCurrentLocked kernel .mutex
                    (some (.mutex index)) waitTicks
                  if blocked.2 then
                    (mutexInheritPriorityChainLocked blocked.1 owner
                      (blocked.1.tasks current).priority, .waiting)
                  else (blocked.1, .returned false)

/-- `fr_mutex_unlock`, a single critical section. -/
def mutexUnlock (cpu : Cpu) (kernel : Kernel) (index : Nat) : Kernel × Bool :=
  if cpu.threadContextAllowed = false then (kernel, false)
  else
    match schedulerCurrentTask kernel with
    | none => (kernel, false)
    | some current =>
        let mutex := kernel.mutexes index
        if cpu.basepri ≠ 0 ∨ mutex.magic ≠ mutexMagic ∨ kernel.running = false ∨
            mutex.owner ≠ some current then (kernel, false)
        else
          match schedulerSelectWaiterLocked kernel .mutex (.mutex index) with
          | none =>
              let kernel := kernel.setMutex index { mutex with owner := none }
              (mutexRecomputePriorityChainLocked kernel current, true)
          | some waiter =>
              let handed := kernel.setMutex index { mutex with owner := some waiter }
              let woken := schedulerUnblockTaskLocked handed waiter .signaled
              if woken.2 then
                (schedulerRequestIfNeededLocked
                  (mutexRecomputePriorityChainLocked woken.1 current), true)
              else
                (woken.1.setMutex index { mutex with owner := some current }, false)

/-- One iteration of `fr_scheduler_expire_timeouts` at tick `now`. -/
def schedulerExpireStep (now : Word) (kernel : Kernel) (index : Nat) : Kernel :=
  let task := kernel.tasks index
  if task.state ≠ .blocked ∨ task.waitHasDeadline = false then kernel
  else if tickDeadlineReached now task.waitDeadline = false then kernel
  else
    let woken := schedulerUnblockTaskLocked kernel index .timeout
    if woken.2 then
      let kernel :=
        match task.waitReason, task.waitObject with
        | .mutex, some (.mutex mutex) => mutexWaiterRemovedLocked woken.1 mutex
        | _, _ => woken.1
      { kernel with counters := { kernel.counters with
          timeoutCount := kernel.counters.timeoutCount + 1
          lastTimeoutTaskId := task.id
          lastTimeoutTick := now
          lastTimeoutDeadline := task.waitDeadline } }
    else woken.1

/-- `fr_scheduler_expire_timeouts`. -/
def schedulerExpireTimeouts (kernel : Kernel) (now : Word) : Kernel :=
  (List.range kernel.taskCount).foldl (schedulerExpireStep now) kernel

/-- `fr_scheduler_tick_isr`; its final selection is that of
`fr_scheduler_request_if_needed_locked`. -/
def schedulerTickIsr (kernel : Kernel) : Kernel :=
  if kernel.running = false then kernel
  else schedulerRequestIfNeededLocked (schedulerExpireTimeouts kernel kernel.tickCount)

/-- `SysTick_Handler`. -/
def sysTickHandler (kernel : Kernel) : Kernel :=
  schedulerTickIsr { kernel with tickCount := kernel.tickCount + 1 }

/-- The critical section of `fr_task_sleep`, after its argument and context
checks. -/
def taskSleepSection (cpu : Cpu) (kernel : Kernel) (delayTicks : Word) :
    Kernel × Progress Bool :=
  if delayTicks = 0 ∨ waitMaxFiniteTicks < delayTicks then (kernel, .returned false)
  else if cpu.ipsr ≠ 0 ∨ cpu.primask ∨ cpu.faultmask then (kernel, .returned false)
  else
    match schedulerCurrentTask kernel with
    | none => (kernel, .returned false)
    | some current =>
        if cpu.basepri ≠ 0 ∨ kernel.running = false ∨
            (kernel.tasks current).state ≠ .running then (kernel, .returned false)
        else
          let blocked := schedulerBlockCurrentLocked kernel .sleep none delayTicks
          (blocked.1, if blocked.2 then .waiting else .returned false)

/-- The critical section of `fr_task_yield`: whether an `svc` follows. -/
def taskYieldSection (kernel : Kernel) : Bool :=
  if kernel.running then
    match kernel.currentTask with
    | some (.user current) =>
        match schedulerSelectNext kernel (some (.user current)) with
        | none => false
        | some next => decide (next ≠ .user current)
    | _ => false
  else false

end ForgeKernel
