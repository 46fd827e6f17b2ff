import ForgeKernel.Model.Scheduler

/-!
# Binary and counting semaphores

`semaphore.c`.  The public wrappers inspect the object before any critical
section; their shared code runs in one.
-/

namespace ForgeKernel

/-- `fr_binary_semaphore_init`. -/
def binarySemaphoreInit (kernel : Kernel) (index : Nat) (initiallyAvailable : Bool) :
    Kernel × Bool :=
  if kernel.running then (kernel, false)
  else
    ({ kernel with
      binarySemaphores := Function.update kernel.binarySemaphores index
        ⟨binarySemaphoreMagic, if initiallyAvailable then 1 else 0⟩ }, true)

/-- `fr_counting_semaphore_init`. -/
def countingSemaphoreInit (kernel : Kernel) (index : Nat) (initialCount maxCount : Word) :
    Kernel × Bool :=
  if maxCount = 0 ∨ maxCount < initialCount ∨ kernel.running then (kernel, false)
  else
    ({ kernel with
      countingSemaphores := Function.update kernel.countingSemaphores index
        ⟨countingSemaphoreMagic, initialCount, maxCount⟩ }, true)

/-- The unprotected object checks of the take and give wrappers. -/
def semaphoreGuard (kernel : Kernel) : SemaphoreRef → Bool
  | .binary index =>
      let semaphore := kernel.binarySemaphores index
      decide (semaphore.magic = binarySemaphoreMagic ∧ semaphore.available ≤ 1)
  | .counting index =>
      let semaphore := kernel.countingSemaphores index
      decide (semaphore.magic = countingSemaphoreMagic ∧ semaphore.maxCount ≠ 0 ∧
        semaphore.count ≤ semaphore.maxCount)

/-- The critical section of `fr_semaphore_take_common`. -/
def semaphoreTakeSection
    (cpu : Cpu) (kernel : Kernel) (semaphore : SemaphoreRef) (timeout : WaitTimeout) :
    Kernel × Progress Bool :=
  if cpu.basepri ≠ 0 ∨ kernel.running = false ∨ schedulerCurrentTask kernel = none then
    (kernel, .returned false)
  else if kernel.semaphoreCount semaphore ≠ 0 then
    (kernel.setSemaphoreCount semaphore (kernel.semaphoreCount semaphore - 1),
      .returned true)
  else
    match waitTimeoutRemaining kernel.tickCount timeout with
    | none => (kernel, .returned false)
    | some waitTicks =>
        let blocked := schedulerBlockCurrentLocked kernel .sync
          (some (.semaphore semaphore)) waitTicks
        (blocked.1, if blocked.2 then .waiting else .returned false)

/-- `fr_semaphore_give_common` with `max_count` read by the wrapper. -/
def semaphoreGiveSection
    (cpu : Cpu) (kernel : Kernel) (semaphore : SemaphoreRef) (maxCount : Word) :
    Kernel × Bool :=
  if maxCount = 0 ∨ cpu.threadContextAllowed = false then (kernel, false)
  else if cpu.basepri ≠ 0 ∨ kernel.running = false ∨ schedulerCurrentTask kernel = none then
    (kernel, false)
  else
    match schedulerSelectWaiterLocked kernel .sync (.semaphore semaphore) with
    | some waiter =>
        if kernel.semaphoreCount semaphore ≠ 0 then (kernel, false)
        else
          let woken := schedulerUnblockTaskLocked kernel waiter .signaled
          if woken.2 then (schedulerRequestIfNeededLocked woken.1, true)
          else (woken.1, false)
    | none =>
        if maxCount ≤ kernel.semaphoreCount semaphore then (kernel, false)
        else
          (kernel.setSemaphoreCount semaphore (kernel.semaphoreCount semaphore + 1), true)

end ForgeKernel
