import ForgeKernel.Model.Scheduler

/-!
# Message queues

`queue.c`.  Item buffers live in byte-addressed user memory, the ring in the
queue's own block; both copies run inside the critical section.
-/

namespace ForgeKernel

/-- User memory holding item buffers. -/
abbrev Memory := Nat → Byte

/-- `fr_queue_state_valid_locked`; division by a nonzero item size. -/
def queueStateValidLocked (queue : Queue) : Bool :=
  if queue.magic ≠ queueMagic ∨ queue.storage = 0 ∨ queue.capacity = 0 ∨
      queue.itemSize = 0 then false
  else if 0xFFFFFFFF#32 / queue.itemSize < queue.capacity then false
  else
    decide (queue.head < queue.capacity ∧ queue.tail < queue.capacity ∧
      queue.count ≤ queue.capacity)

/-- `fr_queue_next_index`. -/
def queueNextIndex (index capacity : Word) : Word :=
  if index + 1 = capacity then 0 else index + 1

/-- `fr_queue_copy_bytes`: `size` bytes from `source` to `destination`, each a
base offset into its own memory. -/
def queueCopyBytes
    (destination : Nat → Byte) (destinationBase : Nat)
    (source : Nat → Byte) (sourceBase : Nat) (size : Nat) : Nat → Byte :=
  (List.range size).foldl
    (fun memory i => Function.update memory (destinationBase + i) (source (sourceBase + i)))
    destination

/-- `fr_queue_wake_waiter_locked`. -/
def queueWakeWaiterLocked (kernel : Kernel) (reason : WaitReason) (index : Nat) : Kernel :=
  match schedulerSelectWaiterLocked kernel reason (.queue index) with
  | none => kernel
  | some waiter =>
      let woken := schedulerUnblockTaskLocked kernel waiter .signaled
      if woken.2 then schedulerRequestIfNeededLocked woken.1 else woken.1

/-- `fr_queue_try_send_locked`; `none` when the queue is full. -/
def queueTrySendLocked
    (kernel : Kernel) (memory : Memory) (index : Nat) (item : Word) : Option Kernel :=
  let queue := kernel.queues index
  if queue.count = queue.capacity then none
  else
    let offset := queue.tail * queue.itemSize
    let queue := { queue with
      bytes := queueCopyBytes queue.bytes offset.toNat memory item.toNat
        queue.itemSize.toNat
      tail := queueNextIndex queue.tail queue.capacity
      count := queue.count + 1 }
    some (queueWakeWaiterLocked (kernel.setQueue index queue) .queueReceive index)

/-- `fr_queue_try_receive_locked`; `none` when the queue is empty. -/
def queueTryReceiveLocked
    (kernel : Kernel) (memory : Memory) (index : Nat) (item : Word) :
    Option (Kernel × Memory) :=
  let queue := kernel.queues index
  if queue.count = 0 then none
  else
    let offset := queue.head * queue.itemSize
    let memory := queueCopyBytes memory item.toNat queue.bytes offset.toNat
      queue.itemSize.toNat
    let queue := { queue with
      head := queueNextIndex queue.head queue.capacity
      count := queue.count - 1 }
    some (queueWakeWaiterLocked (kernel.setQueue index queue) .queueSend index, memory)

/-- `fr_queue_init`. -/
def queueInit
    (kernel : Kernel) (index : Nat) (storage capacity itemSize : Word) : Kernel × Bool :=
  if storage = 0 ∨ capacity = 0 ∨ itemSize = 0 ∨ 0xFFFFFFFF#32 / itemSize < capacity ∨
      kernel.running then (kernel, false)
  else
    (kernel.setQueue index { kernel.queues index with
      magic := queueMagic
      storage := storage
      capacity := capacity
      itemSize := itemSize
      head := 0
      tail := 0
      count := 0 }, true)

/-- The part of the two loop bodies that follows a failed transfer. -/
def queueBlockSection
    (kernel : Kernel) (reason : WaitReason) (index : Nat) (timeout : WaitTimeout) :
    Kernel × Progress Bool :=
  match waitTimeoutRemaining kernel.tickCount timeout with
  | none => (kernel, .returned false)
  | some waitTicks =>
      let blocked := schedulerBlockCurrentLocked kernel reason (some (.queue index)) waitTicks
      (blocked.1, if blocked.2 then .waiting else .returned false)

/-- One critical section of the loop in `fr_queue_send_wait`. -/
def queueSendSection
    (cpu : Cpu) (kernel : Kernel) (memory : Memory)
    (index : Nat) (item : Word) (timeout : WaitTimeout) : Kernel × Progress Bool :=
  if cpu.basepri ≠ 0 ∨ kernel.running = false ∨ schedulerCurrentTask kernel = none ∨
      queueStateValidLocked (kernel.queues index) = false then (kernel, .returned false)
  else
    match queueTrySendLocked kernel memory index item with
    | some kernel => (kernel, .returned true)
    | none => queueBlockSection kernel .queueSend index timeout

/-- One critical section of the loop in `fr_queue_receive_wait`. -/
def queueReceiveSection
    (cpu : Cpu) (kernel : Kernel) (memory : Memory)
    (index : Nat) (item : Word) (timeout : WaitTimeout) :
    Kernel × Memory × Progress Bool :=
  if cpu.basepri ≠ 0 ∨ kernel.running = false ∨ schedulerCurrentTask kernel = none ∨
      queueStateValidLocked (kernel.queues index) = false then
    (kernel, memory, .returned false)
  else
    match queueTryReceiveLocked kernel memory index item with
    | some (kernel, memory) => (kernel, memory, .returned true)
    | none =>
        let blocked := queueBlockSection kernel .queueReceive index timeout
        (blocked.1, memory, blocked.2)

end ForgeKernel
