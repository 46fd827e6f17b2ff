import ForgeKernel.Model.Task

/-!
# Kernel state

The static data of the kernel: task registry, idle task, current pointer, tick
counter, trace ring, synchronization objects, and the two pieces of hardware
state that kernel code writes, the PendSV pending bit and the stack memory.
Objects live in zero-initialized storage until their init function runs.
-/

namespace ForgeKernel

/-- `fr_trace_event_t`. -/
inductive TraceEvent
  | none
  | taskCreate
  | schedulerStart
  | taskBlock
  | taskTimeout
  | taskUnblock
  | contextSwitch
  deriving DecidableEq, Repr

/-- `fr_trace_entry_t`. -/
structure TraceEntry where
  sequence : Word
  tick : Word
  event : TraceEvent
  taskId : Nat
  arg0 : Word
  arg1 : Word
  deriving DecidableEq, Repr

/-- The arguments of one call of `fr_trace_record_locked`. -/
structure TraceCall where
  event : TraceEvent
  taskId : Nat
  arg0 : Word
  arg1 : Word
  deriving DecidableEq, Repr

/-- The static variables of `trace.c`.  The last field is a ghost: the calls of
`fr_trace_record_locked` so far, oldest first, which the source does not store. -/
structure Trace where
  buffer : Nat → TraceEntry
  writeIndex : Nat
  count : Nat
  nextSequence : Word
  overwrittenEvents : Word
  enabled : Bool
  calls : List TraceCall

/-- `FR_TRACE_BUFFER_CAPACITY`. -/
def traceBufferCapacity : Nat := 128

/-- The trace variables in zero-initialized storage. -/
def Trace.zero : Trace where
  buffer := fun _ => ⟨0, 0, .none, 0, 0, 0⟩
  writeIndex := 0
  count := 0
  nextSequence := 0
  overwrittenEvents := 0
  enabled := false
  calls := []

/-- `fr_trace_advance_index`. -/
def traceAdvanceIndex (index : Nat) : Nat :=
  if index + 1 = traceBufferCapacity then 0 else index + 1

/-- `fr_trace_init`. -/
def traceInit (trace : Trace) : Trace :=
  { trace with
    writeIndex := 0
    count := 0
    nextSequence := 1
    overwrittenEvents := 0
    enabled := true }

/-- `fr_trace_enable`. -/
def traceEnable (trace : Trace) (enabled : Bool) : Trace :=
  { trace with enabled := enabled }

/-- `fr_trace_clear`. -/
def traceClear (trace : Trace) : Trace :=
  { trace with
    writeIndex := 0
    count := 0
    nextSequence := 1
    overwrittenEvents := 0 }

/-- `fr_trace_record_locked` at tick `now`. -/
def traceRecordLocked
    (trace : Trace) (now : Word) (event : TraceEvent)
    (taskId : Nat) (arg0 arg1 : Word) : Trace :=
  if trace.enabled = false ∨ event = .none then trace
  else
    { trace with
      buffer := Function.update trace.buffer trace.writeIndex
        ⟨trace.nextSequence, now, event, taskId, arg0, arg1⟩
      nextSequence := trace.nextSequence + 1
      writeIndex := traceAdvanceIndex trace.writeIndex
      count :=
        if trace.count < traceBufferCapacity then trace.count + 1 else trace.count
      overwrittenEvents :=
        if trace.count < traceBufferCapacity then trace.overwrittenEvents
        else trace.overwrittenEvents + 1 }

/-- `fr_mutex_t`; the owner is a registry slot. -/
structure Mutex where
  magic : Word
  owner : Option Nat
  deriving DecidableEq, Repr

/-- `fr_binary_semaphore_t`. -/
structure BinarySemaphore where
  magic : Word
  available : Word
  deriving DecidableEq, Repr

/-- `fr_counting_semaphore_t`. -/
structure CountingSemaphore where
  magic : Word
  count : Word
  maxCount : Word
  deriving DecidableEq, Repr

/-- `fr_queue_t`, together with the bytes behind its `storage` pointer.  Only
the queue writes that block, so it is kept with the queue. -/
structure Queue where
  magic : Word
  storage : Word
  capacity : Word
  itemSize : Word
  head : Word
  tail : Word
  count : Word
  bytes : Nat → Byte

/-- `fr_event_flags_t`. -/
structure EventFlags where
  magic : Word
  bits : Word
  deriving DecidableEq, Repr

/-- `FR_MUTEX_MAGIC`. -/
def mutexMagic : Word := 0x46524D58#32

/-- `FR_BINARY_SEMAPHORE_MAGIC`. -/
def binarySemaphoreMagic : Word := 0x46525342#32

/-- `FR_COUNTING_SEMAPHORE_MAGIC`. -/
def countingSemaphoreMagic : Word := 0x46524353#32

/-- `FR_QUEUE_MAGIC`. -/
def queueMagic : Word := 0x46525155#32

/-- `FR_EVENT_FLAGS_MAGIC`. -/
def eventFlagsMagic : Word := 0x46524546#32

/-- Debug counters of the scheduler. -/
structure SchedulerCounters where
  contextSwitchCount : Word
  timeoutCount : Word
  lastTimeoutTaskId : Nat
  lastTimeoutTick : Word
  lastTimeoutDeadline : Word
  deriving DecidableEq, Repr

/-- Ways the machine stops for good: a failed `FR_ASSERT`, the `udf` traps of
`PendSV_Handler` and `SVC_Handler`, and an `svc` under PRIMASK or FAULTMASK. -/
inductive Halt
  | assertion
  | pendSvInvalid
  | svcInvalid
  | svcEscalated
  deriving DecidableEq, Repr

/-- The kernel's static data. -/
structure Kernel where
  tasks : Nat → Task
  taskCount : Nat
  idleTask : Task
  currentTask : Option TaskRef
  running : Bool
  counters : SchedulerCounters
  tickCount : Word
  trace : Trace
  pendSv : Bool
  halted : Option Halt
  stackMemory : Word → Word
  mutexes : Nat → Mutex
  binarySemaphores : Nat → BinarySemaphore
  countingSemaphores : Nat → CountingSemaphore
  queues : Nat → Queue
  eventFlags : Nat → EventFlags

namespace Kernel

/-- Kernel data as the reset handler leaves it. -/
def reset : Kernel where
  tasks := fun _ => .zero
  taskCount := 0
  idleTask := .zero
  currentTask := none
  running := false
  counters := ⟨0, 0, 0, 0, 0⟩
  tickCount := 0
  trace := .zero
  pendSv := false
  halted := none
  stackMemory := fun _ => 0
  mutexes := fun _ => ⟨0, none⟩
  binarySemaphores := fun _ => ⟨0, 0⟩
  countingSemaphores := fun _ => ⟨0, 0, 0⟩
  queues := fun _ => ⟨0, 0, 0, 0, 0, 0, 0, fun _ => 0⟩
  eventFlags := fun _ => ⟨0, 0⟩

/-- Store a registry slot. -/
def setTask (kernel : Kernel) (index : Nat) (task : Task) : Kernel :=
  { kernel with tasks := Function.update kernel.tasks index task }

/-- Read through a task pointer. -/
def taskAt (kernel : Kernel) : TaskRef → Task
  | .idle => kernel.idleTask
  | .user index => kernel.tasks index

/-- Write through a task pointer. -/
def setTaskAt (kernel : Kernel) : TaskRef → Task → Kernel
  | .idle, task => { kernel with idleTask := task }
  | .user index, task => kernel.setTask index task

/-- Store one effective priority. -/
def setPriority (kernel : Kernel) (index priority : Nat) : Kernel :=
  kernel.setTask index { kernel.tasks index with priority := priority }

/-- Replace every effective priority and nothing else. -/
def withPriorities (kernel : Kernel) (priorities : Nat → Nat) : Kernel :=
  { kernel with
    tasks := fun index => { kernel.tasks index with priority := priorities index } }

/-- Store one mutex. -/
def setMutex (kernel : Kernel) (index : Nat) (mutex : Mutex) : Kernel :=
  { kernel with mutexes := Function.update kernel.mutexes index mutex }

/-- Store one queue. -/
def setQueue (kernel : Kernel) (index : Nat) (queue : Queue) : Kernel :=
  { kernel with queues := Function.update kernel.queues index queue }

/-- Store one event-flags object. -/
def setEventFlags (kernel : Kernel) (index : Nat) (flags : EventFlags) : Kernel :=
  { kernel with eventFlags := Function.update kernel.eventFlags index flags }

/-- The `uint32_t *count` a semaphore wrapper hands to the common code. -/
def semaphoreCount (kernel : Kernel) : SemaphoreRef → Word
  | .binary index => (kernel.binarySemaphores index).available
  | .counting index => (kernel.countingSemaphores index).count

/-- Write through the same pointer. -/
def setSemaphoreCount (kernel : Kernel) : SemaphoreRef → Word → Kernel
  | .binary index, count =>
      { kernel with
        binarySemaphores := Function.update kernel.binarySemaphores index
          { kernel.binarySemaphores index with available := count } }
  | .counting index, count =>
      { kernel with
        countingSemaphores := Function.update kernel.countingSemaphores index
          { kernel.countingSemaphores index with count := count } }

/-- The `max_count` a give wrapper hands to the common code. -/
def semaphoreMaxCount (kernel : Kernel) : SemaphoreRef → Word
  | .binary _ => 1
  | .counting index => (kernel.countingSemaphores index).maxCount

/-- Call `fr_trace_record_locked`. -/
def record
    (kernel : Kernel) (event : TraceEvent)
    (taskId : Nat) (arg0 arg1 : Word) : Kernel :=
  { kernel with
    trace :=
      { traceRecordLocked kernel.trace kernel.tickCount event taskId arg0 arg1 with
        calls := kernel.trace.calls ++ [⟨event, taskId, arg0, arg1⟩] } }

/-- `fr_port_request_context_switch`. -/
def portRequestContextSwitch (kernel : Kernel) : Kernel :=
  { kernel with pendSv := true }

/-- Stop for good; no later step leaves a halted state. -/
def halt (kernel : Kernel) (reason : Halt) : Kernel :=
  { kernel with halted := some reason }

end Kernel

/-- `fr_tick_deadline_reached`. -/
def tickDeadlineReached (now deadline : Word) : Bool :=
  decide (now - deadline ≤ 0x7FFFFFFF#32)

/-- `fr_wait_timeout_t`. -/
structure WaitTimeout where
  waitForever : Bool
  deadline : Word
  deriving DecidableEq, Repr

/-- `fr_wait_timeout_start` at tick `now`; `none` is the `false` return. -/
def waitTimeoutStart (now timeoutTicks : Word) : Option WaitTimeout :=
  if waitMaxFiniteTicks < timeoutTicks ∧ timeoutTicks ≠ waitForever then none
  else if timeoutTicks = waitForever then some ⟨true, 0⟩
  else some ⟨false, now + timeoutTicks⟩

/-- `fr_wait_timeout_remaining` at tick `now`; `none` is the `false` return. -/
def waitTimeoutRemaining (now : Word) (timeout : WaitTimeout) : Option Word :=
  if timeout.waitForever then some waitForever
  else if tickDeadlineReached now timeout.deadline then none
  else some (timeout.deadline - now)

/-- The CPU registers that kernel entry points inspect. -/
structure Cpu where
  ipsr : Word
  primask : Bool
  faultmask : Bool
  basepri : Word
  deriving DecidableEq, Repr

/-- Thread mode with no interrupt masked. -/
def Cpu.unmasked : Cpu := ⟨0, false, false, 0⟩

/-- The `thread_context_allowed` check that `mutex.c`, `semaphore.c`, `queue.c`
and `event_flags.c` each repeat. -/
def Cpu.threadContextAllowed (cpu : Cpu) : Bool :=
  cpu.ipsr = 0 && !cpu.primask && !cpu.faultmask && cpu.basepri = 0

/-- PendSV has the lowest exception priority, so any implemented BASEPRI value
masks it. -/
def Cpu.pendSvMasked (cpu : Cpu) : Bool :=
  cpu.primask || cpu.faultmask || cpu.basepri ≠ 0

/-- SysTick runs at `FR_CONFIG_KERNEL_INTERRUPT_CEILING`, encoded `0x80`. -/
def Cpu.sysTickMasked (cpu : Cpu) : Bool :=
  cpu.primask || cpu.faultmask || (cpu.basepri ≠ 0 && cpu.basepri ≤ 0x80#32)

end ForgeKernel
