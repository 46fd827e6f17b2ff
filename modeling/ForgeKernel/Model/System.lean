import ForgeKernel.Library.Machine
import ForgeKernel.Model.Mutex
import ForgeKernel.Model.Semaphore
import ForgeKernel.Model.Queue
import ForgeKernel.Model.EventFlags
import ForgeKernel.Model.TaskCreate
import ForgeKernel.Model.Diagnostics

/-!
# The running system

Threads, kernel calls and exceptions interleaved.  A call is cut at every point
where another thread or an exception can run: a critical section is one step, an
exception handler is one step, and every read of shared state outside a critical
section is a step of its own.  A thread in the middle of a call keeps its
program point and its local variables in a frame.
-/

namespace ForgeKernel

open Machines

/-- Threads: the boot code until the scheduler starts, then the user tasks. -/
inductive Thread
  | boot
  | task (index : Nat)
  deriving DecidableEq, Repr

/-- Kernel calls with their arguments.  A pointer that the source compares with
`NULL` is an `Option`, or a flag when only its presence matters. -/
inductive Call
  | taskCreate (outTask : Bool) (config : Option TaskConfig)
  | taskSleep (delayTicks : Word)
  | taskYield
  | schedulerStart
  | mutexInit (mutex : Option Nat)
  | mutexLock (mutex : Option Nat) (timeoutTicks : Word)
  | mutexUnlock (mutex : Option Nat)
  | binarySemaphoreInit (semaphore : Option Nat) (initiallyAvailable : Bool)
  | countingSemaphoreInit (semaphore : Option Nat) (initialCount maxCount : Word)
  | semaphoreTake (semaphore : Option SemaphoreRef) (timeoutTicks : Word)
  | semaphoreGive (semaphore : Option SemaphoreRef)
  | queueInit (queue : Option Nat) (storage capacity itemSize : Word)
  | queueSendWait (queue : Option Nat) (item timeoutTicks : Word)
  | queueReceiveWait (queue : Option Nat) (item timeoutTicks : Word)
  | eventFlagsInit (flags : Option Nat)
  | eventFlagsSet (flags : Option Nat) (bits : Word)
  | eventFlagsClear (flags : Option Nat) (bits : Word)
  | eventFlagsGet (flags : Option Nat) (bits : Bool)
  | eventFlagsWait (flags : Option Nat) (request : FlagsRequest) (timeoutTicks : Word)
      (matchedBits : Bool)
  | kernelCheckInvariants (outReport : Bool)
  | traceInit
  | traceEnable (enabled : Bool)
  | traceClear
  deriving DecidableEq, Repr

/-- `fr_queue_send`. -/
def Call.queueSend (queue : Option Nat) (item : Word) : Call :=
  .queueSendWait queue item 0

/-- `fr_queue_receive`. -/
def Call.queueReceive (queue : Option Nat) (item : Word) : Call :=
  .queueReceiveWait queue item 0

/-- `fr_binary_semaphore_take`. -/
def Call.binarySemaphoreTake (semaphore : Option Nat) (timeoutTicks : Word) : Call :=
  .semaphoreTake (semaphore.map .binary) timeoutTicks

/-- `fr_counting_semaphore_take`. -/
def Call.countingSemaphoreTake (semaphore : Option Nat) (timeoutTicks : Word) : Call :=
  .semaphoreTake (semaphore.map .counting) timeoutTicks

/-- `fr_binary_semaphore_give`. -/
def Call.binarySemaphoreGive (semaphore : Option Nat) : Call :=
  .semaphoreGive (semaphore.map .binary)

/-- `fr_counting_semaphore_give`. -/
def Call.countingSemaphoreGive (semaphore : Option Nat) : Call :=
  .semaphoreGive (semaphore.map .counting)

/-- Preemption points inside a call, with the locals that survive them. -/
inductive Point
  /-- The call has been made and nothing shared has been read. -/
  | entry
  /-- A semaphore wrapper's checks have passed; `max_count` has been read. -/
  | guarded (maxCount : Word)
  /-- `fr_wait_timeout_start` has run; the critical section is next. -/
  | armed (timeout : WaitTimeout)
  /-- The critical section was left blocked; `wait_result` is read next. -/
  | suspended (timeout : WaitTimeout)
  /-- `wait_result` was read as signaled. -/
  | signaled (timeout : WaitTimeout)
  /-- `fr_task_sleep` left its critical section blocked. -/
  | asleep
  /-- `fr_task_yield` is about to execute its `svc`. -/
  | svc
  /-- `fr_task_create` has reserved a slot. -/
  | reserved (index : Nat)
  /-- The stack of the reserved slot is built. -/
  | built (index : Nat) (initialSp : Word)
  /-- `fr_port_start_first_task` does not return. -/
  | departed
  deriving DecidableEq, Repr

/-- What a thread is doing. -/
inductive Frame
  | user
  | inCall (call : Call) (point : Point)
  deriving DecidableEq, Repr

/-- Values handed back to the caller, out parameters included. -/
inductive Reply
  | unit
  | bool (value : Bool)
  | taskStatus (status : TaskStatus) (outTask : Option Nat)
  | schedulerAlreadyRunning
  | bits (value : Option Word)
  | matched (value : Bool) (matchedBits : Option Word)
  | report (value : Option (InvariantReport × Bool))
  deriving DecidableEq, Repr

/-- How a thread's step ends: at another point of the call, or back in user code. -/
inductive Outcome
  | goto (point : Point)
  | reply (value : Reply)
  deriving DecidableEq, Repr

/-- Kernel and user memory after a thread's step, and where the thread stands. -/
structure StepResult where
  kernel : Kernel
  memory : Memory
  outcome : Outcome

/-- A step that returns from the call. -/
def StepResult.reply (kernel : Kernel) (memory : Memory) (value : Reply) : StepResult :=
  ⟨kernel, memory, .reply value⟩

/-- A step to another point of the call. -/
def StepResult.goto (kernel : Kernel) (memory : Memory) (point : Point) : StepResult :=
  ⟨kernel, memory, .goto point⟩

/-- The end of a critical section that returns or waits. -/
def StepResult.ofProgress
    (memory : Memory) (waiting : Point) : Kernel × Progress Bool → StepResult
  | (kernel, .returned value) => .reply kernel memory (.bool value)
  | (kernel, .waiting) => .goto kernel memory waiting

/-- The context check and `fr_wait_timeout_start` that precede a critical
section. -/
def StepResult.arm
    (cpu : Cpu) (kernel : Kernel) (memory : Memory) (timeoutTicks : Word)
    (failure : Reply) : StepResult :=
  if cpu.threadContextAllowed then
    match waitTimeoutStart kernel.tickCount timeoutTicks with
    | some timeout => .goto kernel memory (.armed timeout)
    | none => .reply kernel memory failure
  else .reply kernel memory failure

/-- `*matched_bits`, present when the pointer is. -/
def reportMatched (value : Bool) (pointer : Bool) (bits : Word) : Reply :=
  .matched value (if pointer then some bits else none)

section Calls

variable (cfg : Config) (cpu : Cpu) (kernel : Kernel) (memory : Memory)

/-- `fr_task_create`. -/
def taskCreateStep (outTask : Bool) (config : Option TaskConfig) :
    Point → Option StepResult
  | .entry =>
      match outTask, config with
      | true, some config =>
          match taskCreateCheck cfg config with
          | .ok =>
              match taskCreateReserve cfg kernel config with
              | some reserved => some (.goto reserved memory (.reserved kernel.taskCount))
              | none => some (.reply kernel memory (.taskStatus .noCapacity none))
          | status => some (.reply kernel memory (.taskStatus status none))
      | _, _ => some (.reply kernel memory (.taskStatus .invalidArgument none))
  | .reserved index =>
      let built := taskCreateBuild cfg kernel index
      some (.goto built.1 memory (.built index built.2))
  | .built index initialSp =>
      some (.reply (taskCreatePublish kernel index initialSp) memory
        (.taskStatus .ok (some index)))
  | _ => none

/-- `fr_task_sleep`. -/
def taskSleepStep (self : Nat) (delayTicks : Word) : Point → Option StepResult
  | .entry => some (.ofProgress memory .asleep (taskSleepSection cpu kernel delayTicks))
  | .asleep => some (.reply kernel memory (.bool ((kernel.tasks self).waitResult = .timeout)))
  | _ => none

/-- `fr_task_yield`. -/
def taskYieldStep : Point → Option StepResult
  | .entry =>
      if taskYieldSection kernel then some (.goto kernel memory .svc)
      else some (.reply kernel memory .unit)
  | .svc =>
      if cpu.primask || cpu.faultmask then
        some (.reply (kernel.halt .svcEscalated) memory .unit)
      else some (.reply kernel.portRequestContextSwitch memory .unit)
  | _ => none

/-- `fr_scheduler_start`. -/
def schedulerStartStep : Point → Option StepResult
  | .entry =>
      match schedulerStart cfg cpu kernel with
      | some started => some (.goto started memory .departed)
      | none => some (.reply kernel memory .schedulerAlreadyRunning)
  | _ => none

/-- Calls whose only shared access is one atomic update. -/
def atomicStep (result : Kernel × Bool) : Point → Option StepResult
  | .entry => some (.reply result.1 memory (.bool result.2))
  | _ => none

/-- `fr_mutex_lock`. -/
def mutexLockStep (self : Nat) (mutex : Option Nat) (timeoutTicks : Word) :
    Point → Option StepResult
  | .entry =>
      match mutex with
      | none => some (.reply kernel memory (.bool false))
      | some _ => some (.arm cpu kernel memory timeoutTicks (.bool false))
  | .armed timeout =>
      mutex.map fun index =>
        .ofProgress memory (.suspended timeout) (mutexLockSection cpu kernel index timeout)
  | .suspended timeout =>
      if (kernel.tasks self).waitResult = .signaled then
        some (.goto kernel memory (.signaled timeout))
      else some (.reply kernel memory (.bool false))
  | .signaled _ =>
      mutex.map fun index =>
        .reply kernel memory (.bool ((kernel.mutexes index).owner = some self))
  | _ => none

/-- `fr_binary_semaphore_take` and `fr_counting_semaphore_take`. -/
def semaphoreTakeStep (self : Nat) (semaphore : Option SemaphoreRef) (timeoutTicks : Word) :
    Point → Option StepResult
  | .entry =>
      match semaphore with
      | none => some (.reply kernel memory (.bool false))
      | some ref =>
          if semaphoreGuard kernel ref then
            some (.goto kernel memory (.guarded (kernel.semaphoreMaxCount ref)))
          else some (.reply kernel memory (.bool false))
  | .guarded _ => some (.arm cpu kernel memory timeoutTicks (.bool false))
  | .armed timeout =>
      semaphore.map fun ref =>
        .ofProgress memory (.suspended timeout) (semaphoreTakeSection cpu kernel ref timeout)
  | .suspended _ =>
      some (.reply kernel memory (.bool ((kernel.tasks self).waitResult = .signaled)))
  | _ => none

/-- `fr_binary_semaphore_give` and `fr_counting_semaphore_give`. -/
def semaphoreGiveStep (semaphore : Option SemaphoreRef) : Point → Option StepResult
  | .entry =>
      match semaphore with
      | none => some (.reply kernel memory (.bool false))
      | some ref =>
          if semaphoreGuard kernel ref then
            some (.goto kernel memory (.guarded (kernel.semaphoreMaxCount ref)))
          else some (.reply kernel memory (.bool false))
  | .guarded maxCount =>
      semaphore.map fun ref =>
        let given := semaphoreGiveSection cpu kernel ref maxCount
        .reply given.1 memory (.bool given.2)
  | _ => none

/-- The entry of both queue loops. -/
def queueEntryStep (queue : Option Nat) (item timeoutTicks : Word) : StepResult :=
  if queue = none ∨ item = 0 then .reply kernel memory (.bool false)
  else .arm cpu kernel memory timeoutTicks (.bool false)

/-- The two reads of `wait_result` that decide whether a queue loop goes round. -/
def queueResumeStep (self : Nat) (timeout : WaitTimeout) : StepResult :=
  match (kernel.tasks self).waitResult with
  | .signaled => .goto kernel memory (.signaled timeout)
  | .timeout | .pending => .reply kernel memory (.bool false)

/-- `fr_queue_send_wait`. -/
def queueSendStep (self : Nat) (queue : Option Nat) (item timeoutTicks : Word) :
    Point → Option StepResult
  | .entry => some (queueEntryStep cpu kernel memory queue item timeoutTicks)
  | .armed timeout | .signaled timeout =>
      queue.map fun index =>
        .ofProgress memory (.suspended timeout)
          (queueSendSection cpu kernel memory index item timeout)
  | .suspended timeout => some (queueResumeStep kernel memory self timeout)
  | _ => none

/-- `fr_queue_receive_wait`. -/
def queueReceiveStep (self : Nat) (queue : Option Nat) (item timeoutTicks : Word) :
    Point → Option StepResult
  | .entry => some (queueEntryStep cpu kernel memory queue item timeoutTicks)
  | .armed timeout | .signaled timeout =>
      queue.map fun index =>
        let received := queueReceiveSection cpu kernel memory index item timeout
        .ofProgress received.2.1 (.suspended timeout) (received.1, received.2.2)
  | .suspended timeout => some (queueResumeStep kernel memory self timeout)
  | _ => none

/-- `fr_event_flags_wait`. -/
def eventFlagsWaitStep
    (self : Nat) (flags : Option Nat) (request : FlagsRequest) (timeoutTicks : Word)
    (matchedBits : Bool) : Point → Option StepResult
  | .entry =>
      if flags = none ∨ request.mask = 0 then
        some (.reply kernel memory (reportMatched false matchedBits 0))
      else some (.arm cpu kernel memory timeoutTicks (reportMatched false matchedBits 0))
  | .armed timeout =>
      flags.map fun index =>
        match eventFlagsWaitSection cpu kernel index request timeout with
        | (kernel, .returned (value, matched)) =>
            .reply kernel memory (reportMatched value matchedBits matched)
        | (kernel, .waiting) => .goto kernel memory (.suspended timeout)
  | .suspended timeout =>
      if (kernel.tasks self).waitResult = .signaled then
        some (.goto kernel memory (.signaled timeout))
      else some (.reply kernel memory (reportMatched false matchedBits 0))
  | .signaled _ =>
      some (.reply kernel memory
        (reportMatched true matchedBits (kernel.tasks self).waitFlagsResult))
  | _ => none

/-- One step of thread `self` inside a call. -/
def Call.step (self : Nat) : Call → Point → Option StepResult
  | .taskCreate outTask config => taskCreateStep cfg kernel memory outTask config
  | .taskSleep delayTicks => taskSleepStep cpu kernel memory self delayTicks
  | .taskYield => taskYieldStep cpu kernel memory
  | .schedulerStart => schedulerStartStep cfg cpu kernel memory
  | .mutexInit mutex =>
      atomicStep memory (mutex.elim (kernel, false) (ForgeKernel.mutexInit kernel))
  | .mutexLock mutex timeoutTicks => mutexLockStep cpu kernel memory self mutex timeoutTicks
  | .mutexUnlock mutex =>
      atomicStep memory (mutex.elim (kernel, false) (ForgeKernel.mutexUnlock cpu kernel))
  | .binarySemaphoreInit semaphore initiallyAvailable =>
      atomicStep memory (semaphore.elim (kernel, false)
        fun index => ForgeKernel.binarySemaphoreInit kernel index initiallyAvailable)
  | .countingSemaphoreInit semaphore initialCount maxCount =>
      atomicStep memory (semaphore.elim (kernel, false)
        fun index => ForgeKernel.countingSemaphoreInit kernel index initialCount maxCount)
  | .semaphoreTake semaphore timeoutTicks =>
      semaphoreTakeStep cpu kernel memory self semaphore timeoutTicks
  | .semaphoreGive semaphore => semaphoreGiveStep cpu kernel memory semaphore
  | .queueInit queue storage capacity itemSize =>
      atomicStep memory (queue.elim (kernel, false)
        fun index => ForgeKernel.queueInit kernel index storage capacity itemSize)
  | .queueSendWait queue item timeoutTicks =>
      queueSendStep cpu kernel memory self queue item timeoutTicks
  | .queueReceiveWait queue item timeoutTicks =>
      queueReceiveStep cpu kernel memory self queue item timeoutTicks
  | .eventFlagsInit flags =>
      atomicStep memory (flags.elim (kernel, false) (ForgeKernel.eventFlagsInit kernel))
  | .eventFlagsSet flags bits =>
      atomicStep memory (flags.elim (kernel, false)
        fun index => ForgeKernel.eventFlagsSet cpu kernel index bits)
  | .eventFlagsClear flags bits =>
      atomicStep memory (flags.elim (kernel, false)
        fun index => ForgeKernel.eventFlagsClear cpu kernel index bits)
  | .eventFlagsGet flags bits => fun
      | .entry =>
          some (.reply kernel memory (.bits (if bits then
            flags.bind (ForgeKernel.eventFlagsGet cpu kernel) else none)))
      | _ => none
  | .eventFlagsWait flags request timeoutTicks matchedBits =>
      eventFlagsWaitStep cpu kernel memory self flags request timeoutTicks matchedBits
  | .kernelCheckInvariants outReport => fun
      | .entry =>
          some (.reply kernel memory (.report (if outReport then
            some (ForgeKernel.kernelCheckInvariants cfg kernel) else none)))
      | _ => none
  | .traceInit =>
      atomicStep memory ({ kernel with trace := ForgeKernel.traceInit kernel.trace }, true)
  | .traceEnable enabled =>
      atomicStep memory
        ({ kernel with trace := ForgeKernel.traceEnable kernel.trace enabled }, true)
  | .traceClear =>
      atomicStep memory ({ kernel with trace := ForgeKernel.traceClear kernel.trace }, true)

end Calls

/-- The whole system: kernel data, CPU masks, the frame of every thread, user
memory, and the unbounded number of SysTicks so far. -/
structure System where
  kernel : Kernel
  cpu : Cpu
  frames : Thread → Frame
  memory : Memory
  time : Nat

/-- State at the entry of `main`. -/
def System.boot : System where
  kernel := .reset
  cpu := .unmasked
  frames := fun _ => .user
  memory := fun _ => 0
  time := 0

/-- Observable events of a run. -/
inductive Event
  | called (thread : Thread) (call : Call)
  | returned (thread : Thread) (call : Call) (reply : Reply)
  /-- Bytes read from the sender's buffer by a successful send. -/
  | sent (thread : Thread) (queue : Nat) (bytes : List Byte)
  /-- Bytes left in the receiver's buffer by a successful receive. -/
  | received (thread : Thread) (queue : Nat) (bytes : List Byte)
  /-- Bits against which a set or a wait judged conditions, before any clearing. -/
  | evaluated (thread : Thread) (flags : Nat) (bits : Word)
  deriving DecidableEq, Repr

/-- Consecutive bytes of user memory. -/
def readBytes (memory : Memory) (address size : Nat) : List Byte :=
  (List.range size).map fun i => memory (address + i)

/-- Events observed when `thread` moves from `before` to `result` in `call`. -/
def observe (before : System) (thread : Thread) (call : Call) (point : Point)
    (result : StepResult) : List Event :=
  match call, result.outcome with
  | .queueSendWait (some queue) item _, .reply (.bool true) =>
      [.sent thread queue (readBytes before.memory item.toNat
        (before.kernel.queues queue).itemSize.toNat)]
  | .queueReceiveWait (some queue) item _, .reply (.bool true) =>
      [.received thread queue (readBytes result.memory item.toNat
        (before.kernel.queues queue).itemSize.toNat)]
  | .eventFlagsSet (some flags) bits, .reply (.bool true) =>
      [.evaluated thread flags ((before.kernel.eventFlags flags).bits ||| bits)]
  | .eventFlagsWait (some flags) _ _ _, _ =>
      match point with
      | .armed _ => [.evaluated thread flags (before.kernel.eventFlags flags).bits]
      | _ => []
  | _, _ => []

/-- Sources of nondeterminism. -/
inductive Action
  /-- SysTick is taken. -/
  | sysTick
  /-- PendSV is taken with this process stack pointer after the register save. -/
  | pendSv (psp : Word)
  /-- The running thread makes a kernel call. -/
  | invoke (call : Call)
  /-- The running thread runs to the next preemption point of its call. -/
  | advance
  /-- User code stores a byte. -/
  | storeByte (address : Nat) (value : Byte)
  /-- User code stores a word. -/
  | storeWord (address value : Word)
  /-- User code writes PRIMASK, FAULTMASK and BASEPRI. -/
  | setMasks (primask faultmask : Bool) (basepri : Word)
  deriving DecidableEq, Repr

/-- A pending PendSV that is not masked preempts thread mode before the next
instruction: the request is followed by `dsb` and `isb`. -/
def System.pendSvDue (system : System) : Bool :=
  system.kernel.pendSv && !system.cpu.pendSvMasked

/-- The thread that may execute an instruction now. -/
def System.activeThread (system : System) : Option Thread :=
  if system.kernel.halted.isSome || system.pendSvDue then none
  else if system.kernel.running then (schedulerCurrentTask system.kernel).map .task
  else some .boot

/-- Replace one frame. -/
def System.setFrame (system : System) (thread : Thread) (frame : Frame) : System :=
  { system with frames := Function.update system.frames thread frame }

/-- Slot of a thread; boot code never reaches a point that uses it. -/
def Thread.slot : Thread → Nat
  | .boot => 0
  | .task index => index

/-- The running thread advances inside its call. -/
def System.advance (cfg : Config) (system : System) (thread : Thread) :
    Option (System × List Event) :=
  match system.frames thread with
  | .user => none
  | .inCall call point =>
      (call.step cfg system.cpu system.kernel system.memory thread.slot point).map
        fun result =>
          let moved := { system with kernel := result.kernel, memory := result.memory }
          let observed := observe system thread call point result
          match result.outcome with
          | .goto point => (moved.setFrame thread (.inCall call point), observed)
          | .reply value =>
              (moved.setFrame thread .user, observed ++ [.returned thread call value])

/-- A step of user code outside every kernel call. -/
def System.userStep (system : System) (change : System → System) :
    Option (System × List Event) :=
  match system.activeThread with
  | none => none
  | some thread =>
      if system.frames thread = .user then some (change system, []) else none

/-- The step function.  A halted machine takes no step. -/
def System.step (cfg : Config) (system : System) : Action → Option (System × List Event)
  | .sysTick =>
      if system.kernel.halted.isSome || system.cpu.sysTickMasked then none
      else
        some ({ system with
          kernel := sysTickHandler system.kernel
          time := system.time + 1 }, [])
  | .pendSv psp =>
      if system.kernel.halted.isSome || !system.pendSvDue then none
      else some ({ system with kernel := pendSvHandler system.kernel psp }, [])
  | .invoke call =>
      match system.activeThread with
      | none => none
      | some thread =>
          if system.frames thread = .user then
            some (system.setFrame thread (.inCall call .entry), [.called thread call])
          else none
  | .advance => system.activeThread.bind (system.advance cfg)
  | .storeByte address value =>
      system.userStep fun system =>
        { system with memory := Function.update system.memory address value }
  | .storeWord address value =>
      system.userStep fun system =>
        { system with kernel := { system.kernel with
            stackMemory := Function.update system.kernel.stackMemory address value } }
  | .setMasks primask faultmask basepri =>
      system.userStep fun system =>
        { system with cpu := ⟨0, primask, faultmask, basepri &&& 0xF0#32⟩ }

/-- Stack memory that boot code hands to its tasks, one block after another. -/
def Action.stackOf (index : Nat) : Word :=
  0x20001000#32 + 0x100#32 * BitVec.ofNat 32 index

/-- A switch away from a user task that has used half of its stack. -/
def Action.switchFrom (index : Nat) : Action :=
  .pendSv (stackOf index + 64)

/-- Boot code makes its calls, creates one task for each priority, and starts the
scheduler. -/
def Action.bootProgram (calls : List Call) (priorities : List Nat) : List Action :=
  (calls.flatMap fun call => ([.invoke call, .advance] : List Action)) ++
    (priorities.zipIdx.flatMap fun task =>
      ([.invoke (.taskCreate true (some
        ⟨0x08001001#32, 0, stackOf task.2, 32, task.1⟩)), .advance, .advance, .advance] :
          List Action)) ++
    ([.invoke .schedulerStart, .advance] : List Action)

/-- The machine of a configuration. -/
def forge (cfg : Config) : Machine System Action Event where
  initial := .boot
  step := System.step cfg

/-- Runs from boot with no side condition. -/
abbrev Run (cfg : Config) (events : List Event) (system : System) : Prop :=
  (forge cfg).Run Machine.anyStep events system

end ForgeKernel
