import ForgeKernel.Library.Simulation
import ForgeKernel.Model.MonitorTask
import ForgeKernel.Model.StackInfo

/-!
# The release image

`main.c` with the demo and the monitor: the boot code and three tasks, each at a
point of its own program, over the running kernel.  The environment chooses when
SysTick and PendSV are taken and what the UART returns; everything else is
determined by the image.
-/

namespace ForgeKernel

open Machines

/-- `FR_BOARD_RESET_CORE_CLOCK_HZ`. -/
def boardResetCoreClockHz : Word := 16000000

/-- `FR_RELEASE_TICK_HZ`. -/
def releaseTickHz : Word := 1000

/-- `FR_RELEASE_UART_BAUD_RATE`. -/
def releaseUartBaudRate : Word := 115200

/-- `FR_FAULT_RECORD_MAGIC`. -/
def faultRecordMagic : Word := 0x46524654#32

/-- `fr_systick_init`: the reload value, or `none` for the `false` return. -/
def systickInit (coreClockHz tickHz : Word) : Option Word :=
  if coreClockHz = 0 ∨ tickHz = 0 then none
  else if coreClockHz % tickHz ≠ 0 then none
  else
    let cyclesPerTick := coreClockHz / tickHz
    if cyclesPerTick = 0 ∨ 0x01000000#32 < cyclesPerTick then none
    else some (cyclesPerTick - 1)

/-- Where `fr_release_bootstrap_entry` and the functions it calls stand. -/
inductive BootPoint
  /-- Before `fr_assert_init`. -/
  | asserts
  /-- Before `fr_uart_init`. -/
  | uart
  /-- Before `fr_systick_init`. -/
  | systick
  /-- In `fr_trace_init`. -/
  | trace
  /-- In `fr_queue_init`, called by `fr_release_demo_init`. -/
  | queue
  /-- At the stores of `fr_release_demo_init`. -/
  | status
  /-- At the check of `fr_release_demo_create_tasks`. -/
  | demoTasks
  /-- In the first `fr_task_create` of that function. -/
  | producer
  /-- In the second one. -/
  | consumer
  /-- Before its first `fr_task_get_info`. -/
  | producerInfo
  /-- Before the second one. -/
  | consumerInfo
  /-- In the `fr_task_create` of `fr_release_monitor_create_task`. -/
  | monitor
  /-- In `fr_scheduler_start`. -/
  | start
  /-- In `fr_release_halt`. -/
  | halted
  deriving DecidableEq, Repr

/-- Where a task stands: at its first instruction, or in its function. -/
inductive TaskPoint
  | start
  | producer (point : ProducerPoint)
  | consumer (point : ConsumerPoint)
  | monitor (point : MonitorPoint)
  deriving DecidableEq, Repr

/-- The kernel, the static data of the application and the drivers, and the program
point of every thread. -/
structure Release where
  system : System
  demo : DemoStatus
  uart : Uart
  /-- Bit 5 of `GPIOA_ODR`. -/
  led : Bool
  /-- SysTick is counting. -/
  ticking : Bool
  /-- `g_fr_assert_record.count`. -/
  assertCount : Word
  /-- `g_fr_fault_record.magic`. -/
  faultMagic : Word
  /-- `g_fr_release_demo_producer_task`. -/
  producerTask : Option Nat
  /-- `g_fr_release_demo_consumer_task`. -/
  consumerTask : Option Nat
  /-- `g_fr_release_monitor_line`. -/
  line : Nat → Char
  /-- `g_fr_release_monitor_trace`. -/
  traceEntries : Nat → TraceEntry
  boot : BootPoint
  tasks : Nat → TaskPoint

/-- What can be seen of a run. -/
inductive ReleaseEvent
  | kernel (event : Event)
  /-- The monitor has read a byte. -/
  | command (value : Byte)
  /-- A byte has been written to the UART. -/
  | transmitted (value : Char)
  deriving DecidableEq, Repr

/-- The kernel events of an event. -/
def ReleaseEvent.shown : ReleaseEvent → List Event
  | .kernel event => [event]
  | _ => []

/-- The value that a call hands back when it returns. -/
def Event.reply : Event → Option Reply
  | .returned _ _ reply => some reply
  | _ => none

/-- What the environment decides. -/
inductive ReleaseAction
  /-- SysTick is taken. -/
  | sysTick
  /-- PendSV is taken with this process stack pointer after the register save. -/
  | pendSv (psp : Word)
  /-- The running thread goes on, with these values in the UART's registers. -/
  | run (input : UsartInput)
  deriving DecidableEq, Repr

namespace Release

/-- Memory as the reset handler leaves it. -/
def reset : Release where
  system := .boot
  demo := .zero
  uart := .zero
  led := false
  ticking := false
  assertCount := 0
  faultMagic := 0
  producerTask := none
  consumerTask := none
  line := fun _ => '\x00'
  traceEntries := fun _ => ⟨0, 0, .none, 0, 0, 0⟩
  boot := .asserts
  tasks := fun _ => .start

/-- Move a task. -/
def setPoint (release : Release) (index : Nat) (point : TaskPoint) : Release :=
  { release with tasks := Function.update release.tasks index point }

/-- Take over the kernel's data after one of its steps.  A failed assertion and a
fault leave their records. -/
def settle (release : Release) (system : System) : Release :=
  { release with
    system := system
    assertCount :=
      if system.kernel.halted = some .assertion then release.assertCount + 1
      else release.assertCount
    faultMagic :=
      if system.kernel.halted.isSome ∧ system.kernel.halted ≠ some .assertion then
        faultRecordMagic
      else release.faultMagic }

variable {cfg : Config} (image : ReleaseImage cfg)

/-- The kernel call at a point of the boot code. -/
def bootRequest : BootPoint → Option Call
  | .trace => some .traceInit
  | .queue =>
      some (.queueInit (some 0) image.queueStorage demoQueueCapacity demoMessageSize)
  | .producer => some (.taskCreate true (some image.producerConfig))
  | .consumer => some (.taskCreate true (some image.consumerConfig))
  | .monitor => some (.taskCreate true (some image.monitorConfig))
  | .start => some .schedulerStart
  | _ => none

/-- The kernel call at the point of a thread. -/
def request (release : Release) : Thread → Option Call
  | .boot => bootRequest image release.boot
  | .task index =>
      match release.tasks index with
      | .start => none
      | .producer point => point.request image
      | .consumer point => point.request image
      | .monitor point => point.request

/-- The boot code takes the return value of its call. -/
def resumeBoot (release : Release) (reply : Reply) : Release :=
  match release.boot, reply with
  | .trace, _ => { release with boot := .queue }
  | .queue, .bool true => { release with boot := .status }
  | .producer, .taskStatus .ok handle =>
      { release with
        producerTask := handle
        boot := .consumer }
  | .consumer, .taskStatus .ok handle =>
      { release with
        consumerTask := handle
        boot := .producerInfo }
  | .monitor, .taskStatus .ok _ => { release with boot := .start }
  | .producer, _ | .consumer, _ =>
      { release with
        demo := release.demo.recordCreateError
        boot := .halted }
  | _, _ => { release with boot := .halted }

/-- A task takes the return value of its call. -/
def resumeTask (reply : Reply) : TaskPoint → TaskPoint
  | .start => .start
  | .producer point => .producer (point.resume (reply = .bool true))
  | .consumer point => .consumer (point.resume (reply = .bool true))
  | .monitor point => .monitor (point.resume reply)

/-- A thread takes the return value of its call. -/
def resume (release : Release) (reply : Reply) : Thread → Release
  | .boot => release.resumeBoot reply
  | .task index => release.setPoint index (resumeTask reply (release.tasks index))

/-- The boot code between its kernel calls. -/
def bootAct (release : Release) : BootPoint → Option Release
  | .asserts =>
      some { release with
        assertCount := 0
        boot := .uart }
  | .uart =>
      match uartInit release.uart boardResetCoreClockHz releaseUartBaudRate with
      | some uart =>
          some { release with
            uart := uart
            boot := .systick }
      | none => some { release with boot := .halted }
  | .systick =>
      match systickInit boardResetCoreClockHz releaseTickHz with
      | some _ =>
          some { release with
            ticking := true
            boot := .trace }
      | none => some { release with boot := .halted }
  | .status =>
      some { release with
        demo := { release.demo with
          initialized := true
          queueDepth := 0 }
        boot := .demoTasks }
  | .demoTasks =>
      if release.demo.initialized then some { release with boot := .producer }
      else
        some { release with
          demo := release.demo.recordCreateError
          boot := .halted }
  | .producerInfo =>
      match taskGetInfo release.system.kernel release.producerTask true with
      | some info =>
          some { release with
            demo := { release.demo with producerTaskId := info.id }
            boot := .consumerInfo }
      | none =>
          some { release with
            demo := release.demo.recordCreateError
            boot := .halted }
  | .consumerInfo =>
      match taskGetInfo release.system.kernel release.consumerTask true with
      | some info =>
          some { release with
            demo := { release.demo with consumerTaskId := info.id }
            boot := .monitor }
      | none =>
          some { release with
            demo := release.demo.recordCreateError
            boot := .halted }
  | .halted => some release
  | _ => none

/-- The first instruction of a task is that of the function in its control block. -/
def enter (entry : Word) : Option TaskPoint :=
  if entry = image.producerEntry then some (.producer (.building 0))
  else if entry = image.consumerEntry then some (.consumer (.receiving 1))
  else if entry = image.monitorEntry then some (.monitor (.write monitorBanner .greets))
  else none

/-- Replace the user memory. -/
def withMemory (release : Release) (memory : Memory) : Release :=
  { release with system := { release.system with memory := memory } }

/-- `fr_release_demo_producer_entry` between its kernel calls. -/
def producerAct (release : Release) (index : Nat) : ProducerPoint → Option Release
  | .building sequence =>
      let message : DemoMessage := ⟨sequence + 1, release.system.kernel.tickCount⟩
      some ((release.withMemory (storeBytes release.system.memory
        image.producerMessage.toNat message.bytes)).setPoint index
          (.producer (.sending sequence)))
  | .recording =>
      let sequence := readWord release.system.memory image.producerMessage.toNat
      some ({ release with
        demo := release.demo.recordSent sequence
          (release.system.kernel.queues 0).count }.setPoint index
            (.producer (.sleeping sequence)))
  | .sendFailed sequence | .sleepFailed sequence =>
      some ({ release with demo := release.demo.recordSendError }.setPoint index
        (.producer (.building sequence)))
  | .sending _ | .sleeping _ => none

/-- `fr_release_demo_consumer_entry` between its kernel calls. -/
def consumerAct (release : Release) (index : Nat) : ConsumerPoint → Option Release
  | .receiveFailed expectedSequence =>
      some ({ release with demo := release.demo.recordReceiveError }.setPoint index
        (.consumer (.receiving expectedSequence)))
  | .received expectedSequence =>
      let producedTick := readWord release.system.memory (image.consumerMessage.toNat + 4)
      some (release.setPoint index (.consumer
        (.recording expectedSequence (release.system.kernel.tickCount - producedTick))))
  | .recording expectedSequence latency =>
      let sequence := readWord release.system.memory image.consumerMessage.toNat
      let demo := release.demo.recordReceived sequence expectedSequence latency
        (release.system.kernel.queues 0).count
      some ({ release with demo := demo }.setPoint index (.consumer
        (.signaling (demoNextExpected sequence expectedSequence) demo.messagesReceived)))
  | .signaling expectedSequence received =>
      some ({ release with
        led := if received % demoLedMessageInterval = 0 then !release.led
          else release.led }.setPoint index (.consumer (.receiving expectedSequence)))
  | .receiving _ => none

/-- Write a built line, or report that it could not be built. -/
def writeLine (release : Release) (index : Nat) (built : Line × Bool) (next : AfterWrite) :
    Release :=
  { release with line := built.1.bytes }.setPoint index
    (.monitor (if built.2 then .write built.1.text next else next.resume false))

/-- `fr_uart_write` from one point to the next. -/
def writeAct (release : Release) (input : UsartInput) (index : Nat) (text : List Char)
    (next : AfterWrite) : WritePlace → Release × List ReleaseEvent
  | .checks =>
      let place := if uartWriteAllowed release.system.cpu release.uart text.length then
        .writing text (.byte 0) next else next.resume false
      (release.setPoint index (.monitor place), [])
  | .byte position =>
      match uartTransmit release.uart input with
      | none => (release, [])
      | some uart =>
          let place : WritePlace :=
            if position + 1 < text.length then .byte (position + 1) else .draining
          ({ release with uart := uart }.setPoint index (.monitor (.writing text place next)),
            [.transmitted (text.getD position '\x00')])
  | .draining =>
      if uartDrained input then (release.setPoint index (.monitor (next.resume true)), [])
      else (release, [])

/-- `fr_release_monitor_entry` and the functions it calls, between kernel calls. -/
def monitorAct (release : Release) (input : UsartInput) (index : Nat) :
    MonitorPoint → Option (Release × List ReleaseEvent)
  | .writing text place next => some (release.writeAct input index text next place)
  | .polling =>
      match uartTryRead release.system.cpu release.uart input with
      | (uart, some command) =>
          some ({ release with uart := uart }.setPoint index
            (.monitor (.processing command)), [.command command])
      | (uart, none) =>
          some ({ release with uart := uart }.setPoint index (.monitor .sleeping), [])
  | .processing command =>
      some (release.setPoint index (.monitor (monitorProcessCommand command)), [])
  | .readingDemo =>
      some (release.setPoint index (.monitor (.readingTrace release.demo)), [])
  | .readingTrace demo =>
      match traceGetStatus release.system.kernel.trace true with
      | some trace => some (release.setPoint index (.monitor (.readingUart demo trace)), [])
      | none =>
          some (release.setPoint index (.monitor (.write monitorStatusUnavailable .polls)), [])
  | .readingUart demo trace =>
      some (release.setPoint index
        (.monitor (.readingTick demo trace (uartGetStatus release.uart input))), [])
  | .readingTick demo trace uart =>
      some (release.setPoint index
        (.monitor (.readingCount demo trace uart release.system.kernel.tickCount)), [])
  | .readingCount demo trace uart tick =>
      let report := statusReport demo trace uart tick release.system.kernel.taskCount
      some (release.writeLine index (releaseStatusLine report (.start release.line))
        .endsStatus, [])
  | .readingAsserts report =>
      some (release.setPoint index (.monitor (.readingFault report release.assertCount)), [])
  | .readingFault report assertCount =>
      let report := kernelReport report assertCount release.faultMagic
      some (release.writeLine index (releaseKernelLine report (.start release.line))
        .endsKernel, [])
  | .snapshotting =>
      let snapshot := traceSnapshot release.system.kernel.trace (some release.traceEntries)
        monitorTraceCount
      some ({ release with traceEntries := snapshot.1.getD release.traceEntries }.setPoint index
        (.monitor (.write monitorTraceHeader (.traces 0 snapshot.2))), [])
  | .tracing position count =>
      if position < count then
        let entry := rawTraceEntry (release.traceEntries position)
        some (release.writeLine index (releaseTraceLine entry (.start release.line))
          (.traces (position + 1) count), [])
      else some (release.setPoint index (.monitor .polling), [])
  | .sleepFailed =>
      some (release.setPoint index (.monitor (.write monitorSleepError .polls)), [])
  | .checking | .sleeping => none

/-- A thread between its kernel calls. -/
def act (release : Release) (input : UsartInput) :
    Thread → Option (Release × List ReleaseEvent)
  | .boot => (release.bootAct release.boot).map (·, [])
  | .task index =>
      match release.tasks index with
      | .start =>
          (enter image (release.system.kernel.tasks index).entry).map
            fun point => (release.setPoint index point, [])
      | .producer point => (release.producerAct image index point).map (·, [])
      | .consumer point => (release.consumerAct image index point).map (·, [])
      | .monitor point => release.monitorAct input index point

/-- One step of the kernel. -/
def kernelStep (cfg : Config) (release : Release) (action : Action) :
    Option (Release × List Event) :=
  (release.system.step cfg action).map fun next => (release.settle next.1, next.2)

/-- The step function. -/
def step (release : Release) : ReleaseAction → Option (Release × List ReleaseEvent)
  | .sysTick =>
      if release.ticking then
        (release.kernelStep cfg .sysTick).map fun next => (next.1, next.2.map .kernel)
      else none
  | .pendSv psp =>
      (release.kernelStep cfg (.pendSv psp)).map fun next => (next.1, next.2.map .kernel)
  | .run input =>
      match release.system.activeThread with
      | none => none
      | some thread =>
          match release.system.frames thread, release.request image thread with
          | .inCall _ _, _ =>
              (release.kernelStep cfg .advance).map fun next =>
                (match next.2.findSome? Event.reply with
                  | some reply => next.1.resume reply thread
                  | none => next.1, next.2.map .kernel)
          | .user, some call =>
              (release.kernelStep cfg (.invoke call)).map fun next =>
                (next.1, next.2.map .kernel)
          | .user, none => release.act image input thread

end Release

/-- The machine of an image. -/
def releaseMachine {cfg : Config} (image : ReleaseImage cfg) :
    Machine Release ReleaseAction ReleaseEvent where
  initial := .reset
  step := Release.step image

/-- The running thread goes on; the UART is ready to send and has received nothing. -/
def ReleaseAction.proceed (steps : Nat) : List ReleaseAction :=
  List.replicate steps (.run ⟨0xC0, 0⟩)

/-- A switch away from a task that has used half of its stack. -/
def ReleaseAction.switchFrom (stackMemory : Word) : ReleaseAction :=
  .pendSv (stackMemory + 64)

/-- Boot code starts the scheduler; the consumer blocks, the producer sends one message,
and the switch to the monitor has been made. -/
def ReleaseImage.opening {cfg : Config} (image : ReleaseImage cfg) : List ReleaseAction :=
  ReleaseAction.proceed 29 ++ [.switchFrom image.consumerStack] ++
    ReleaseAction.proceed 5 ++ [.switchFrom image.producerStack] ++
    ReleaseAction.proceed 8 ++ [.switchFrom image.consumerStack] ++
    ReleaseAction.proceed 3 ++ [.switchFrom image.producerStack]

end ForgeKernel
