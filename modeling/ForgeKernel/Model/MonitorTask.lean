import ForgeKernel.Model.Demo
import ForgeKernel.Model.Monitor
import ForgeKernel.Model.Uart

/-!
# The monitor task

The rest of `monitor.c`: the texts, the command dispatch and the task function,
cut at its kernel calls, at its reads of shared data and at the loops of the UART
driver.  A program point carries the locals that are live there.
-/

namespace ForgeKernel

/-- `FR_RELEASE_MONITOR_POLL_TICKS`. -/
def monitorPollTicks : Word := 50

/-- `FR_RELEASE_MONITOR_TRACE_COUNT`. -/
def monitorTraceCount : Word := 8

/-- The first text of `fr_release_monitor_entry`. -/
def monitorBanner : List Char :=
  "\r\nForgeRTOS v0.1.0 release demo @ 115200 8-N-1\r\n".toList

/-- The text of `fr_release_emit_help`. -/
def monitorHelp : List Char :=
  "Commands: h/? help, s status, k kernel, t trace, v version\r\n".toList

/-- The text of `fr_release_emit_version`. -/
def monitorVersion : List Char :=
  "ForgeRTOS v0.1.0\r\n".toList

/-- The first text of `fr_release_emit_trace`. -/
def monitorTraceHeader : List Char :=
  "TRACE newest events:\r\n".toList

/-- The text of an unknown command in `fr_release_process_command`. -/
def monitorUnknown : List Char :=
  "ERR unknown command\r\n".toList

/-- The text of `fr_release_emit_status` when a status could not be read. -/
def monitorStatusUnavailable : List Char :=
  "ERR status unavailable\r\n".toList

/-- The text of `fr_release_emit_status` when its line could not be written. -/
def monitorStatusError : List Char :=
  "ERR status format\r\n".toList

/-- The text of `fr_release_emit_kernel` when its line could not be written. -/
def monitorKernelError : List Char :=
  "ERR kernel format\r\n".toList

/-- The text of a failed sleep in `fr_release_monitor_entry`. -/
def monitorSleepError : List Char :=
  "ERR monitor sleep\r\n".toList

/-- Where `fr_uart_write` stands. -/
inductive WritePlace
  /-- Before the checks. -/
  | checks
  /-- In the `TXE` loop of one byte. -/
  | byte (index : Nat)
  /-- In the `TC` loop. -/
  | draining
  deriving DecidableEq, Repr

/-- What follows a call of `fr_uart_write`. -/
inductive AfterWrite
  /-- `fr_release_emit_help`, after the banner. -/
  | greets
  /-- The polling loop. -/
  | polls
  /-- The end of `fr_release_emit_status`. -/
  | endsStatus
  /-- The end of `fr_release_emit_kernel`. -/
  | endsKernel
  /-- The loop of `fr_release_emit_trace`, at this entry of `count`. -/
  | traces (index count : Nat)
  deriving DecidableEq, Repr

/-- Where `fr_release_monitor_entry` and the functions it calls stand. -/
inductive MonitorPoint
  /-- In `fr_uart_write`. -/
  | writing (text : List Char) (place : WritePlace) (next : AfterWrite)
  /-- Before `fr_uart_try_read`. -/
  | polling
  /-- In `fr_release_process_command`. -/
  | processing (command : Byte)
  /-- Before `fr_release_demo_get_status`. -/
  | readingDemo
  /-- Before `fr_trace_get_status`. -/
  | readingTrace (demo : DemoStatus)
  /-- Before `fr_uart_get_status`. -/
  | readingUart (demo : DemoStatus) (trace : TraceStatus)
  /-- Before the read of `fr_tick_now` in the status line. -/
  | readingTick (demo : DemoStatus) (trace : TraceStatus) (uart : UartStatus)
  /-- Before the read of `fr_task_count` in the status line. -/
  | readingCount (demo : DemoStatus) (trace : TraceStatus) (uart : UartStatus) (tick : Word)
  /-- In `fr_kernel_check_invariants`. -/
  | checking
  /-- Before the read of `g_fr_assert_record.count` in the kernel line. -/
  | readingAsserts (report : InvariantReport)
  /-- Before the read of `g_fr_fault_record.magic` in the kernel line. -/
  | readingFault (report : InvariantReport) (assertCount : Word)
  /-- Before `fr_trace_snapshot`. -/
  | snapshotting
  /-- At the head of the loop of `fr_release_emit_trace`. -/
  | tracing (index count : Nat)
  /-- In `fr_task_sleep`. -/
  | sleeping
  /-- The sleep failed. -/
  | sleepFailed
  deriving DecidableEq, Repr

/-- Call `fr_uart_write`. -/
def MonitorPoint.write (text : List Char) (next : AfterWrite) : MonitorPoint :=
  .writing text .checks next

/-- Where the monitor goes when `fr_uart_write` returns. -/
def AfterWrite.resume (succeeded : Bool) : AfterWrite → MonitorPoint
  | .greets => .write monitorHelp .polls
  | .polls => .polling
  | .endsStatus => if succeeded then .polling else .write monitorStatusError .polls
  | .endsKernel => if succeeded then .polling else .write monitorKernelError .polls
  | .traces index count => if succeeded then .tracing index count else .polling

/-- The dispatch of `fr_release_process_command`. -/
def monitorProcessCommand (command : Byte) : MonitorPoint :=
  if command = 13 ∨ command = 10 then .polling
  else if command = 104 ∨ command = 63 then .write monitorHelp .polls
  else if command = 115 then .readingDemo
  else if command = 107 then .checking
  else if command = 116 then .snapshotting
  else if command = 118 then .write monitorVersion .polls
  else .write monitorUnknown .polls

/-- The values of the status line. -/
def statusReport
    (demo : DemoStatus) (trace : TraceStatus) (uart : UartStatus) (tick : Word)
    (taskCount : Nat) : StatusReport where
  tick := tick
  taskCount := BitVec.ofNat 32 taskCount
  messagesSent := demo.messagesSent
  messagesReceived := demo.messagesReceived
  queueDepth := demo.queueDepth
  maxLatencyTicks := demo.maxLatencyTicks
  orderErrors := demo.orderErrors
  sendErrors := demo.sendErrors
  receiveErrors := demo.receiveErrors
  taskCreateErrors := demo.taskCreateErrors
  traceCount := BitVec.ofNat 32 trace.count
  traceCapacity := BitVec.ofNat 32 trace.capacity
  overwrittenEvents := trace.overwrittenEvents
  rxErrorCount := uart.rxErrorCount

/-- The values of the kernel line. -/
def kernelReport (report : InvariantReport) (assertCount faultMagic : Word) : KernelReport where
  taskCount := BitVec.ofNat 32 report.taskCount
  runningTasks := BitVec.ofNat 32 report.runningTasks
  readyTasks := BitVec.ofNat 32 report.readyTasks
  blockedTasks := BitVec.ofNat 32 report.blockedTasks
  currentTaskId := BitVec.ofNat 32 report.currentTaskId
  violationMask := report.violationMask
  assertCount := assertCount
  faultMagic := faultMagic

/-- Numeric value of a trace event. -/
def TraceEvent.code : TraceEvent → Word
  | .none => 0
  | .taskCreate => 1
  | .schedulerStart => 2
  | .taskBlock => 3
  | .taskTimeout => 4
  | .taskUnblock => 5
  | .contextSwitch => 6

/-- The values of a trace line. -/
def rawTraceEntry (entry : TraceEntry) : RawTraceEntry where
  sequence := entry.sequence
  tick := entry.tick
  event := entry.event.code
  taskId := BitVec.ofNat 32 entry.taskId
  arg0 := entry.arg0
  arg1 := entry.arg1

/-- `config` in `fr_release_monitor_create_task`. -/
def ReleaseImage.monitorConfig {cfg : Config} (image : ReleaseImage cfg) : TaskConfig :=
  releaseTaskConfig image.monitorEntry image.monitorStack 1

/-- The kernel call at a point of the monitor. -/
def MonitorPoint.request : MonitorPoint → Option Call
  | .checking => some (.kernelCheckInvariants true)
  | .sleeping => some (.taskSleep monitorPollTicks)
  | _ => none

/-- Where the monitor goes when its kernel call returns. -/
def MonitorPoint.resume (reply : Reply) : MonitorPoint → MonitorPoint
  | .checking =>
      match reply with
      | .report (some (report, _)) => .readingAsserts report
      | _ => .checking
  | .sleeping => if reply = .bool true then .polling else .sleepFailed
  | point => point

end ForgeKernel
