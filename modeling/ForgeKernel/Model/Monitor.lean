import ForgeKernel.Model.Trace

/-!
# Monitor report lines

The line builders of `monitor.c`.  They append to one static buffer and stop at the first append
that does not fit.  The pointers they pass to each other are those of locals and of literals, so
the null checks never fire and are left out.
-/

namespace ForgeKernel

/-- `FR_RELEASE_MONITOR_LINE_CAPACITY`. -/
def releaseMonitorLineCapacity : Word := 192

/-- `g_fr_release_monitor_line` with the memory behind it, by offset, and the local `length`. -/
structure Line where
  bytes : Nat → Char
  length : Word

/-- The two stores that start a line. -/
def Line.start (bytes : Nat → Char) : Line :=
  ⟨Function.update bytes 0 '\x00', 0⟩

/-- The text that is handed to `fr_uart_write`. -/
def Line.text (line : Line) : List Char :=
  (List.range line.length.toNat).map line.bytes

/-- An append; `false` when it did not fit. -/
abbrev LineAppend := Line → Line × Bool

/-- Appends joined by `&&`. -/
def lineAppendAll : List LineAppend → LineAppend
  | [], line => (line, true)
  | append :: appends, line =>
      let appended := append line
      if appended.2 then lineAppendAll appends appended.1 else (appended.1, false)

/-- `fr_release_line_append_char`. -/
def releaseLineAppendChar (value : Char) : LineAppend := fun line =>
  if releaseMonitorLineCapacity - 1 ≤ line.length then (line, false)
  else
    let bytes := Function.update line.bytes line.length.toNat value
    let length := line.length + 1
    (⟨Function.update bytes length.toNat '\x00', length⟩, true)

/-- `fr_release_line_append_text`. -/
def releaseLineAppendText (text : String) : LineAppend :=
  lineAppendAll (text.toList.map releaseLineAppendChar)

/-- The array `digits` of `fr_release_line_append_u32` once its loop has ended: least significant
digit first, at most `room` of them. -/
def releaseDecimalDigits : Nat → Word → List Char
  | 0, _ => []
  | room + 1, value =>
      if value = 0 then []
      else Char.ofNat ('0'.toNat + (value % 10).toNat) :: releaseDecimalDigits room (value / 10)

/-- `fr_release_line_append_u32`. -/
def releaseLineAppendU32 (value : Word) : LineAppend :=
  if value = 0 then releaseLineAppendChar '0'
  else lineAppendAll ((releaseDecimalDigits 10 value).reverse.map releaseLineAppendChar)

/-- The array `digits` of `fr_release_line_append_hex_u32`. -/
def releaseHexDigits : List Char :=
  "0123456789ABCDEF".toList

/-- The values of `shift` in `fr_release_line_append_hex_u32`. -/
def releaseHexShifts : List Nat :=
  [28, 24, 20, 16, 12, 8, 4, 0]

/-- `fr_release_line_append_hex_u32`. -/
def releaseLineAppendHexU32 (value : Word) : LineAppend :=
  lineAppendAll (releaseLineAppendText "0x" :: releaseHexShifts.map fun shift =>
    releaseLineAppendChar (releaseHexDigits.getD ((value >>> shift) &&& 0xF).toNat '\x00'))

/-- `fr_release_trace_event_name` of a raw event value. -/
def releaseTraceEventName (event : Word) : String :=
  match TraceEvent.ofCode event with
  | some .taskCreate => "CREATE"
  | some .schedulerStart => "START"
  | some .taskBlock => "BLOCK"
  | some .taskTimeout => "TIMEOUT"
  | some .taskUnblock => "UNBLOCK"
  | some .contextSwitch => "SWITCH"
  | _ => "UNKNOWN"

/-- What `fr_release_emit_status` reads: the tick, the task count and three status reports. -/
structure StatusReport where
  tick : Word
  taskCount : Word
  messagesSent : Word
  messagesReceived : Word
  queueDepth : Word
  maxLatencyTicks : Word
  orderErrors : Word
  sendErrors : Word
  receiveErrors : Word
  taskCreateErrors : Word
  traceCount : Word
  traceCapacity : Word
  overwrittenEvents : Word
  rxErrorCount : Word
  deriving DecidableEq, Repr

/-- The sum that `fr_release_emit_status` reports as `derr`. -/
def StatusReport.demoErrors (report : StatusReport) : Word :=
  report.orderErrors + report.sendErrors + report.receiveErrors + report.taskCreateErrors

/-- The line of `fr_release_emit_status`. -/
def releaseStatusLine (report : StatusReport) : LineAppend :=
  lineAppendAll
    [releaseLineAppendText "STATUS tick=", releaseLineAppendU32 report.tick,
      releaseLineAppendText " tasks=", releaseLineAppendU32 report.taskCount,
      releaseLineAppendText " sent=", releaseLineAppendU32 report.messagesSent,
      releaseLineAppendText " recv=", releaseLineAppendU32 report.messagesReceived,
      releaseLineAppendText " q=", releaseLineAppendU32 report.queueDepth,
      releaseLineAppendText " latmax=", releaseLineAppendU32 report.maxLatencyTicks,
      releaseLineAppendText " derr=", releaseLineAppendU32 report.demoErrors,
      releaseLineAppendText " trace=", releaseLineAppendU32 report.traceCount,
      releaseLineAppendChar '/', releaseLineAppendU32 report.traceCapacity,
      releaseLineAppendText " ovw=", releaseLineAppendU32 report.overwrittenEvents,
      releaseLineAppendText " rxerr=", releaseLineAppendU32 report.rxErrorCount,
      releaseLineAppendText "\r\n"]

/-- What `fr_release_emit_kernel` reads: fields of the invariant report, the number of failed
assertions and the mark of a recorded fault. -/
structure KernelReport where
  taskCount : Word
  runningTasks : Word
  readyTasks : Word
  blockedTasks : Word
  currentTaskId : Word
  violationMask : Word
  assertCount : Word
  faultMagic : Word
  deriving DecidableEq, Repr

/-- The line of `fr_release_emit_kernel`. -/
def releaseKernelLine (report : KernelReport) : LineAppend :=
  lineAppendAll
    [releaseLineAppendText "KERNEL tasks=", releaseLineAppendU32 report.taskCount,
      releaseLineAppendText " run=", releaseLineAppendU32 report.runningTasks,
      releaseLineAppendText " ready=", releaseLineAppendU32 report.readyTasks,
      releaseLineAppendText " blocked=", releaseLineAppendU32 report.blockedTasks,
      releaseLineAppendText " current=", releaseLineAppendU32 report.currentTaskId,
      releaseLineAppendText " inv=", releaseLineAppendHexU32 report.violationMask,
      releaseLineAppendText " assert=", releaseLineAppendU32 report.assertCount,
      releaseLineAppendText " fault=", releaseLineAppendHexU32 report.faultMagic,
      releaseLineAppendText "\r\n"]

/-- `fr_trace_entry_t` as the monitor reads it, with a raw event value. -/
structure RawTraceEntry where
  sequence : Word
  tick : Word
  event : Word
  taskId : Word
  arg0 : Word
  arg1 : Word
  deriving DecidableEq, Repr

/-- One line of `fr_release_emit_trace`. -/
def releaseTraceLine (entry : RawTraceEntry) : LineAppend :=
  lineAppendAll
    [releaseLineAppendChar '#', releaseLineAppendU32 entry.sequence,
      releaseLineAppendText " t=", releaseLineAppendU32 entry.tick,
      releaseLineAppendChar ' ', releaseLineAppendText (releaseTraceEventName entry.event),
      releaseLineAppendText " task=", releaseLineAppendU32 entry.taskId,
      releaseLineAppendText " a0=", releaseLineAppendU32 entry.arg0,
      releaseLineAppendText " a1=", releaseLineAppendU32 entry.arg1,
      releaseLineAppendText "\r\n"]

end ForgeKernel
