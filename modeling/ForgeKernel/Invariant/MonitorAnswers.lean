import ForgeKernel.Invariant.ReleaseTrace
import ForgeKernel.Property.DemoPipeline
import ForgeKernel.Property.MonitorLines
import ForgeKernel.Property.ReleaseSafety
import ForgeKernel.Property.SelfCheckVerdict

/-!
# The monitor's answers

What the monitor may answer to a byte, what it has still to send of an answer, and
what it has still to read for one.  The answers report an image in order: balanced
counters, a clean self check, and the newest events of the trace.
-/

namespace ForgeKernel

open Machines Reports

/-! ## Answers -/

/-- The characters that an event sends. -/
def ReleaseEvent.sent : ReleaseEvent → List Char
  | .transmitted value => [value]
  | _ => []

/-- The bytes that the monitor takes in an event. -/
def ReleaseEvent.taken : ReleaseEvent → List Byte
  | .command value => [value]
  | _ => []

/-- Everything sent to the UART. -/
def console (events : List ReleaseEvent) : List Char :=
  events.flatMap ReleaseEvent.sent

/-- Every byte taken from the UART. -/
def commands (events : List ReleaseEvent) : List Byte :=
  events.flatMap ReleaseEvent.taken

/-- What the monitor writes before it polls for the first time. -/
def monitorGreeting : List Char :=
  monitorBanner ++ monitorHelp

/-- Messages that the demo has delivered. -/
def deliveries (events : List ReleaseEvent) : Nat :=
  (receivedItems 0 (events.flatMap ReleaseEvent.shown)).length

/-- A status report of a demo in order, after `count` deliveries. -/
structure StatusReport.InOrder (report : StatusReport) (count : Nat) : Prop where
  taskCount : report.taskCount = 3
  messagesSent : report.messagesSent = BitVec.ofNat 32 count
  messagesReceived : report.messagesReceived = BitVec.ofNat 32 count
  queueDepth : report.queueDepth = 0
  demoErrors : report.demoErrors = 0
  traceCapacity : report.traceCapacity = 128
  traceCount : report.traceCount ≤ 128

/-- The kernel report of an image in order: the monitor runs, the other two tasks are
blocked, and nothing was ever found wrong. -/
def kernelInOrder : KernelReport :=
  ⟨3, 1, 0, 2, 3, 0, 0, 0⟩

/-- The lines of consecutive trace entries. -/
def traceLines (entries : List TraceEntry) : List Char :=
  entries.flatMap fun entry => lineText (rawTraceEntry entry).items

/-- The newest eight entries of a history. -/
def TraceHistory.newest (history : TraceHistory) : List TraceEntry :=
  history.entries.drop (history.records.length - min history.records.length 8)

theorem TraceHistory.newest_eq (history : TraceHistory) :
    history.newest = history.entries.drop
      (history.records.length - history.copied monitorTraceCount) := by
  have few : history.copied monitorTraceCount = min history.records.length 8 := by
    change min (min history.records.length 128) 8 = _
    omega
  rw [few, TraceHistory.newest]

/-- A moment after the byte at this position was taken, and before the next one was. -/
structure Asked (events : List ReleaseEvent) (position : Nat) (earlier : List ReleaseEvent) :
    Prop where
  past : earlier <+: events
  taken : (commands earlier).length = position + 1

/-- What the monitor of a run may answer to a byte.  The counters and the trace are those
of a moment while the byte was the last one taken. -/
inductive Answer {cfg : Config} (image : ReleaseImage cfg) (events : List ReleaseEvent) :
    Byte × Nat → List Char → Prop
  | skips {command : Byte} {position : Nat} (newline : command = 13 ∨ command = 10) :
      Answer image events (command, position) []
  | helps {command : Byte} {position : Nat} (asks : command = 104 ∨ command = 63) :
      Answer image events (command, position) monitorHelp
  | status {position : Nat} {earlier : List ReleaseEvent} {report : StatusReport}
      (asked : Asked events position earlier) (inOrder : report.InOrder (deliveries earlier)) :
      Answer image events (115, position) (lineText report.items)
  | kernel {position : Nat} : Answer image events (107, position) (lineText kernelInOrder.items)
  | trace {position : Nat} {earlier : List ReleaseEvent} {release : Release} {times : List Nat}
      (asked : Asked events position earlier)
      (reached : (releaseMachine image).Run soundSwitches earlier release)
      (logged : release.system.Logged times) :
      Answer image events (116, position) (monitorTraceHeader ++
        traceLines (TraceHistory.ofCalls release.system.kernel.trace.calls times).newest)
  | version {position : Nat} : Answer image events (118, position) monitorVersion
  | unknown {command : Byte} {position : Nat}
      (other : command ∉ ([13, 10, 104, 63, 115, 107, 116, 118] : List Byte)) :
      Answer image events (command, position) monitorUnknown

section Later

variable {cfg : Config} {image : ReleaseImage cfg} {events emitted : List ReleaseEvent}
  {position : Nat}

/-- What was asked stays asked. -/
theorem Asked.later {earlier : List ReleaseEvent} (asked : Asked events position earlier) :
    Asked (events ++ emitted) position earlier :=
  ⟨asked.past.trans (List.prefix_append events emitted), asked.taken⟩

/-- An answer stays one when the run goes on. -/
theorem Answer.later
    {request : Byte × Nat} {text : List Char} (answer : Answer image events request text) :
    Answer image (events ++ emitted) request text := by
  cases answer with
  | skips newline => exact .skips newline
  | helps asks => exact .helps asks
  | status asked inOrder => exact .status asked.later inOrder
  | kernel => exact .kernel
  | trace asked reached logged => exact .trace asked.later reached logged
  | version => exact .version
  | unknown other => exact .unknown other

end Later

/-! ## What is still to be sent -/

/-- The text that a function of the monitor has still to write after `fr_uart_write`. -/
def AfterWrite.owes (entries : Nat → TraceEntry) : AfterWrite → List Char
  | .greets => monitorHelp
  | .polls | .endsStatus | .endsKernel => []
  | .traces position count =>
      traceLines ((List.range' position (count - position)).map entries)

/-- The text that the monitor has still to write before it polls again, at the points where
that is settled. -/
inductive Owes (entries : Nat → TraceEntry) : TaskPoint → List Char → Prop
  | start : Owes entries .start monitorGreeting
  | checks {text : List Char} (filled : text ≠ []) (next : AfterWrite) :
      Owes entries (.monitor (.writing text .checks next)) (text ++ next.owes entries)
  | byte {text : List Char} {position : Nat} (inside : position < text.length)
      (next : AfterWrite) :
      Owes entries (.monitor (.writing text (.byte position) next))
        (text.drop position ++ next.owes entries)
  | draining (text : List Char) (next : AfterWrite) :
      Owes entries (.monitor (.writing text .draining next)) (next.owes entries)
  | polling : Owes entries (.monitor .polling) []
  | tracing (position count : Nat) :
      Owes entries (.monitor (.tracing position count))
        ((AfterWrite.traces position count).owes entries)
  | sleeping : Owes entries (.monitor .sleeping) []

/-- The monitor is about to write a text. -/
theorem Owes.write
    {entries : Nat → TraceEntry} {text : List Char} (filled : text ≠ []) {next : AfterWrite}
    (last : next.owes entries = []) :
    Owes entries (.monitor (.write text next)) text := by
  have owes : Owes entries (.monitor (.write text next)) (text ++ next.owes entries) :=
    .checks filled next
  rw [last, List.append_nil] at owes
  exact owes

/-- `fr_uart_write` has succeeded. -/
theorem Owes.resume (entries : Nat → TraceEntry) (next : AfterWrite) :
    Owes entries (.monitor (next.resume true)) (next.owes entries) := by
  cases next with
  | greets => exact .write (by decide) rfl
  | polls | endsStatus | endsKernel => exact .polling
  | traces position count => exact .tracing position count

/-- The trace answer owes the next line and then the rest. -/
theorem AfterWrite.owes_traces
    (entries : Nat → TraceEntry) {position count : Nat} (more : position < count) :
    (AfterWrite.traces position count).owes entries =
      lineText (rawTraceEntry (entries position)).items ++
        (AfterWrite.traces (position + 1) count).owes entries := by
  obtain ⟨left, rfl⟩ := Nat.exists_eq_add_of_lt more
  simp only [AfterWrite.owes]
  rw [show position + left + 1 - position = left + 1 by omega,
    show position + left + 1 - (position + 1) = left by omega, List.range'_succ, List.map_cons]
  rfl

/-- A line that was built completely is handed to `fr_uart_write`. -/
theorem Reported.written
    {append : LineAppend} {items : List Item} {release : Release}
    (reported : Reported append release.line items) (index : Nat) (next : AfterWrite) :
    (release.writeLine index (append (.start release.line)) next).tasks index =
        .monitor (.write (lineText items) next) ∧
      (release.writeLine index (append (.start release.line)) next).traceEntries =
        release.traceEntries := by
  refine ⟨?_, rfl⟩
  simp only [Release.writeLine, reported.built, reported.text, if_true]
  exact Release.setPoint_tasks_self ..

section Sends

variable {release next : Release} {input : UsartInput} {events : List ReleaseEvent}
  {rest : List Char}

/-- What a step of the monitor sends or takes, and what it then owes. -/
inductive Sends (next : Release) : List Char → List ReleaseEvent → Prop
  | silent {rest : List Char} (owes : Owes next.traceEntries (next.tasks 2) rest) :
      Sends next rest []
  | sends {value : Char} {rest : List Char}
      (owes : Owes next.traceEntries (next.tasks 2) rest) :
      Sends next (value :: rest) [.transmitted value]
  | takes {command : Byte} (place : next.tasks 2 = .monitor (.processing command)) :
      Sends next [] [.command command]

/-- A step of the monitor sends the next symbol it owes, or nothing. -/
theorem Owes.acts
    {point : MonitorPoint} (here : release.tasks 2 = .monitor point)
    (owes : Owes release.traceEntries (release.tasks 2) rest)
    (unmasked : release.system.cpu = .unmasked) (initialized : release.uart.initialized = true)
    (acted : release.monitorAct input 2 point = some (next, events)) :
    Sends next rest events := by
  have still := owes
  generalize place : release.tasks 2 = from_ at owes
  cases owes with
  | start => cases here.symm.trans place
  | @checks text filled following =>
      obtain rfl := TaskPoint.monitor.inj (here.symm.trans place)
      have allowed : uartWriteAllowed release.system.cpu release.uart text.length = true := by
        rw [unmasked]
        simp [uartWriteAllowed, initialized, filled]
        rfl
      simp only [Release.monitorAct, Release.writeAct, allowed, if_true] at acted
      obtain ⟨rfl, rfl⟩ := Prod.mk.inj (Option.some.inj acted)
      refine .silent ?_
      rw [Release.setPoint_tasks_self]
      exact .byte (List.length_pos_of_ne_nil filled) following
  | @byte text position inside following =>
      obtain rfl := TaskPoint.monitor.inj (here.symm.trans place)
      simp only [Release.monitorAct, Release.writeAct] at acted
      split at acted
      · obtain ⟨rfl, rfl⟩ := Prod.mk.inj (Option.some.inj acted)
        exact .silent still
      · obtain ⟨rfl, rfl⟩ := Prod.mk.inj (Option.some.inj acted)
        have symbol : text.getD position '\x00' = text[position] := by simp [inside]
        rw [List.drop_eq_getElem_cons inside, symbol]
        refine .sends ?_
        rw [Release.setPoint_tasks_self]
        split
        · exact .byte ‹_› following
        · rw [List.drop_of_length_le (by omega)]
          exact .draining text following
  | draining text following =>
      obtain rfl := TaskPoint.monitor.inj (here.symm.trans place)
      simp only [Release.monitorAct, Release.writeAct] at acted
      split at acted
      · obtain ⟨rfl, rfl⟩ := Prod.mk.inj (Option.some.inj acted)
        refine .silent ?_
        rw [Release.setPoint_tasks_self]
        exact .resume _ following
      · obtain ⟨rfl, rfl⟩ := Prod.mk.inj (Option.some.inj acted)
        exact .silent still
  | polling =>
      obtain rfl := TaskPoint.monitor.inj (here.symm.trans place)
      simp only [Release.monitorAct] at acted
      split at acted
      · obtain ⟨rfl, rfl⟩ := Prod.mk.inj (Option.some.inj acted)
        exact .takes (Release.setPoint_tasks_self ..)
      · obtain ⟨rfl, rfl⟩ := Prod.mk.inj (Option.some.inj acted)
        refine .silent ?_
        rw [Release.setPoint_tasks_self]
        exact .sleeping
  | tracing position count =>
      obtain rfl := TaskPoint.monitor.inj (here.symm.trans place)
      simp only [Release.monitorAct] at acted
      split at acted
      · rename_i more
        obtain ⟨rfl, rfl⟩ := Prod.mk.inj (Option.some.inj acted)
        obtain ⟨written, kept⟩ := ((rawTraceEntry (release.traceEntries position)).reported
          release.line).written 2 (.traces (position + 1) count)
        rw [AfterWrite.owes_traces _ more]
        refine .silent ?_
        rw [written, kept]
        exact .checks (lineText_ne_nil (List.cons_ne_nil _ _) _) _
      · rename_i ended
        obtain ⟨rfl, rfl⟩ := Prod.mk.inj (Option.some.inj acted)
        refine .silent ?_
        rw [Release.setPoint_tasks_self, AfterWrite.owes, Nat.sub_eq_zero_of_le (by omega)]
        exact .polling
  | sleeping =>
      obtain rfl := TaskPoint.monitor.inj (here.symm.trans place)
      cases acted

end Sends

/-! ## The kernel check -/

/-- The report of the check that the monitor calls. -/
theorem kernelReport_inOrder
    {cfg : Config} {image : ReleaseImage cfg} {release : Release} {past : List Event}
    (ok : ReleaseOk image release) (run : (forge cfg).Run createsBeforeStart past release.system)
    (active : release.system.activeThread = some (.task 2)) :
    kernelReport (kernelCheckInvariants cfg release.system.kernel).1 0 0 = kernelInOrder := by
  have core := Core.of_run run
  have runs := core.active_current active
  have deployed := ok.deployed runs.running
  have registered := core.current_lt runs.currentTask
  obtain ⟨scan, checked, scanned⟩ := kernelCheckInvariants_passes runs registered
    (StacksOk.of_run run).kernel.count (fun index small => passes_of_run run small)
    (fun index state => by
      have present := core.control.sole index state
      rw [runs.currentTask] at present
      exact (TaskRef.user.inj (Option.some.inj present)).symm)
  have blocked : ∀ other < 2, (release.system.kernel.tasks other).state = .blocked := by
    intro other small
    refine ok.blocked_above run runs.running active (by omega) ?_
    match other, small with
    | 0, _ => exact (by decide : 1 < 3)
    | 1, _ => exact (by decide : 1 < 4)
  have tallied : ∀ state ≠ .invalid, scan.report.tasksIn state =
      (if TaskState.blocked = state then 2 else 0) +
        if TaskState.running = state then 1 else 0 := by
    intro state valid
    have counted := kernelCheckInvariants_tasksIn cfg release.system.kernel valid
    rw [checked, Kernel.scanCount, Nat.min_eq_left (StacksOk.of_run run).kernel.count,
      deployed.taskCount, Kernel.tally_succ, Kernel.tally_succ, Kernel.tally_succ,
      blocked 0 (by decide), blocked 1 (by decide), runs.state] at counted
    rw [counted]
    split <;> rfl
  have silent := scanned.silent fun index _ => Kernel.AllPublished.of_run run runs.running index
  have current := scanned.current registered
  rw [(ok.hosts 2 registered).id] at current
  have ready : scan.report.readyTasks = 0 := tallied .ready (by decide)
  have running : scan.report.runningTasks = 1 := tallied .running (by decide)
  have waiting : scan.report.blockedTasks = 2 := tallied .blocked (by decide)
  rw [checked, kernelReport, silent, current, ready, running, waiting, scanned.taskCount,
    deployed.taskCount]
  rfl

/-! ## What is still to be read -/

/-- A demo status in order, after `count` deliveries. -/
structure DemoStatus.InOrder (demo : DemoStatus) (count : Nat) : Prop where
  messagesSent : demo.messagesSent = BitVec.ofNat 32 count
  messagesReceived : demo.messagesReceived = BitVec.ofNat 32 count
  queueDepth : demo.queueDepth = 0
  orderErrors : demo.orderErrors = 0
  sendErrors : demo.sendErrors = 0
  receiveErrors : demo.receiveErrors = 0
  taskCreateErrors : demo.taskCreateErrors = 0

/-- A trace status in order. -/
structure TraceStatus.InOrder (trace : TraceStatus) : Prop where
  capacity : trace.capacity = 128
  count : trace.count ≤ 128

/-- A report of values in order is in order. -/
theorem statusReport_inOrder
    {demo : DemoStatus} {trace : TraceStatus} {count : Nat} (inOrder : demo.InOrder count)
    (ring : trace.InOrder) (uart : UartStatus) (tick : Word) :
    (statusReport demo trace uart tick 3).InOrder count where
  taskCount := rfl
  messagesSent := inOrder.messagesSent
  messagesReceived := inOrder.messagesReceived
  queueDepth := inOrder.queueDepth
  demoErrors := by
    simp only [statusReport, StatusReport.demoErrors, inOrder.orderErrors, inOrder.sendErrors,
      inOrder.receiveErrors, inOrder.taskCreateErrors]
    decide
  traceCapacity := congrArg (BitVec.ofNat 32) ring.capacity
  traceCount := by
    have small := ring.count
    change BitVec.ofNat 32 trace.count ≤ BitVec.ofNat 32 128
    rw [BitVec.le_def, BitVec.toNat_ofNat, BitVec.toNat_ofNat,
      Nat.mod_eq_of_lt (by omega), Nat.mod_eq_of_lt (by omega)]
    exact small

/-- What the monitor has read for its answer to the last byte taken. -/
inductive Reads (events : List ReleaseEvent) (position : Nat) : MonitorPoint → Byte → Prop
  | processing (command : Byte) : Reads events position (.processing command) command
  | readingDemo : Reads events position .readingDemo 115
  | readingTrace {earlier : List ReleaseEvent} {demo : DemoStatus}
      (asked : Asked events position earlier) (inOrder : demo.InOrder (deliveries earlier)) :
      Reads events position (.readingTrace demo) 115
  | readingUart {earlier : List ReleaseEvent} {demo : DemoStatus} {trace : TraceStatus}
      (asked : Asked events position earlier) (inOrder : demo.InOrder (deliveries earlier))
      (ring : trace.InOrder) : Reads events position (.readingUart demo trace) 115
  | readingTick {earlier : List ReleaseEvent} {demo : DemoStatus} {trace : TraceStatus}
      (asked : Asked events position earlier) (inOrder : demo.InOrder (deliveries earlier))
      (ring : trace.InOrder) (uart : UartStatus) :
      Reads events position (.readingTick demo trace uart) 115
  | readingCount {earlier : List ReleaseEvent} {demo : DemoStatus} {trace : TraceStatus}
      (asked : Asked events position earlier) (inOrder : demo.InOrder (deliveries earlier))
      (ring : trace.InOrder) (uart : UartStatus) (tick : Word) :
      Reads events position (.readingCount demo trace uart tick) 115
  | checking : Reads events position .checking 107
  | readingAsserts {report : InvariantReport} (inOrder : kernelReport report 0 0 = kernelInOrder) :
      Reads events position (.readingAsserts report) 107
  | readingFault {report : InvariantReport} (inOrder : kernelReport report 0 0 = kernelInOrder) :
      Reads events position (.readingFault report 0) 107
  | snapshotting : Reads events position .snapshotting 116

/-- What the monitor has read stays read when the run goes on. -/
theorem Reads.later
    {events emitted : List ReleaseEvent} {position : Nat} {point : MonitorPoint} {command : Byte}
    (reads : Reads events position point command) :
    Reads (events ++ emitted) position point command := by
  cases reads with
  | processing => exact .processing command
  | readingDemo => exact .readingDemo
  | readingTrace asked inOrder => exact .readingTrace asked.later inOrder
  | readingUart asked inOrder ring => exact .readingUart asked.later inOrder ring
  | readingTick asked inOrder ring => exact .readingTick asked.later inOrder ring _
  | readingCount asked inOrder ring => exact .readingCount asked.later inOrder ring _ _
  | checking => exact .checking
  | readingAsserts inOrder => exact .readingAsserts inOrder
  | readingFault inOrder => exact .readingFault inOrder
  | snapshotting => exact .snapshotting

/-- The image as the monitor finds it while it runs. -/
structure Observed
    {cfg : Config} (image : ReleaseImage cfg) (events : List ReleaseEvent) (release : Release) :
    Prop where
  reached : (releaseMachine image).Run soundSwitches events release
  unmasked : release.system.cpu = .unmasked
  initialized : release.uart.initialized = true
  taskCount : release.system.kernel.taskCount = 3
  demo : release.demo.InOrder (deliveries events)
  unrecorded : release.Unrecorded
  logged : ∃ times, release.system.Logged times

/-- What the monitor reads in a run agrees with the run. -/
theorem Observed.of_run
    {cfg : Config} {image : ReleaseImage cfg} {events : List ReleaseEvent} {release : Release}
    (run : (releaseMachine image).Run soundSwitches events release)
    (active : release.system.activeThread = some (.task 2)) : Observed image events release := by
  have sound := ReleaseSound.of_run run
  have kernelRun := release_run run
  have traced : release.Traced cfg _ := .of_run run
  have running := ((Core.of_run kernelRun).active_current active).running
  have deployed := sound.ok.deployed running
  obtain ⟨ticks, same, pipeline⟩ := Conveys.of_run run
  obtain ⟨_, sent, received⟩ := pipeline.settled same sound.ok kernelRun active
  exact ⟨run, sound.ok.cpu, deployed.uart, deployed.taskCount,
    ⟨sent, received, pipeline.queueDepth, pipeline.orderErrors, pipeline.sendErrors,
      pipeline.receiveErrors, pipeline.taskCreateErrors⟩,
    sound.unrecorded,
    System.Logged.of_run traced.run (traced.traced (deployed.boot ▸ by decide))⟩

/-- What the monitor does next for the last byte taken: it reads on, or its answer is settled. -/
inductive Decides
    {cfg : Config} (image : ReleaseImage cfg) (events : List ReleaseEvent) (position : Nat)
    (command : Byte) (next : Release) : Prop
  | reads {point : MonitorPoint} (place : next.tasks 2 = .monitor point)
      (reads : Reads events position point command)
  | answers {text : List Char} (answer : Answer image events (command, position) text)
      (owes : Owes next.traceEntries (next.tasks 2) text)

section Decides

variable {cfg : Config} {image : ReleaseImage cfg} {release next : Release} {input : UsartInput}
  {past : List ReleaseEvent} {emitted : List ReleaseEvent} {position : Nat} {command : Byte}

/-- The dispatch of a byte. -/
theorem Decides.processes
    (place : next.tasks 2 = .monitor (monitorProcessCommand command)) :
    Decides image past position command next := by
  have writes : ∀ {text : List Char}, text ≠ [] →
      next.tasks 2 = .monitor (.write text .polls) →
      Owes next.traceEntries (next.tasks 2) text := by
    intro text filled here
    rw [here]
    exact .write filled rfl
  simp only [monitorProcessCommand] at place
  split at place
  · refine .answers (.skips ‹_›) ?_
    rw [place]
    exact .polling
  · split at place
    · exact .answers (.helps ‹_›) (writes (by decide) place)
    · split at place
      · subst command
        exact .reads place .readingDemo
      · split at place
        · subst command
          exact .reads place .checking
        · split at place
          · subst command
            exact .reads place .snapshotting
          · split at place
            · subst command
              exact .answers .version (writes (by decide) place)
            · refine .answers (.unknown ?_) (writes (by decide) place)
              simp only [List.mem_cons, List.not_mem_nil]
              tauto

/-- Reading on for an answer ends in the answer. -/
theorem Reads.acts
    {point : MonitorPoint} (reads : Reads past position point command)
    (observed : Observed image past release) (asked : Asked past position past)
    (acted : release.monitorAct input 2 point = some (next, emitted)) :
    emitted = [] ∧ Decides image past position command next := by
  cases reads with
  | processing =>
      obtain ⟨rfl, rfl⟩ := Prod.mk.inj (Option.some.inj acted)
      exact ⟨rfl, .processes (Release.setPoint_tasks_self ..)⟩
  | readingDemo =>
      obtain ⟨rfl, rfl⟩ := Prod.mk.inj (Option.some.inj acted)
      exact ⟨rfl, .reads (Release.setPoint_tasks_self ..) (.readingTrace asked observed.demo)⟩
  | readingTrace since inOrder =>
      obtain ⟨rfl, rfl⟩ := Prod.mk.inj (Option.some.inj acted)
      obtain ⟨times, logged⟩ := observed.logged
      have held : release.system.kernel.trace.count ≤ 128 := by
        rw [logged.ring.count]
        exact Nat.min_le_right _ _
      exact ⟨rfl, .reads (Release.setPoint_tasks_self ..)
        (.readingUart since inOrder ⟨rfl, held⟩)⟩
  | readingUart since inOrder ring =>
      obtain ⟨rfl, rfl⟩ := Prod.mk.inj (Option.some.inj acted)
      exact ⟨rfl, .reads (Release.setPoint_tasks_self ..) (.readingTick since inOrder ring _)⟩
  | readingTick since inOrder ring uart =>
      obtain ⟨rfl, rfl⟩ := Prod.mk.inj (Option.some.inj acted)
      exact ⟨rfl, .reads (Release.setPoint_tasks_self ..) (.readingCount since inOrder ring _ _)⟩
  | readingCount since inOrder ring uart tick =>
      simp only [Release.monitorAct, observed.taskCount] at acted
      obtain ⟨rfl, rfl⟩ := Prod.mk.inj (Option.some.inj acted)
      obtain ⟨written, _⟩ := (StatusReport.reported _ release.line).written 2 .endsStatus
      refine ⟨rfl, .answers (.status since (statusReport_inOrder inOrder ring uart tick)) ?_⟩
      rw [written]
      exact .write (lineText_ne_nil (by decide) _) rfl
  | checking => cases acted
  | readingAsserts inOrder =>
      simp only [Release.monitorAct, observed.unrecorded.1] at acted
      obtain ⟨rfl, rfl⟩ := Prod.mk.inj (Option.some.inj acted)
      exact ⟨rfl, .reads (Release.setPoint_tasks_self ..) (.readingFault inOrder)⟩
  | readingFault inOrder =>
      simp only [Release.monitorAct, observed.unrecorded.2, inOrder] at acted
      obtain ⟨rfl, rfl⟩ := Prod.mk.inj (Option.some.inj acted)
      obtain ⟨written, _⟩ := (kernelInOrder.reported release.line).written 2 .endsKernel
      refine ⟨rfl, .answers .kernel ?_⟩
      rw [written]
      exact .write (lineText_ne_nil (by decide) _) rfl
  | snapshotting =>
      obtain ⟨times, logged⟩ := observed.logged
      obtain ⟨written, copied, newest, _⟩ :=
        logged.ring.snapshot release.traceEntries monitorTraceCount
      simp only [Release.monitorAct, copied] at acted
      obtain ⟨rfl, rfl⟩ := Prod.mk.inj (Option.some.inj acted)
      refine ⟨rfl, .answers (.trace asked observed.reached logged) ?_⟩
      rw [Release.setPoint_tasks_self, TraceHistory.newest_eq, ← newest, List.range_eq_range']
      exact .checks (by decide) _

end Decides

end ForgeKernel
