import ForgeKernel.Model.Kernel

/-!
# Trace reader

The rest of `trace.c`: the status report, the snapshot that copies the newest
events out of the ring, and the recording function on raw event values.
-/

namespace ForgeKernel

/-- `fr_trace_status_t`. -/
structure TraceStatus where
  capacity : Nat
  count : Nat
  writeIndex : Nat
  nextSequence : Word
  overwrittenEvents : Word
  enabled : Bool
  deriving DecidableEq, Repr

/-- `fr_trace_get_status`; `none` is the `false` return on a null pointer. -/
def traceGetStatus (trace : Trace) (outStatus : Bool) : Option TraceStatus :=
  if outStatus then
    some ⟨traceBufferCapacity, trace.count, trace.writeIndex, trace.nextSequence,
      trace.overwrittenEvents, trace.enabled⟩
  else none

/-- `fr_trace_copy_entry`. -/
def traceCopyEntry (destination source : TraceEntry) : TraceEntry :=
  { destination with
    sequence := source.sequence
    tick := source.tick
    event := source.event
    taskId := source.taskId
    arg0 := source.arg0
    arg1 := source.arg1 }

/-- Loop state of the copy in `fr_trace_snapshot`. -/
structure TraceCopy where
  entries : Nat → TraceEntry
  oldestIndex : Nat

/-- One iteration of the copy loop. -/
def traceCopyStep (trace : Trace) (copy : TraceCopy) (i : Nat) : TraceCopy where
  entries := Function.update copy.entries i
    (traceCopyEntry (copy.entries i) (trace.buffer copy.oldestIndex))
  oldestIndex := traceAdvanceIndex copy.oldestIndex

/-- `fr_trace_snapshot`: the caller's array afterwards and the number of entries
copied. -/
def traceSnapshot (trace : Trace) (entries : Option (Nat → TraceEntry)) (maxEntries : Word) :
    Option (Nat → TraceEntry) × Nat :=
  match entries with
  | none => (none, 0)
  | some entries =>
      if maxEntries = 0 then (some entries, 0)
      else
        let count := trace.count
        let copyCount := if count < maxEntries.toNat then count else maxEntries.toNat
        let oldestIndex := if count < traceBufferCapacity then 0 else trace.writeIndex
        let skipCount := count - copyCount
        let oldestIndex :=
          (List.range skipCount).foldl (fun index _ => traceAdvanceIndex index) oldestIndex
        let copy := (List.range copyCount).foldl (traceCopyStep trace) ⟨entries, oldestIndex⟩
        (some copy.entries, copyCount)

/-- The enumerator of a raw `fr_trace_event_t` value. -/
def TraceEvent.ofCode (code : Word) : Option TraceEvent :=
  [TraceEvent.none, .taskCreate, .schedulerStart, .taskBlock, .taskTimeout, .taskUnblock,
    .contextSwitch][code.toNat]?

/-- `fr_trace_record_locked` on a raw event value: values above the last enumerator
are refused like `FR_TRACE_EVENT_NONE`. -/
def traceRecordCode
    (trace : Trace) (now code : Word) (taskId : Nat) (arg0 arg1 : Word) : Trace :=
  match TraceEvent.ofCode code with
  | none => trace
  | some event => traceRecordLocked trace now event taskId arg0 arg1

/-- The operations that write the trace. -/
inductive TraceOperation
  | init
  | clear
  | enable (enabled : Bool)
  | record (now code : Word) (taskId : Nat) (arg0 arg1 : Word)
  deriving DecidableEq, Repr

/-- Perform one operation. -/
def TraceOperation.apply (trace : Trace) : TraceOperation → Trace
  | .init => traceInit trace
  | .clear => traceClear trace
  | .enable enabled => traceEnable trace enabled
  | .record now code taskId arg0 arg1 => traceRecordCode trace now code taskId arg0 arg1

end ForgeKernel
