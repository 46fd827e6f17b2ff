import ForgeKernel.Library.Ring
import ForgeKernel.Library.Scan
import ForgeKernel.Model.Trace

/-!
# The trace ring is the list of newest events

The abstract trace is the list of records accepted since the last `init` or
`clear`.  The ring retains its newest entries, and a snapshot reads them back
in order.
-/

namespace ForgeKernel

open Rings Scans

/-- What a record says, apart from its number. -/
structure TraceRecord where
  tick : Word
  event : TraceEvent
  taskId : Nat
  arg0 : Word
  arg1 : Word
  deriving DecidableEq, Repr

/-- The entry of the record at a position of the list. -/
def TraceRecord.entry (record : TraceRecord) (position : Nat) : TraceEntry :=
  ⟨BitVec.ofNat 32 (position + 1), record.tick, record.event, record.taskId, record.arg0,
    record.arg1⟩

/-- The abstract trace. -/
structure TraceHistory where
  enabled : Bool
  records : List TraceRecord
  deriving DecidableEq, Repr

namespace TraceHistory

/-- A record is accepted while tracing is enabled, if its event is valid. -/
def accept (history : TraceHistory) (now code : Word) (taskId : Nat) (arg0 arg1 : Word) :
    TraceHistory :=
  match TraceEvent.ofCode code with
  | none | some .none => history
  | some event =>
      if history.enabled then
        { history with records := history.records ++ [⟨now, event, taskId, arg0, arg1⟩] }
      else history

/-- The abstract effect of an operation. -/
def apply (history : TraceHistory) : TraceOperation → TraceHistory
  | .init => ⟨true, []⟩
  | .clear => { history with records := [] }
  | .enable enabled => { history with enabled := enabled }
  | .record now code taskId arg0 arg1 => history.accept now code taskId arg0 arg1

/-- The history of a sequence of operations. -/
def after (operations : List TraceOperation) : TraceHistory :=
  operations.foldl apply ⟨false, []⟩

/-- The entries of the accepted records, numbered from one. -/
def entries (history : TraceHistory) : List TraceEntry :=
  history.records.zipIdx.map fun record => record.1.entry record.2

@[simp] theorem length_entries (history : TraceHistory) :
    history.entries.length = history.records.length := by
  simp [entries]

/-- Number of entries in the ring. -/
def held (history : TraceHistory) : Nat :=
  min history.records.length traceBufferCapacity

end TraceHistory

/-- The ring represents a history. -/
structure TraceOk (history : TraceHistory) (trace : Trace) : Prop where
  enabled : trace.enabled = history.enabled
  writeIndex : trace.writeIndex = history.records.length % traceBufferCapacity
  count : trace.count = history.held
  nextSequence : trace.nextSequence = BitVec.ofNat 32 (history.records.length + 1)
  overwritten : trace.overwrittenEvents =
    BitVec.ofNat 32 (history.records.length - history.held)
  retains : Retains traceBufferCapacity trace.buffer history.entries

/-! ## Operations -/

theorem traceAdvanceIndex_mod (position : Nat) :
    traceAdvanceIndex (position % traceBufferCapacity) =
      (position + 1) % traceBufferCapacity := by
  have small : position % traceBufferCapacity < traceBufferCapacity :=
    Nat.mod_lt _ (by decide)
  rw [traceAdvanceIndex, ← succ_mod small, Nat.mod_add_mod]

/-- An emptied ring represents the empty history. -/
theorem TraceOk.emptied
    {trace : Trace} (enabled : Bool)
    (same : trace.enabled = enabled)
    (writeIndex : trace.writeIndex = 0) (count : trace.count = 0)
    (nextSequence : trace.nextSequence = 1) (overwritten : trace.overwrittenEvents = 0) :
    TraceOk ⟨enabled, []⟩ trace where
  enabled := same
  writeIndex := by simp [writeIndex]
  count := by simp [count, TraceHistory.held]
  nextSequence := by simp [nextSequence]
  overwritten := by simp [overwritten]
  retains := Retains.nil _

theorem TraceOk.init (trace : Trace) : TraceOk ⟨true, []⟩ (traceInit trace) :=
  .emptied true rfl rfl rfl rfl rfl

theorem TraceOk.clear
    {history : TraceHistory} {trace : Trace} (ok : TraceOk history trace) :
    TraceOk { history with records := [] } (traceClear trace) :=
  .emptied history.enabled ok.enabled rfl rfl rfl rfl

theorem TraceOk.enable
    {history : TraceHistory} {trace : Trace} (ok : TraceOk history trace) (enabled : Bool) :
    TraceOk { history with enabled := enabled } (traceEnable trace enabled) :=
  ⟨rfl, ok.writeIndex, ok.count, ok.nextSequence, ok.overwritten, ok.retains⟩

/-- The history with one more record. -/
def TraceHistory.extended (history : TraceHistory) (record : TraceRecord) : TraceHistory :=
  { history with records := history.records ++ [record] }

theorem TraceHistory.length_extended (history : TraceHistory) (record : TraceRecord) :
    (history.extended record).records.length = history.records.length + 1 := by
  simp [extended]

theorem TraceHistory.entries_extended (history : TraceHistory) (record : TraceRecord) :
    (history.extended record).entries =
      history.entries ++ [record.entry history.records.length] := by
  simp [entries, extended, List.zipIdx_append]

/-- An accepted record is the next entry of the history. -/
theorem TraceOk.record
    {history : TraceHistory} {trace : Trace} (ok : TraceOk history trace)
    (active : trace.enabled = true) (now : Word) {event : TraceEvent} (valid : event ≠ .none)
    (taskId : Nat) (arg0 arg1 : Word) :
    TraceOk (history.extended ⟨now, event, taskId, arg0, arg1⟩)
      (traceRecordLocked trace now event taskId arg0 arg1) := by
  have accepted : ¬(trace.enabled = false ∨ event = .none) := by
    simp [active, valid]
  rw [traceRecordLocked, if_neg accepted]
  have count := ok.count
  rw [TraceHistory.held] at count
  refine ⟨ok.enabled, ?_, ?_, ?_, ?_, ?_⟩
  · simp only [ok.writeIndex, traceAdvanceIndex_mod, TraceHistory.length_extended]
  · simp only [TraceHistory.held, TraceHistory.length_extended]
    split <;> omega
  · simp only [ok.nextSequence, TraceHistory.length_extended]
    exact (BitVec.ofNat_add _ 1).symm
  · simp only [ok.overwritten, TraceHistory.held, TraceHistory.length_extended]
    split
    · congr 1
      omega
    · rw [show history.records.length + 1 -
          min (history.records.length + 1) traceBufferCapacity =
            history.records.length - min history.records.length traceBufferCapacity + 1 by omega]
      exact (BitVec.ofNat_add _ 1).symm
  · rw [TraceHistory.entries_extended]
    have pushed := ok.retains.push
      (TraceRecord.entry ⟨now, event, taskId, arg0, arg1⟩ history.records.length)
    rw [TraceHistory.length_entries] at pushed
    simpa only [ok.writeIndex, ok.nextSequence, TraceRecord.entry] using pushed

/-- Every operation keeps the representation. -/
theorem TraceOk.apply
    {history : TraceHistory} {trace : Trace} (ok : TraceOk history trace)
    (operation : TraceOperation) : TraceOk (history.apply operation) (operation.apply trace) := by
  cases operation with
  | init => exact .init trace
  | clear => exact ok.clear
  | enable enabled => exact ok.enable enabled
  | record now code taskId arg0 arg1 =>
      simp only [TraceHistory.apply, TraceOperation.apply, TraceHistory.accept, traceRecordCode]
      cases decoded : TraceEvent.ofCode code with
      | none => exact ok
      | some event =>
          by_cases valid : event = .none
          · subst valid
            simpa [traceRecordLocked] using ok
          · cases active : trace.enabled with
            | true =>
                have written := ok.record active now valid taskId arg0 arg1
                have enabled : history.enabled = true := by rw [← ok.enabled, active]
                cases event <;> simp_all [TraceHistory.extended]
            | false =>
                have disabled : history.enabled = false := by rw [← ok.enabled, active]
                cases event <;> simp_all [traceRecordLocked]

/-- The representation after a sequence of operations that begins with `init`. -/
theorem TraceOk.of_operations (initial : Trace) (operations : List TraceOperation) :
    TraceOk (TraceHistory.after (.init :: operations))
      ((TraceOperation.init :: operations).foldl TraceOperation.apply initial) := by
  have reached : ∀ (history : TraceHistory) (trace : Trace), TraceOk history trace →
      TraceOk (operations.foldl TraceHistory.apply history)
        (operations.foldl TraceOperation.apply trace) := by
    induction operations with
    | nil => exact fun _ _ ok => ok
    | cons operation operations inductionHypothesis =>
        intro history trace ok
        exact inductionHypothesis _ _ (ok.apply operation)
  exact reached _ _ (.init initial)

/-! ## Snapshots -/

/-- The skip loop moves the index forward. -/
theorem traceAdvanceIndex_skip (start skipCount : Nat) :
    (List.range skipCount).foldl (fun index _ => traceAdvanceIndex index)
        (start % traceBufferCapacity) =
      (start + skipCount) % traceBufferCapacity := by
  apply foldl_range_invariant
    (motive := fun done index => index = (start + done) % traceBufferCapacity)
  · rfl
  · intro index done _ reached
    rw [reached, traceAdvanceIndex_mod, Nat.add_assoc]

/-- The copy loop writes the ring entries from `start` on into the first positions
of the array. -/
structure TraceCopied
    (trace : Trace) (entries : Nat → TraceEntry) (start count : Nat) (copy : TraceCopy) :
    Prop where
  index : copy.oldestIndex = (start + count) % traceBufferCapacity
  written : ∀ position < count,
    copy.entries position = trace.buffer ((start + position) % traceBufferCapacity)
  untouched : ∀ position, count ≤ position → copy.entries position = entries position

theorem TraceCopied.step
    {trace : Trace} {entries : Nat → TraceEntry} {start count : Nat} {copy : TraceCopy}
    (copied : TraceCopied trace entries start count copy) :
    TraceCopied trace entries start (count + 1) (traceCopyStep trace copy count) where
  index := by
    rw [traceCopyStep, copied.index, traceAdvanceIndex_mod, Nat.add_assoc]
  written position inside := by
    rcases Nat.lt_succ_iff_lt_or_eq.mp inside with earlier | rfl
    · simp only [traceCopyStep, Function.update_of_ne earlier.ne]
      exact copied.written position earlier
    · simp only [traceCopyStep, Function.update_self, copied.index]
      rfl
  untouched position outside := by
    have later : position ≠ count := by omega
    simp only [traceCopyStep, Function.update_of_ne later]
    exact copied.untouched position (by omega)

theorem traceCopyStep_copied (trace : Trace) (entries : Nat → TraceEntry) (start count : Nat) :
    TraceCopied trace entries start count
      ((List.range count).foldl (traceCopyStep trace)
        ⟨entries, start % traceBufferCapacity⟩) := by
  apply foldl_range_invariant
    (motive := fun done copy => TraceCopied trace entries start done copy)
  · exact ⟨rfl, fun _ impossible => absurd impossible (Nat.not_lt_zero _), fun _ _ => rfl⟩
  · intro copy done _ copied
    exact copied.step

/-- The oldest entry, before and after the ring first fills. -/
theorem TraceOk.oldest
    {history : TraceHistory} {trace : Trace} (ok : TraceOk history trace) :
    (if trace.count < traceBufferCapacity then 0 else trace.writeIndex) =
      (history.records.length - history.held) % traceBufferCapacity := by
  have count := ok.count
  rw [ok.writeIndex]
  simp only [TraceHistory.held] at count ⊢
  split
  · rw [show history.records.length - min history.records.length traceBufferCapacity = 0 by
      omega, Nat.zero_mod]
  · rw [show min history.records.length traceBufferCapacity = traceBufferCapacity by omega,
      Nat.mod_eq_sub_mod (by omega)]

/-- Number of entries that a snapshot copies. -/
def TraceHistory.copied (history : TraceHistory) (maxEntries : Word) : Nat :=
  min history.held maxEntries.toNat

/-- A snapshot copies the newest entries in order and writes nothing else. -/
theorem TraceOk.snapshot
    {history : TraceHistory} {trace : Trace} (ok : TraceOk history trace)
    (entries : Nat → TraceEntry) (maxEntries : Word) :
    ∃ written, traceSnapshot trace (some entries) maxEntries =
        (some written, history.copied maxEntries) ∧
      (List.range (history.copied maxEntries)).map written =
        history.entries.drop (history.records.length - history.copied maxEntries) ∧
      ∀ position, history.copied maxEntries ≤ position →
        written position = entries position := by
  by_cases none : maxEntries = 0
  · have copied : history.copied maxEntries = 0 := by simp [TraceHistory.copied, none]
    refine ⟨entries, ?_, ?_, fun _ _ => rfl⟩
    · rw [traceSnapshot, if_pos none, copied]
    · simp [copied]
  · have amount : (if trace.count < maxEntries.toNat then trace.count else maxEntries.toNat) =
        history.copied maxEntries := by
      have count := ok.count
      rw [TraceHistory.copied]
      split <;> omega
    have heldBound : history.held ≤ history.records.length := Nat.min_le_left _ _
    have heldFits : history.held ≤ traceBufferCapacity := Nat.min_le_right _ _
    have copiedBound : history.copied maxEntries ≤ history.held := Nat.min_le_left _ _
    have start : history.records.length - history.held +
        (history.held - history.copied maxEntries) =
          history.records.length - history.copied maxEntries := by omega
    have copied := traceCopyStep_copied trace entries
      (history.records.length - history.copied maxEntries) (history.copied maxEntries)
    refine ⟨_, ?_, ?_, copied.untouched⟩
    · simp only [traceSnapshot, if_neg none, amount, ok.oldest, traceAdvanceIndex_skip]
      rw [ok.count, start]
    · have held := ok.retains.contents_eq_drop (copiedBound.trans heldFits)
        (copiedBound.trans (by simpa using heldBound))
      rw [TraceHistory.length_entries] at held
      rw [← held]
      apply List.map_congr_left
      intro position inside
      exact copied.written position (List.mem_range.mp inside)

/-- For every sequence of trace operations that begins with `fr_trace_init`, a
snapshot returns the newest accepted records in order with consecutive sequence
numbers and writes nothing beyond them, and the status counts them. -/
theorem trace_ring_holds_newest
    (initial : Trace) (operations : List TraceOperation)
    (entries : Nat → TraceEntry) (maxEntries : Word) :
    let trace := (TraceOperation.init :: operations).foldl TraceOperation.apply initial
    let history := TraceHistory.after (.init :: operations)
    let accepted := history.records
    let copied := min (min accepted.length 128) maxEntries.toNat
    (∃ written, traceSnapshot trace (some entries) maxEntries = (some written, copied) ∧
      (List.range copied).map written =
        (accepted.zipIdx.map fun record => record.1.entry record.2).drop
          (accepted.length - copied) ∧
      ∀ position, copied ≤ position → written position = entries position) ∧
    traceGetStatus trace true = some {
      capacity := 128
      count := min accepted.length 128
      writeIndex := accepted.length % 128
      nextSequence := BitVec.ofNat 32 (accepted.length + 1)
      overwrittenEvents := BitVec.ofNat 32 (accepted.length - min accepted.length 128)
      enabled := history.enabled } := by
  intro trace history accepted copied
  have ok : TraceOk history trace := .of_operations initial operations
  refine ⟨ok.snapshot entries maxEntries, ?_⟩
  simp only [traceGetStatus, if_true, ok.count, ok.writeIndex, ok.nextSequence, ok.overwritten,
    ok.enabled]
  rfl

/-- More records than the ring holds, read back through a short snapshot. -/
example :
    let operations := (List.range 130).map fun position =>
      TraceOperation.record 7 3 position 0 0
    (traceSnapshot ((TraceOperation.init :: operations).foldl TraceOperation.apply .zero)
      (some Trace.zero.buffer) 2).1.map (fun written => ((written 0).taskId, (written 1).taskId))
      = some (128, 129) := by
  decide +kernel

end ForgeKernel
