import ForgeKernel.Property.TraceReplay
import ForgeKernel.Property.TraceRing
import ForgeKernel.Property.Timeouts

/-!
# The trace ring of a run

When the ring is switched on before the first event and left alone, it holds in every
reached state the newest events of the whole run, numbered from one, with the ticks at
which they happened.
-/

namespace ForgeKernel

open Machines

/-! ## What each step records -/

namespace Kernel.Recorded

theorem publishes (kernel : Kernel) (index : Nat) (initialSp : Word) :
    kernel.Recorded (taskCreatePublish kernel index initialSp) := by
  unfold taskCreatePublish
  dsimp only
  generalize (kernel.tasks index).publish initialSp = task
  have published : kernel.Recorded (kernel.setTask index task) := .of_trace rfl rfl
  split
  · exact published.record (by decide) _ _ _
  · exact published.trans (.of_trace rfl rfl)

/-- The parts of a creation record one event at most. -/
theorem creates
    {cfg : Config} {kernel : Kernel} {memory : Memory} {config : Option TaskConfig}
    {point : Point} {result : StepResult}
    (step : CreateStep cfg kernel memory config point result) :
    kernel.Recorded result.kernel := by
  cases step with
  | refuses => exact .refl kernel
  | reserves _ reserved =>
      obtain ⟨_, rfl⟩ := taskCreateReserve_some reserved
      exact .of_trace rfl rfl
  | @builds _ index =>
      change kernel.Recorded (taskCreateBuild cfg kernel index).1
      unfold taskCreateBuild
      dsimp only
      split
      · exact .of_trace rfl rfl
      · exact .of_trace rfl rfl
  | publishes => exact publishes kernel _ _

/-- The start of the scheduler records its event. -/
theorem starts
    {cfg : Config} {cpu : Cpu} {kernel after : Kernel}
    (started : schedulerStart cfg cpu kernel = some after) : kernel.Recorded after := by
  have prepares : kernel.Recorded (schedulerInitializeIdle cfg kernel) := by
    unfold schedulerInitializeIdle
    dsimp only
    split
    · exact .of_trace rfl rfl
    · exact .of_trace rfl rfl
  unfold schedulerStart at started
  split at started
  · cases started
  · dsimp only at started
    generalize schedulerInitializeIdle cfg kernel = prepared at *
    generalize taskOrIdle (schedulerSelectHighestReady prepared) = first at *
    split at started
    · obtain rfl := Option.some.inj started
      exact prepares
    · split at started
      · obtain rfl := Option.some.inj started
        have launches : prepared.Recorded (schedulerStartFirst prepared first) := by
          refine record (.of_trace ?_ ?_) (by decide) _ _ _
          all_goals cases first <;> rfl
        unfold portStartFirstTask
        split
        · exact prepares.trans (launches.trans (.of_trace rfl rfl))
        · split
          · exact prepares.trans (launches.trans (.of_trace rfl rfl))
          · exact prepares.trans launches
      · obtain rfl := Option.some.inj started
        exact prepares.trans (.of_trace rfl rfl)

theorem setTaskAt (kernel : Kernel) (ref : TaskRef) (task : Task) :
    kernel.Recorded (kernel.setTaskAt ref task) := by
  cases ref with
  | idle => exact .of_trace rfl rfl
  | user => exact .of_trace rfl rfl

/-- A dispatch records the switch. -/
theorem switches (kernel : Kernel) (current next : TaskRef) :
    kernel.Recorded (schedulerSwitchTo kernel current next) := by
  unfold schedulerSwitchTo
  dsimp only
  have demotes : kernel.Recorded (if (kernel.taskAt current).state = .running then
      kernel.setTaskAt current { kernel.taskAt current with state := .ready } else kernel) := by
    split
    · exact setTaskAt kernel current _
    · exact refl kernel
  generalize (if (kernel.taskAt current).state = .running then
    kernel.setTaskAt current { kernel.taskAt current with state := .ready }
    else kernel) = demoted at demotes ⊢
  have promotes := demotes.trans
    (setTaskAt demoted next { demoted.taskAt next with state := .running })
  refine record ?_ (by decide) _ _ _
  exact promotes.trans (.of_trace rfl rfl)

theorem pendSv (kernel : Kernel) (psp : Word) :
    kernel.Recorded (pendSvHandler kernel psp) := by
  have switched : kernel.Recorded
      (schedulerSwitchFromIsr { kernel with pendSv := false } psp).1 := by
    refine (of_trace rfl rfl : kernel.Recorded { kernel with pendSv := false }).trans ?_
    generalize { kernel with pendSv := false } = kernel
    unfold schedulerSwitchFromIsr
    split
    · exact refl kernel
    · split
      · exact refl kernel
      · rename_i current _
        dsimp only
        split
        · exact refl kernel
        · split
          · exact .of_trace rfl rfl
          · have saves := setTaskAt kernel current
              { kernel.taskAt current with savedSp := psp }
            generalize kernel.setTaskAt current _ = saved at *
            split
            · exact saves
            · split
              · exact saves.trans (.of_trace rfl rfl)
              · split
                · exact saves
                · exact saves.trans (switches _ _ _)
  unfold pendSvHandler
  dsimp only
  split
  · exact switched
  · split
    · exact switched.trans (.of_trace rfl rfl)
    · exact switched

/-- Only the trace interface changes the trace in another way. -/
theorem call
    {cfg : Config} {cpu : Cpu} {kernel : Kernel} {memory : Memory} {self : Nat} {point : Point}
    {result : StepResult} {call : Call} (untraced : call.traceOperation = none)
    (stepped : call.step cfg cpu kernel memory self point = some result) :
    kernel.Recorded result.kernel := by
  cases plain : call.isPlain with
  | true => exact (Call.step_writes plain untraced stepped).recorded
  | false =>
      cases call with
      | taskCreate => exact creates (taskCreateStep_cases stepped)
      | taskYield =>
          cases point with
          | entry | svc =>
              simp only [Call.step, taskYieldStep] at stepped
              split at stepped
              all_goals
                obtain rfl := Option.some.inj stepped
                exact .of_trace rfl rfl
          | _ => cases stepped
      | schedulerStart =>
          cases point with
          | entry =>
              simp only [Call.step, schedulerStartStep] at stepped
              split at stepped
              · rename_i started
                obtain rfl := Option.some.inj stepped
                exact starts started
              · obtain rfl := Option.some.inj stepped
                exact refl kernel
          | _ => cases stepped
      | _ => cases plain

end Kernel.Recorded

/-- The operation of the trace interface that the running thread is about to perform. -/
def System.tracing (system : System) : Option TraceOperation :=
  system.activeThread.bind fun thread =>
    match system.frames thread with
    | .inCall call _ => call.traceOperation
    | .user => none

/-- What a step does to the trace. -/
theorem System.step_recorded
    {cfg : Config} {system after : System} {action : Action} {events : List Event}
    (step : system.step cfg action = some (after, events)) :
    (∃ operation ∈ system.tracing, action = .advance ∧
      after.kernel.trace = operation.apply system.kernel.trace) ∨
    ∃ calls : List TraceCall, (∀ call ∈ calls, call.event ≠ .none) ∧
      after.kernel.trace = calls.foldl (Trace.enter after.kernel.tickCount)
        system.kernel.trace := by
  have records : ∀ {before : Kernel}, before.trace = system.kernel.trace →
      before.Recorded after.kernel → ∃ calls : List TraceCall,
        (∀ call ∈ calls, call.event ≠ .none) ∧
        after.kernel.trace = calls.foldl (Trace.enter after.kernel.tickCount)
          system.kernel.trace := by
    rintro before same ⟨tickCount, calls, named, entered⟩
    exact ⟨calls, named, by rw [entered, tickCount, same]⟩
  cases System.stepped step with
  | sysTick =>
      refine Or.inr (records ?_ (sysTickHandler_writes system.kernel).recorded)
      rfl
  | pendSv => exact Or.inr (records rfl (.pendSv system.kernel _))
  | invoke => exact Or.inr (records rfl (.of_trace rfl rfl))
  | @advance thread call point result active inCall stepped =>
      cases performs : call.traceOperation with
      | none => exact Or.inr (records rfl (.call performs stepped))
      | some operation =>
          refine Or.inl ⟨operation, ?_, rfl, ?_⟩
          · simp only [System.tracing, active, Option.bind_some, inCall, performs,
              Option.mem_some_iff]
          · exact congrArg Kernel.trace (Call.step_retraces performs stepped)
  | user => exact Or.inr (records rfl (.of_trace rfl rfl))

/-! ## The ring over a run -/

/-- The record of a call made at this time, counted in ticks since reset. -/
def TraceCall.recordedAt (call : TraceCall) (time : Nat) : TraceRecord :=
  ⟨BitVec.ofNat 32 time, call.event, call.taskId, call.arg0, call.arg1⟩

/-- The history in which these calls were made at these times, tracing enabled. -/
def TraceHistory.ofCalls (calls : List TraceCall) (times : List Nat) : TraceHistory :=
  ⟨true, List.zipWith TraceCall.recordedAt calls times⟩

/-- The ring holds the history of all calls, made at nondecreasing times up to now. -/
structure System.Logged (system : System) (times : List Nat) : Prop where
  ring : TraceOk (.ofCalls system.kernel.trace.calls times) system.kernel.trace
  length : times.length = system.kernel.trace.calls.length
  ordered : times.Pairwise (· ≤ ·)
  past : ∀ time ∈ times, time ≤ system.time

theorem Trace.enter_enabled (now : Word) (trace : Trace) (call : TraceCall) :
    (trace.enter now call).enabled = trace.enabled := by
  unfold Trace.enter traceRecordLocked
  split <;> rfl

theorem Trace.foldl_enter (now : Word) (trace : Trace) (calls : List TraceCall) :
    (calls.foldl (Trace.enter now) trace).enabled = trace.enabled ∧
      (calls.foldl (Trace.enter now) trace).calls = trace.calls ++ calls := by
  induction calls generalizing trace with
  | nil => exact ⟨rfl, (List.append_nil _).symm⟩
  | cons call calls inductionHypothesis =>
      obtain ⟨enabled, kept⟩ := inductionHypothesis (trace.enter now call)
      refine ⟨enabled.trans (trace.enter_enabled now call), kept.trans ?_⟩
      exact List.append_assoc trace.calls [call] calls

/-- Entering calls extends the history by their records. -/
theorem TraceOk.entered
    {history : TraceHistory} {trace : Trace} (ok : TraceOk history trace)
    (active : trace.enabled = true) (time : Nat) {calls : List TraceCall}
    (named : ∀ call ∈ calls, call.event ≠ .none) :
    TraceOk { history with records := history.records ++ calls.map (·.recordedAt time) }
      (calls.foldl (Trace.enter (BitVec.ofNat 32 time)) trace) := by
  induction calls generalizing history trace with
  | nil =>
      rw [List.map_nil, List.append_nil]
      exact ok
  | cons call calls inductionHypothesis =>
      obtain ⟨valid, others⟩ := List.forall_mem_cons.mp named
      have recorded := ok.record active (BitVec.ofNat 32 time) valid call.taskId call.arg0
        call.arg1
      have entered : TraceOk (history.extended (call.recordedAt time))
          (trace.enter (BitVec.ofNat 32 time) call) :=
        ⟨recorded.enabled, recorded.writeIndex, recorded.count, recorded.nextSequence,
          recorded.overwritten, recorded.retains⟩
      have rest := inductionHypothesis entered
        ((trace.enter_enabled _ call).trans active) others
      rw [List.map_cons, List.append_cons]
      exact rest

theorem TraceCall.zipWith_recordedAt (calls : List TraceCall) (time : Nat) :
    List.zipWith TraceCall.recordedAt calls (List.replicate calls.length time) =
      calls.map (·.recordedAt time) := by
  apply List.ext_getElem
  · simp
  · intro position small bound
    simp

namespace System.Logged

variable {system : System} {times : List Nat}

/-- `fr_trace_init` before the first call. -/
theorem initialized
    (unrecorded : system.kernel.trace.calls = [])
    {before : Trace} (init : system.kernel.trace = traceInit before) : system.Logged [] where
  ring := by
    rw [unrecorded, init]
    exact .init before
  length := (congrArg List.length unrecorded).symm
  ordered := .nil
  past _ impossible := absurd impossible List.not_mem_nil

/-- New entries carry the time of their step. -/
theorem extended
    {after : System} (logged : system.Logged times) (active : system.kernel.trace.enabled = true)
    (later : system.time ≤ after.time)
    (counted : after.kernel.tickCount = BitVec.ofNat 32 after.time)
    {calls : List TraceCall} (named : ∀ call ∈ calls, call.event ≠ .none)
    (entered : after.kernel.trace =
      calls.foldl (Trace.enter after.kernel.tickCount) system.kernel.trace) :
    after.Logged (times ++ List.replicate calls.length after.time) := by
  have grown : after.kernel.trace.calls = system.kernel.trace.calls ++ calls := by
    rw [entered]
    exact (Trace.foldl_enter ..).2
  constructor
  · have ring := logged.ring.entered active after.time named
    have history : TraceHistory.ofCalls (system.kernel.trace.calls ++ calls)
        (times ++ List.replicate calls.length after.time) =
        { TraceHistory.ofCalls system.kernel.trace.calls times with
          records := (TraceHistory.ofCalls system.kernel.trace.calls times).records ++
            calls.map (·.recordedAt after.time) } := by
      unfold TraceHistory.ofCalls
      rw [List.zipWith_append logged.length.symm, TraceCall.zipWith_recordedAt]
    rw [grown, history, entered, counted]
    exact ring
  · rw [grown, List.length_append, List.length_append, List.length_replicate, logged.length]
  · rw [List.pairwise_append]
    refine ⟨logged.ordered, List.pairwise_replicate.mpr (Or.inr le_rfl), ?_⟩
    intro earlier listed time present
    rw [List.eq_of_mem_replicate present]
    exact (logged.past earlier listed).trans later
  · intro time present
    rcases List.mem_append.mp present with listed | new
    · exact (logged.past time listed).trans later
    · exact (List.eq_of_mem_replicate new).le

end System.Logged

/-- The ring is switched on before the first record; it is neither cleared nor switched off. -/
def tracesThroughout (system : System) (action : Action) : Prop :=
  action = .advance → ∀ operation ∈ system.tracing,
    operation = .init ∧ system.kernel.trace.calls = []

instance tracesThroughoutDecidable (system : System) (action : Action) :
    Decidable (tracesThroughout system action) :=
  inferInstanceAs (Decidable (action = .advance → ∀ operation ∈ system.tracing,
    operation = .init ∧ system.kernel.trace.calls = []))

theorem System.Logged.step
    {cfg : Config} {system after : System} {action : Action} {events : List Event}
    (logged : system.kernel.trace.enabled = true → ∃ times, system.Logged times)
    (core : Core system) (counted : system.kernel.tickCount = BitVec.ofNat 32 system.time)
    (allowed : tracesThroughout system action)
    (step : system.step cfg action = some (after, events))
    (enabled : after.kernel.trace.enabled = true) : ∃ times, after.Logged times := by
  have clock := core.clockStep step
  have later : system.time ≤ after.time := by
    cases clock with
    | ticks time => omega
    | stands _ time => omega
  rcases System.step_recorded step with ⟨operation, performs, rfl, retraced⟩ |
    ⟨calls, named, entered⟩
  · obtain ⟨rfl, unrecorded⟩ := allowed rfl operation performs
    refine ⟨[], .initialized ?_ retraced⟩
    rw [retraced]
    exact unrecorded
  · have active : system.kernel.trace.enabled = true := by
      rw [entered, (Trace.foldl_enter ..).1] at enabled
      exact enabled
    obtain ⟨times, before⟩ := logged active
    exact ⟨_, before.extended active later (clock.counted counted) named entered⟩

theorem System.Logged.of_run
    {cfg : Config} {events : List Event} {system : System}
    (run : (forge cfg).Run tracesThroughout events system)
    (enabled : system.kernel.trace.enabled = true) : ∃ times, system.Logged times := by
  refine (run.stateInvariant (motive := fun system => Core system ∧
    system.kernel.tickCount = BitVec.ofNat 32 system.time ∧
    (system.kernel.trace.enabled = true → ∃ times, system.Logged times))
    ⟨Core.initial, rfl, fun impossible => absurd impossible Bool.false_ne_true⟩ ?_).2.2 enabled
  rintro _ middle next action ⟨core, counted, logged⟩ allowed stepped
  exact ⟨core.step stepped, (core.clockStep stepped).counted counted,
    System.Logged.step logged core counted allowed stepped⟩

/-- What the trace interface reports in a reached state: the counters of a ring that has seen
every event of the run, and of every size the newest of them. -/
theorem trace_ring_follows_run
    {cfg : Config} {events : List Event} {system : System}
    (run : (forge cfg).Run tracesThroughout events system)
    (enabled : system.kernel.trace.enabled = true) :
    let calls := system.kernel.trace.calls
    ∃ times : List Nat, times.length = calls.length ∧ times.Pairwise (· ≤ ·) ∧
      (∀ time ∈ times, time ≤ system.time) ∧
      traceGetStatus system.kernel.trace true = some ⟨traceBufferCapacity,
        min calls.length traceBufferCapacity, calls.length % traceBufferCapacity,
        BitVec.ofNat 32 (calls.length + 1),
        BitVec.ofNat 32 (calls.length - traceBufferCapacity), true⟩ ∧
      ∀ (entries : Nat → TraceEntry) (maxEntries : Word),
        let count := min (min calls.length traceBufferCapacity) maxEntries.toNat
        ∃ written, traceSnapshot system.kernel.trace (some entries) maxEntries =
            (some written, count) ∧
          (List.range count).map written =
            (TraceHistory.ofCalls calls times).entries.drop (calls.length - count) := by
  intro calls
  obtain ⟨times, logged⟩ := System.Logged.of_run run enabled
  have length : (TraceHistory.ofCalls calls times).records.length = calls.length := by
    change (List.zipWith _ calls times).length = _
    rw [List.length_zipWith, logged.length, Nat.min_self]
  have ring := logged.ring
  refine ⟨times, logged.length, logged.ordered, logged.past, ?_, fun entries maxEntries => ?_⟩
  · unfold traceGetStatus
    rw [if_pos rfl, ring.count, ring.writeIndex, ring.nextSequence, ring.overwritten,
      ring.enabled]
    unfold TraceHistory.held
    rw [length]
    have lost : calls.length - min calls.length traceBufferCapacity =
        calls.length - traceBufferCapacity := by omega
    rw [lost]
    rfl
  · obtain ⟨written, copied, newest, _⟩ := ring.snapshot entries maxEntries
    unfold TraceHistory.copied TraceHistory.held at copied newest
    rw [length] at copied newest
    exact ⟨written, copied, newest⟩

/-- The two newest events after a timeout and a second wait. -/
theorem newest_events_read :
    ∃ events system times written, (forge Config.default).Run tracesThroughout events system ∧
      system.kernel.trace.calls.length = 10 ∧
      traceSnapshot system.kernel.trace (some fun _ => ⟨0, 0, .none, 0, 0, 0⟩) 2 =
        (some written, 2) ∧
      [written 0, written 1] =
        (TraceHistory.ofCalls system.kernel.trace.calls times).entries.drop 8 := by
  obtain ⟨events, system, run, reached⟩ :=
    Machine.RunFrom.exists_of_execFrom (forge Config.default) tracesThroughout System.boot
      timedOutThenWaiting (fun _ system => decide (system.kernel.trace.enabled = true ∧
        system.kernel.trace.calls.length = 10))
      (by decide +kernel)
  obtain ⟨enabled, length⟩ := of_decide_eq_true reached
  obtain ⟨times, _, _, _, _, newest⟩ := trace_ring_follows_run run enabled
  obtain ⟨written, copied, listed⟩ := newest (fun _ => ⟨0, 0, .none, 0, 0, 0⟩) 2
  rw [length] at copied listed
  exact ⟨events, system, times, written, run, length, copied, listed⟩

end ForgeKernel
