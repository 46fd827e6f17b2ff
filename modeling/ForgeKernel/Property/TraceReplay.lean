import ForgeKernel.Invariant.Stacks

/-!
# Replaying the trace

An observer that reads the records passed to `fr_trace_record_locked` keeps, for every task
identifier, the reason of its open wait, and the identifier of the running task.  The records
of every run are records that this observer accepts, and it ends with the waits and the current
task that the kernel has.
-/

namespace ForgeKernel

open Machines Scans

/-! ## The observer -/

/-- Records that the observer accepts, with the open wait of every identifier and the running
task that it ends with. -/
inductive Replay : (Nat → Option Word) → Option Nat → List TraceCall → Prop
  | empty : Replay (fun _ => none) none []
  | create {waits : Nat → Option Word} {current : Option Nat} {calls : List TraceCall}
      (earlier : Replay waits current calls) (id : Nat) (priority words : Word) :
      Replay waits current (calls ++ [⟨.taskCreate, id, priority, words⟩])
  | start {waits : Nat → Option Word} {calls : List TraceCall}
      (earlier : Replay waits none calls) (id : Nat) (count priority : Word) :
      Replay waits (some id) (calls ++ [⟨.schedulerStart, id, count, priority⟩])
  | switch {waits : Nat → Option Word} {calls : List TraceCall} {source target : Word}
      (earlier : Replay waits (some source.toNat) calls) (free : waits target.toNat = none) :
      Replay waits (some target.toNat)
        (calls ++ [⟨.contextSwitch, target.toNat, source, target⟩])
  | block {waits : Nat → Option Word} {current : Option Nat} {calls : List TraceCall} {id : Nat}
      (earlier : Replay waits current calls) (free : waits id = none) (reason ticks : Word) :
      Replay (Function.update waits id (some reason)) current
        (calls ++ [⟨.taskBlock, id, reason, ticks⟩])
  | signal {waits : Nat → Option Word} {current : Option Nat} {calls : List TraceCall}
      {id : Nat} {reason : Word}
      (earlier : Replay waits current calls) (waiting : waits id = some reason) :
      Replay (Function.update waits id none) current
        (calls ++ [⟨.taskUnblock, id, reason, WaitResult.signaled.code⟩])
  | expire {waits : Nat → Option Word} {current : Option Nat} {calls : List TraceCall}
      {id : Nat} {reason : Word}
      (earlier : Replay waits current calls) (waiting : waits id = some reason)
      (deadline : Word) :
      Replay (Function.update waits id none) current
        (calls ++ [⟨.taskTimeout, id, reason, deadline⟩,
          ⟨.taskUnblock, id, reason, WaitResult.timeout.code⟩])

/-- Events of a wait. -/
def TraceEvent.ofWait : TraceEvent → Bool
  | .taskBlock | .taskTimeout | .taskUnblock => true
  | _ => false

/-- Events that name the running task. -/
def TraceEvent.ofSwitch : TraceEvent → Bool
  | .schedulerStart | .contextSwitch => true
  | _ => false

/-- The records of the waits of one task. -/
def waitRecords (id : Nat) (calls : List TraceCall) : List TraceCall :=
  calls.filter fun call => call.taskId = id && call.event.ofWait

/-- The records of the start and of the switches. -/
def switchRecords (calls : List TraceCall) : List TraceCall :=
  calls.filter fun call => call.event.ofSwitch

/-- `(BLOCK [TIMEOUT] UNBLOCK)*` and at most one open `BLOCK`, whose reason is the first
index.  The reason is the same throughout a group, and `TIMEOUT` stands exactly where the
result of the `UNBLOCK` is a timeout. -/
inductive WaitHistory (id : Nat) : Option Word → List TraceCall → Prop
  | empty : WaitHistory id none []
  | block {records : List TraceCall} (closed : WaitHistory id none records)
      (reason ticks : Word) :
      WaitHistory id (some reason) (records ++ [⟨.taskBlock, id, reason, ticks⟩])
  | signal {records : List TraceCall} {reason : Word}
      (opened : WaitHistory id (some reason) records) :
      WaitHistory id none
        (records ++ [⟨.taskUnblock, id, reason, WaitResult.signaled.code⟩])
  | expire {records : List TraceCall} {reason : Word}
      (opened : WaitHistory id (some reason) records) (deadline : Word) :
      WaitHistory id none (records ++ [⟨.taskTimeout, id, reason, deadline⟩,
        ⟨.taskUnblock, id, reason, WaitResult.timeout.code⟩])

/-- One start, then switches each of which leaves the task that the record before it
dispatched; the first index is the last task dispatched. -/
inductive SwitchChain : Option Nat → List TraceCall → Prop
  | empty : SwitchChain none []
  | start (id : Nat) (count priority : Word) :
      SwitchChain (some id) [⟨.schedulerStart, id, count, priority⟩]
  | switch {source target : Word} {records : List TraceCall}
      (earlier : SwitchChain (some source.toNat) records) :
      SwitchChain (some target.toNat)
        (records ++ [⟨.contextSwitch, target.toNat, source, target⟩])

/-- An open wait is one whose last record is a `BLOCK`. -/
theorem WaitHistory.isSome_iff
    {id : Nat} {opened : Option Word} {records : List TraceCall}
    (history : WaitHistory id opened records) :
    opened.isSome = true ↔ ∃ last, records.getLast? = some last ∧ last.event = .taskBlock := by
  cases history with
  | empty => simp
  | block => simp
  | signal => simp
  | expire => simp [List.getLast?_append]

theorem SwitchChain.eq_nil {records : List TraceCall} (chain : SwitchChain none records) :
    records = [] := by
  cases chain
  rfl

/-- Every switch goes to a task whose wait is closed by the records before it. -/
def SwitchesFree (calls : List TraceCall) : Prop :=
  ∀ position record, calls[position]? = some record → record.event = .contextSwitch →
    WaitHistory record.taskId none (waitRecords record.taskId (calls.take position))

/-- The records that a step adds need a check only if they are switches, and a switch is
added alone. -/
theorem SwitchesFree.append
    {calls more : List TraceCall} (free : SwitchesFree calls)
    (added : ∀ record ∈ more, record.event = .contextSwitch → more = [record] ∧
      WaitHistory record.taskId none (waitRecords record.taskId calls)) :
    SwitchesFree (calls ++ more) := by
  intro position record found switches
  by_cases older : position < calls.length
  · rw [List.getElem?_append_left older] at found
    rw [List.take_append_of_le_length (Nat.le_of_lt older)]
    exact free position record found switches
  · have last := Nat.le_of_not_lt older
    rw [List.getElem?_append_right last] at found
    obtain ⟨alone, closed⟩ := added record (List.mem_of_getElem? found) switches
    rw [alone] at found ⊢
    have first : position = calls.length := by
      have bound := (List.getElem?_eq_some_iff.mp found).1
      rw [List.length_singleton] at bound
      omega
    rw [first, List.take_left]
    exact closed

namespace Replay

variable {waits : Nat → Option Word} {current : Option Nat} {calls : List TraceCall}

theorem waitRecords_append (id : Nat) (calls more : List TraceCall) :
    waitRecords id (calls ++ more) = waitRecords id calls ++ waitRecords id more :=
  List.filter_append ..

theorem switchRecords_append (calls more : List TraceCall) :
    switchRecords (calls ++ more) = switchRecords calls ++ switchRecords more :=
  List.filter_append ..

/-- The wait records of every identifier are groups, of which the last may be open. -/
theorem waitHistory (replay : Replay waits current calls) (id : Nat) :
    WaitHistory id (waits id) (waitRecords id calls) := by
  induction replay with
  | empty => exact .empty
  | create _ _ _ _ inductionHypothesis
  | start _ _ _ _ inductionHypothesis
  | switch _ _ inductionHypothesis =>
      rw [waitRecords_append]
      simpa [waitRecords, TraceEvent.ofWait] using inductionHypothesis
  | @block waits current calls other _ free reason ticks inductionHypothesis =>
      rw [waitRecords_append]
      by_cases own : id = other
      · subst own
        rw [free] at inductionHypothesis
        simpa [waitRecords, TraceEvent.ofWait] using inductionHypothesis.block reason ticks
      · rw [Function.update_of_ne own]
        simpa [waitRecords, Ne.symm own] using inductionHypothesis
  | @signal waits current calls other reason _ waiting inductionHypothesis =>
      rw [waitRecords_append]
      by_cases own : id = other
      · subst own
        rw [waiting] at inductionHypothesis
        simpa [waitRecords, TraceEvent.ofWait] using inductionHypothesis.signal
      · rw [Function.update_of_ne own]
        simpa [waitRecords, Ne.symm own] using inductionHypothesis
  | @expire waits current calls other reason _ waiting deadline inductionHypothesis =>
      rw [waitRecords_append]
      by_cases own : id = other
      · subst own
        rw [waiting] at inductionHypothesis
        simpa [waitRecords, TraceEvent.ofWait] using inductionHypothesis.expire deadline
      · rw [Function.update_of_ne own]
        simpa [waitRecords, Ne.symm own] using inductionHypothesis

/-- The switch records form a chain that ends with the running task. -/
theorem switchChain (replay : Replay waits current calls) :
    SwitchChain current (switchRecords calls) := by
  induction replay with
  | empty => exact .empty
  | start _ id count priority inductionHypothesis =>
      rw [switchRecords_append, inductionHypothesis.eq_nil]
      exact .start id count priority
  | switch _ _ inductionHypothesis =>
      rw [switchRecords_append]
      exact .switch inductionHypothesis
  | create _ _ _ _ inductionHypothesis
  | block _ _ _ _ inductionHypothesis
  | signal _ _ inductionHypothesis
  | expire _ _ _ inductionHypothesis =>
      rw [switchRecords_append]
      simpa [switchRecords, TraceEvent.ofSwitch] using inductionHypothesis

/-- Every record of a switch names a task that does not wait. -/
theorem switchesFree (replay : Replay waits current calls) : SwitchesFree calls := by
  induction replay with
  | empty => exact fun position record found => absurd found (by simp)
  | @switch waits calls source target earlier free inductionHypothesis =>
      refine inductionHypothesis.append fun record listed switches => ?_
      obtain rfl := List.mem_singleton.mp listed
      have closed := earlier.waitHistory target.toNat
      rw [free] at closed
      exact ⟨rfl, closed⟩
  | create _ _ _ _ inductionHypothesis
  | start _ _ _ _ inductionHypothesis
  | block _ _ _ _ inductionHypothesis
  | signal _ _ inductionHypothesis
  | expire _ _ _ inductionHypothesis => exact inductionHypothesis.append (by simp)

end Replay

/-! ## Kernel data that the trace reconstructs -/

/-- The open wait of a control block. -/
def Task.openWait (task : Task) : Option Word :=
  if task.state = .blocked then some task.waitReason.code else none

/-- The open waits by identifier; idle has identifier 0 and never waits. -/
def openWaits (tasks : Nat → Task) : Nat → Option Word
  | 0 => none
  | index + 1 => (tasks index).openWait

/-- The identifier of the current task. -/
def Kernel.currentId (kernel : Kernel) : Option Nat :=
  kernel.currentTask.map fun current => (kernel.taskAt current).id

/-- The records so far reconstruct the waits and the current task. -/
structure Kernel.Traced (kernel : Kernel) : Prop where
  ids : ∀ index, (kernel.tasks index).state ≠ .invalid → (kernel.tasks index).id = index + 1
  idle : kernel.idleTask.id = 0
  replay : Replay (openWaits kernel.tasks) kernel.currentId kernel.trace.calls

theorem openWaits_update (tasks : Nat → Task) (index : Nat) (task : Task) :
    openWaits (Function.update tasks index task) =
      Function.update (openWaits tasks) (index + 1) task.openWait := by
  ext1 id
  cases id with
  | zero => rfl
  | succ other =>
      by_cases own : other = index
      · subst own
        rw [Function.update_self]
        exact congrArg Task.openWait (Function.update_self ..)
      · rw [Function.update_of_ne (mt Nat.succ.inj own)]
        exact congrArg Task.openWait (Function.update_of_ne own ..)

theorem openWaits_congr
    {before after : Nat → Task}
    (same : ∀ index, (after index).openWait = (before index).openWait) :
    openWaits after = openWaits before := by
  ext1 id
  cases id with
  | zero => rfl
  | succ index => exact same index

/-- A control block whose wait stays open or closed keeps its place. -/
theorem openWaits_update_same
    {tasks : Nat → Task} {index : Nat} {task : Task}
    (same : task.openWait = (tasks index).openWait) :
    openWaits (Function.update tasks index task) = openWaits tasks := by
  rw [openWaits_update, same]
  exact Function.update_eq_self (index + 1) (openWaits tasks)

theorem Task.openWait_of_free {task : Task} (free : task.state ≠ .blocked) :
    task.openWait = none :=
  if_neg free

theorem Kernel.Framed.currentId {before after : Kernel} (framed : before.Framed after) :
    after.currentId = before.currentId := by
  unfold Kernel.currentId
  rw [framed.currentTask]
  cases before.currentTask with
  | none => rfl
  | some current =>
      cases current with
      | idle => exact congrArg some (congrArg Task.id framed.idleTask)
      | user index => exact congrArg some (framed.kept index).id

theorem StateMove.invalid_iff {before after : TaskState} (move : StateMove before after) :
    after = .invalid ↔ before = .invalid := by
  rcases move with same | ⟨left, right⟩
  · rw [same]
  · constructor
    · rintro rfl
      rcases right with absurdity | absurdity | absurdity <;> cases absurdity
    · rintro rfl
      rcases left with absurdity | absurdity | absurdity <;> cases absurdity

/-- Steps that keep the slots and the current task need their records checked only. -/
theorem Kernel.Traced.framed
    {before after : Kernel} (traced : before.Traced) (framed : before.Framed after)
    (replay : Replay (openWaits after.tasks) before.currentId after.trace.calls) :
    after.Traced where
  ids index valid := by
    rw [(framed.kept index).id]
    exact traced.ids index (mt (framed.states index).invalid_iff.mpr valid)
  idle := by
    rw [framed.idleTask]
    exact traced.idle
  replay := by
    rw [framed.currentId]
    exact replay

/-! ## Primitive updates -/

/-- The record of a block. -/
theorem schedulerBlockCurrentLocked_calls
    {kernel : Kernel} {current : Nat} {reason : WaitReason} {object : Option ObjectRef}
    {ticks : Word} (present : kernel.currentTask = some (.user current))
    (running : kernel.running = true) (state : (kernel.tasks current).state = .running)
    (accepted : blockAccepted reason object ticks) :
    (schedulerBlockCurrentLocked kernel reason object ticks).1.trace.calls =
      kernel.trace.calls ++ [⟨.taskBlock, (kernel.tasks current).id, reason.code, ticks⟩] := by
  unfold schedulerBlockCurrentLocked
  rw [if_neg accepted, present]
  dsimp only
  rw [if_neg (by simp [running, state]), if_pos ⟨accepted.reason_ne, rfl, rfl⟩]
  rfl

/-- The records of a completed wait. -/
def wakeRecords (task : Task) (result : WaitResult) : List TraceCall :=
  (if result = .timeout then
    [⟨.taskTimeout, task.id, task.waitReason.code, task.waitDeadline⟩] else []) ++
      [⟨.taskUnblock, task.id, task.waitReason.code, result.code⟩]

theorem schedulerUnblockTaskLocked_calls
    {kernel : Kernel} {index : Nat} {result : WaitResult}
    (done : (schedulerUnblockTaskLocked kernel index result).2 = true) :
    (result = .timeout ∨ result = .signaled) ∧
      (schedulerUnblockTaskLocked kernel index result).1.trace.calls =
        kernel.trace.calls ++ wakeRecords (kernel.tasks index) result := by
  by_cases refused : (kernel.tasks index).state ≠ .blocked ∨
      (kernel.tasks index).waitReason = .none ∨ (result ≠ .timeout ∧ result ≠ .signaled)
  · unfold schedulerUnblockTaskLocked at done
    rw [if_pos refused] at done
    cases done
  · have final : result = .timeout ∨ result = .signaled := by
      by_contra neither
      exact refused (Or.inr (Or.inr (not_or.mp neither)))
    refine ⟨final, ?_⟩
    have states : (if kernel.currentTask = some (.user index) then TaskState.running
        else .ready) = .running ∨
        (if kernel.currentTask = some (.user index) then TaskState.running
          else .ready) = .ready := kernel.wakeState_eq index
    simp only [schedulerUnblockTaskLocked, if_neg refused]
    rcases final with rfl | rfl
    · simp only [if_pos, Kernel.record, Task.endWait]
      rw [if_pos ⟨trivial, trivial, trivial, trivial, states⟩]
      simp [wakeRecords, Kernel.setTask]
    · simp only [if_neg (show WaitResult.signaled ≠ .timeout by decide), Task.endWait]
      rw [if_pos ⟨trivial, trivial, trivial, trivial, states⟩]
      simp [wakeRecords, Kernel.record, Kernel.setTask]

/-- A completed wait closes the open wait of its task. -/
theorem Replay.wake
    {waits : Nat → Option Word} {current : Option Nat} {calls : List TraceCall} {task : Task}
    {result : WaitResult} (earlier : Replay waits current calls)
    (waiting : waits task.id = some task.waitReason.code)
    (final : result = .timeout ∨ result = .signaled) :
    Replay (Function.update waits task.id none) current (calls ++ wakeRecords task result) := by
  rcases final with rfl | rfl
  · exact earlier.expire waiting task.waitDeadline
  · exact earlier.signal waiting

theorem Kernel.Update.traced
    {before after : Kernel} (update : before.Update after) (traced : before.Traced) :
    after.Traced := by
  refine traced.framed update.framed ?_
  cases update with
  | blocks reason object ticks =>
      rcases schedulerBlockCurrentLocked_cases before reason object ticks with
        refused | ⟨current, trace, present, running, state, accepted, same⟩
      · rw [refused]
        exact traced.replay
      · have recorded := schedulerBlockCurrentLocked_calls present running state accepted
        have named := traced.ids current (by simp [state])
        rw [recorded, same, named]
        have free : openWaits before.tasks (current + 1) = none :=
          Task.openWait_of_free (by simp [state])
        have blocked := traced.replay.block free reason.code ticks
        change Replay (openWaits (Function.update before.tasks current _)) _ _
        rw [openWaits_update]
        exact blocked
  | unblocks index result =>
      rcases schedulerUnblockTaskLocked_cases before index result with
        refused | ⟨blocked, trace, same⟩
      · rw [refused]
        exact traced.replay
      · obtain ⟨final, recorded⟩ := schedulerUnblockTaskLocked_calls (congrArg Prod.snd same)
        have named := traced.ids index (by simp [blocked])
        have waiting : openWaits before.tasks (before.tasks index).id =
            some (before.tasks index).waitReason.code := by
          rw [named]
          exact if_pos blocked
        have woken := traced.replay.wake waiting final
        rw [recorded, same]
        change Replay (openWaits (Function.update before.tasks index _)) _ _
        rw [openWaits_update, Task.openWait_of_free (before.wakeState_ne_blocked index), ← named]
        exact woken
  | requests =>
      rw [schedulerRequestIfNeededLocked_eq]
      exact traced.replay
  | reprices => exact traced.replay
  | flags index mask result all clearOnExit =>
      change Replay (openWaits (Function.update before.tasks index _)) _ _
      rw [openWaits_update_same]
      · exact traced.replay
      · rfl
  | counts => exact traced.replay
  | stores => exact traced.replay
  | traces trace same =>
      change Replay _ _ trace.calls
      rw [same]
      exact traced.replay

theorem Kernel.Updates.traced
    {before after : Kernel} (updates : before.Updates after) (traced : before.Traced) :
    after.Traced := by
  induction updates with
  | refl => exact traced
  | tail _ update inductionHypothesis => exact update.traced inductionHypothesis

/-! ## PendSV -/

theorem Kernel.setTaskAt_trace (kernel : Kernel) (ref : TaskRef) (task : Task) :
    (kernel.setTaskAt ref task).trace = kernel.trace := by
  cases ref <;> rfl

theorem Kernel.setTaskAt_currentTask (kernel : Kernel) (ref : TaskRef) (task : Task) :
    (kernel.setTaskAt ref task).currentTask = kernel.currentTask := by
  cases ref <;> rfl

theorem Kernel.taskAt_pendSv (kernel : Kernel) (pending : Bool) (ref : TaskRef) :
    { kernel with pendSv := pending }.taskAt ref = kernel.taskAt ref := by
  cases ref <;> rfl

/-- A switch to another task is recorded, and the selected task is current afterwards. -/
theorem SwitchDone.recorded
    {kernel : Kernel} {psp : Word} {current next : TaskRef} {result : Kernel × Word}
    (done : SwitchDone kernel psp current next result) :
    result.1.currentTask = some next ∧
      result.1.trace.calls = kernel.trace.calls ++
        if next = current then [] else [⟨.contextSwitch, (kernel.taskAt next).id,
          BitVec.ofNat 32 (kernel.taskAt current).id,
          BitVec.ofNat 32 (kernel.taskAt next).id⟩] := by
  have stored : (kernel.savedAt current psp).trace = kernel.trace :=
    kernel.setTaskAt_trace current _
  rw [done.kernel]
  by_cases same : next = current
  · rw [if_pos same, if_pos same, stored, List.append_nil, same]
    exact ⟨(kernel.setTaskAt_currentTask current _).trans done.present, rfl⟩
  · rw [if_neg same, if_neg same]
    refine ⟨rfl, ?_⟩
    have demoted : ((kernel.savedAt current psp).demoted current).trace =
        (kernel.savedAt current psp).trace := by
      unfold Kernel.demoted
      split
      · exact Kernel.setTaskAt_trace _ _ _
      · rfl
    have named : ∀ ref, ((kernel.savedAt current psp).taskAt ref).id = (kernel.taskAt ref).id := by
      intro ref
      rw [Kernel.savedAt_taskAt]
    change ((((kernel.savedAt current psp).demoted current).setTaskAt next _).trace.calls ++
      [⟨TraceEvent.contextSwitch, ((kernel.savedAt current psp).taskAt next).id,
        BitVec.ofNat 32 ((kernel.savedAt current psp).taskAt current).id,
        BitVec.ofNat 32 ((kernel.savedAt current psp).taskAt next).id⟩]) = _
    rw [Kernel.setTaskAt_trace, demoted, stored, named, named]

/-- Identifiers fit into the arguments of a record. -/
theorem Kernel.StacksOk.id_toNat
    {cfg : Config} {kernel : Kernel} (stacksOk : kernel.StacksOk cfg)
    (idle : kernel.idleTask.id = 0) {ref : TaskRef}
    (small : ∀ index, ref = .user index → index < kernel.taskCount) :
    (BitVec.ofNat 32 (kernel.taskAt ref).id).toNat = (kernel.taskAt ref).id := by
  rw [BitVec.toNat_ofNat]
  apply Nat.mod_eq_of_lt
  cases ref with
  | idle =>
      change kernel.idleTask.id < _
      rw [idle]
      decide
  | user index =>
      have registered := small index rfl
      have count := stacksOk.count
      have bound := cfg.maxTasks_lt
      change (kernel.tasks index).id < _
      rw [(stacksOk.registered index registered).id]
      omega

/-- The open waits are those of the control blocks, which a switch does not touch. -/
theorem SwitchOutcome.openWaits
    {before after : Kernel} {psp : Word} (outcome : SwitchOutcome before psp after) :
    openWaits after.tasks = openWaits before.tasks := by
  apply openWaits_congr
  intro index
  cases outcome with
  | trapped stopped =>
      obtain ⟨savedSp, same⟩ := stopped.tasks index
      rw [same]
      rfl
  | switched resumed =>
      have states := resumed.blocked_iff index
      have same := resumed.tasks index
      unfold Task.openWait
      simp only [states]
      rw [same]

/-- The scheduler selects idle, or a registered task that does not wait. -/
theorem candidate_awake
    {kernel : Kernel} {next : Option Nat} {index : Nat}
    (selected : IsBest kernel.priorityOf kernel.candidates next)
    (chosen : taskOrIdle next = .user index) :
    index < kernel.taskCount ∧ (kernel.tasks index).state ≠ .blocked := by
  cases next with
  | none => cases chosen
  | some best =>
      obtain rfl := TaskRef.user.inj chosen
      obtain ⟨small, ready | ⟨_, active⟩⟩ := selected.1
      · exact ⟨small, by simp [ready]⟩
      · exact ⟨small, by simp [active]⟩

/-- Such a task has no open wait. -/
theorem Kernel.Traced.free
    {cfg : Config} {kernel : Kernel} (traced : kernel.Traced) (stacksOk : kernel.StacksOk cfg)
    {ref : TaskRef} (awake : ∀ index, ref = .user index →
      index < kernel.taskCount ∧ (kernel.tasks index).state ≠ .blocked) :
    ForgeKernel.openWaits kernel.tasks (kernel.taskAt ref).id = none := by
  cases ref with
  | idle =>
      change ForgeKernel.openWaits kernel.tasks kernel.idleTask.id = none
      rw [traced.idle]
      rfl
  | user index =>
      obtain ⟨small, ready⟩ := awake index rfl
      change ForgeKernel.openWaits kernel.tasks (kernel.tasks index).id = none
      rw [(stacksOk.registered index small).id]
      exact Task.openWait_of_free ready

theorem Kernel.currentId_eq
    {kernel : Kernel} {current : TaskRef} (present : kernel.currentTask = some current) :
    kernel.currentId = some (kernel.taskAt current).id := by
  unfold Kernel.currentId
  rw [present, Option.map_some]

/-- A switch leaves the task that the records so far end with, and goes to a task that does
not wait. -/
theorem Kernel.Traced.pendSv
    {cfg : Config} {kernel : Kernel} (traced : kernel.Traced) (stacksOk : kernel.StacksOk cfg)
    (control : ControlOk kernel) (running : kernel.running = true)
    (live : kernel.halted = none) (psp : Word) : (pendSvHandler kernel psp).Traced := by
  have waits := (pendSvHandler_outcome psp control live).openWaits
  obtain ⟨current, present⟩ := control.started running
  cases valid : schedulerSavedSpValid (kernel.taskAt current) psp with
  | false =>
      obtain ⟨reason, stopped⟩ := pendSvHandler_rejects control running present live valid
      rw [stopped]
      exact ⟨traced.ids, traced.idle, traced.replay⟩
  | true =>
      obtain ⟨next, selected, done⟩ := stacksOk.switches control running present valid
      obtain ⟨handled, _⟩ := done.handler live
      obtain ⟨dispatched, recorded⟩ := done.recorded
      have named : ∀ ref, ((pendSvHandler kernel psp).taskAt ref).id = (kernel.taskAt ref).id := by
        intro ref
        obtain ⟨state, same⟩ := done.taskAt ref
        rw [handled, same]
        cases ref <;> rfl
      have sources : ∀ index, current = .user index → index < kernel.taskCount := by
        rintro index rfl
        exact (control.user index present).1
      have targets : ∀ index, taskOrIdle next = .user index → index < kernel.taskCount ∧
          (kernel.tasks index).state ≠ .blocked := fun _ => candidate_awake selected
      simp only [Kernel.taskAt_pendSv] at recorded
      rw [← handled] at dispatched recorded
      refine ⟨fun index known => ?_, ?_, ?_⟩
      · have moved := ((pendSvHandler_outcome psp control live).states.2 index).invalid_iff
        exact (named (.user index)).trans (traced.ids index (mt moved.mpr known))
      · exact (named .idle).trans traced.idle
      · have reached : (pendSvHandler kernel psp).currentId =
            some (kernel.taskAt (taskOrIdle next)).id := by
          rw [Kernel.currentId_eq dispatched, named]
        have replay := traced.replay
        rw [Kernel.currentId_eq present] at replay
        rw [waits, reached, recorded]
        split
        · rename_i same
          rw [same, List.append_nil]
          exact replay
        · have source := stacksOk.id_toNat traced.idle sources
          have target := stacksOk.id_toNat traced.idle fun index chosen => (targets index chosen).1
          have free := traced.free stacksOk targets
          rw [← source] at replay
          rw [← target] at free
          have switched := replay.switch free
          rw [target] at switched
          exact switched

/-! ## Creation and start -/

/-- A slot that is reserved or published is not current, and waits neither before nor after. -/
theorem Kernel.Traced.writes
    {before after : Kernel} (traced : before.Traced) {index : Nat} {task : Task}
    (tasks : after.tasks = Function.update before.tasks index task)
    (named : task.id = index + 1) (idle : after.idleTask = before.idleTask)
    (current : after.currentTask = before.currentTask)
    (inactive : before.currentTask ≠ some (.user index))
    (free : (before.tasks index).state ≠ .blocked) (awake : task.state ≠ .blocked)
    (replay : Replay (openWaits before.tasks) before.currentId after.trace.calls) :
    after.Traced where
  ids other valid := by
    rw [tasks] at valid ⊢
    by_cases own : other = index
    · rw [own, Function.update_self]
      exact named
    · rw [Function.update_of_ne own] at valid ⊢
      exact traced.ids other valid
  idle := by
    rw [idle]
    exact traced.idle
  replay := by
    have closed : task.openWait = (before.tasks index).openWait := by
      rw [Task.openWait_of_free awake, Task.openWait_of_free free]
    have same : after.currentId = before.currentId := by
      unfold Kernel.currentId
      rw [current]
      cases present : before.currentTask with
      | none => rfl
      | some ref =>
          cases ref with
          | idle => exact congrArg some (congrArg Task.id idle)
          | user other =>
              have different : other ≠ index := by
                rintro rfl
                exact inactive present
              change some (after.tasks other).id = some (before.tasks other).id
              rw [tasks, Function.update_of_ne different]
    rw [tasks, openWaits_update_same closed, same]
    exact replay

theorem Kernel.Traced.preparesIdle
    {kernel : Kernel} (traced : kernel.Traced) (nobody : kernel.currentTask = none)
    (stackMemory : Word → Word) {idle : Task} (named : idle.id = 0) :
    ({ kernel with stackMemory := stackMemory, idleTask := idle } : Kernel).Traced where
  ids := traced.ids
  idle := named
  replay := by
    have replay := traced.replay
    unfold Kernel.currentId at replay ⊢
    rw [nobody] at replay ⊢
    exact replay

theorem Kernel.Traced.startsFirst
    {kernel : Kernel} (traced : kernel.Traced) (nobody : kernel.currentTask = none) :
    (schedulerStartFirst kernel (taskOrIdle (schedulerSelectHighestReady kernel))).Traced := by
  have replay := traced.replay
  unfold Kernel.currentId at replay
  rw [nobody, Option.map_none] at replay
  cases selected : schedulerSelectHighestReady kernel with
  | none => exact ⟨traced.ids, traced.idle, replay.start _ _ _⟩
  | some first =>
      obtain ⟨_, ready⟩ := schedulerSelectHighestReady_some selected
      have named := traced.ids first (by simp [ready])
      refine ⟨fun index valid => ?_, traced.idle, ?_⟩
      · change (Function.update kernel.tasks first _ index).state ≠ _ at valid
        change (Function.update kernel.tasks first _ index).id = _
        by_cases own : index = first
        · rw [own, Function.update_self]
          exact named
        · rw [Function.update_of_ne own] at valid ⊢
          exact traced.ids index valid
      · have reached : (schedulerStartFirst kernel (.user first)).currentId =
            some (kernel.tasks first).id := by
          change some (Function.update kernel.tasks first _ first).id = _
          rw [Function.update_self]
          rfl
        change Replay (openWaits (Function.update kernel.tasks first _))
          (schedulerStartFirst kernel (.user first)).currentId _
        rw [openWaits_update_same, reached]
        · exact replay.start _ _ _
        · have closed : (kernel.tasks first).openWait = none :=
            Task.openWait_of_free (by simp [ready])
          rw [closed]
          rfl

section Steps

variable {cfg : Config} {system : System} {thread : Thread} {point : Point} {result : StepResult}

theorem taskCreateStep_traced
    {outTask : Bool} {config : Option TaskConfig}
    (traced : system.kernel.Traced) (stacksOk : StacksOk cfg system) (core : Core system)
    (inCall : system.frames thread = .inCall (.taskCreate outTask config) point)
    (stepped : taskCreateStep cfg system.kernel system.memory outTask config point =
      some result) :
    result.kernel.Traced := by
  cases taskCreateStep_cases stepped with
  | refuses => exact traced
  | reserves checked reserved =>
      obtain ⟨_, rfl⟩ := taskCreateReserve_some reserved
      obtain ⟨⟨priority, zero⟩, _⟩ := core.unregistered _ (Nat.le_refl _)
      refine traced.writes rfl rfl rfl rfl ?_ ?_ TaskState.noConfusion traced.replay
      · intro present
        exact absurd (core.current_lt present) (Nat.lt_irrefl _)
      · rw [zero]
        exact TaskState.noConfusion
  | @builds _ index =>
      have small := (core.reserved thread index (by rw [inCall]; rfl)).1
      rw [taskCreateBuild_eq (stacksOk.kernel.registered index small).geometry]
      exact ⟨traced.ids, traced.idle, traced.replay⟩
  | @publishes _ index initialSp =>
      obtain ⟨small, created⟩ := core.reserved thread index (by rw [inCall]; rfl)
      have registered := stacksOk.kernel.registered index small
      obtain rfl := stacksOk.built inCall
      rw [taskCreatePublish_eq _ _ (schedulerSavedSpValid_ne_zero
        registered.geometry.initialSp_valid)]
      refine traced.writes rfl registered.id rfl rfl ?_ (by simp [created])
        TaskState.noConfusion (traced.replay.create _ _ _)
      intro present
      rcases (core.control.user index present).2.2 with state | ⟨state, _⟩
      · rw [created] at state
        cases state
      · rw [created] at state
        cases state

/-- The first dispatch is the first record about the running task. -/
theorem schedulerStart_traced
    {cpu : Cpu} {kernel after : Kernel} (traced : kernel.Traced) (stacksOk : kernel.StacksOk cfg)
    (control : ControlOk kernel) (live : kernel.halted = none)
    (started : schedulerStart cfg cpu kernel = some after) : after.Traced := by
  have stopped := schedulerStart_stopped started
  have nobody := (control.stopped stopped).1
  have launched : (schedulerStartFirst (schedulerInitializeIdle cfg kernel)
      (taskOrIdle (schedulerSelectHighestReady (schedulerInitializeIdle cfg kernel)))).Traced := by
    rw [schedulerInitializeIdle_eq]
    exact (traced.preparesIdle nobody _ rfl).startsFirst nobody
  rw [stacksOk.schedulerStart_eq stopped live cpu] at started
  obtain rfl := Option.some.inj started
  split
  · exact ⟨launched.ids, launched.idle, launched.replay⟩
  · exact launched

theorem Call.step_traced
    {call : Call} (traced : system.kernel.Traced) (stacksOk : StacksOk cfg system)
    (core : Core system) (active : system.activeThread = some thread)
    (inCall : system.frames thread = .inCall call point)
    (stepped : call.step cfg system.cpu system.kernel system.memory thread.slot point =
      some result) :
    result.kernel.Traced := by
  cases plain : call.isPlain with
  | true => exact (Call.step_updates plain stepped).traced traced
  | false =>
      cases call with
      | taskCreate => exact taskCreateStep_traced traced stacksOk core inCall stepped
      | taskYield =>
          cases point with
          | entry | svc =>
              simp only [Call.step, taskYieldStep] at stepped
              split at stepped
              · obtain rfl := Option.some.inj stepped
                exact ⟨traced.ids, traced.idle, traced.replay⟩
              · obtain rfl := Option.some.inj stepped
                exact ⟨traced.ids, traced.idle, traced.replay⟩
          | _ => cases stepped
      | schedulerStart =>
          cases point with
          | entry =>
              simp only [Call.step, schedulerStartStep] at stepped
              split at stepped
              · rename_i after started
                obtain rfl := Option.some.inj stepped
                exact schedulerStart_traced traced stacksOk.kernel core.control
                  (core.active_cases active).1 started
              · obtain rfl := Option.some.inj stepped
                exact traced
          | _ => cases stepped
      | _ => cases plain

/-- Every step adds records that the observer accepts. -/
theorem System.step_traced
    {after : System} {action : Action} {events : List Event}
    (traced : system.kernel.Traced) (stacksOk : StacksOk cfg system) (core : Core system)
    (step : system.step cfg action = some (after, events)) : after.kernel.Traced := by
  cases System.stepped step with
  | sysTick =>
      exact (sysTickHandler_updates system.kernel).traced
        ⟨traced.ids, traced.idle, traced.replay⟩
  | pendSv live due =>
      have running := stacksOk.kernel.pending ((Bool.and_eq_true _ _).mp due).1
      exact traced.pendSv stacksOk.kernel core.control running live _
  | invoke => exact traced
  | advance active inCall stepped =>
      exact Call.step_traced traced stacksOk core active inCall stepped
  | user => exact ⟨traced.ids, traced.idle, traced.replay⟩

end Steps

theorem Kernel.Traced.initial : Kernel.reset.Traced where
  ids _ valid := absurd rfl valid
  idle := rfl
  replay := by
    have closed : openWaits Kernel.reset.tasks = fun _ => none := by
      ext1 id
      cases id <;> rfl
    rw [closed]
    exact .empty

theorem Kernel.Traced.of_run
    {cfg : Config} {allowed : System → Action → Prop} {events : List Event} {system : System}
    (run : (forge cfg).Run allowed events system) : system.kernel.Traced := by
  induction run with
  | refl => exact .initial
  | tail earlier _ stepped inductionHypothesis =>
      exact System.step_traced inductionHypothesis (StacksOk.of_run earlier)
        (Core.of_run earlier) stepped

/-- The records passed to `fr_trace_record_locked` are a faithful history: those of a user
task are completed waits and at most one open one, which is open exactly while the task is
blocked; the switches form a chain from the start to the current task, idle being 0; and no
switch goes to a task with an open wait. -/
theorem trace_is_faithful_history
    {cfg : Config} {events : List Event} {system : System}
    (run : Run cfg events system) :
    (∀ index < system.kernel.taskCount,
      let task := system.kernel.tasks index
      let records := waitRecords task.id system.kernel.trace.calls
      WaitHistory task.id task.openWait records ∧
        (task.state = .blocked ↔
          ∃ last, records.getLast? = some last ∧ last.event = .taskBlock)) ∧
    SwitchChain system.kernel.currentId (switchRecords system.kernel.trace.calls) ∧
    system.kernel.idleTask.id = 0 ∧
    ∀ position record, system.kernel.trace.calls[position]? = some record →
      record.event = .contextSwitch →
        WaitHistory record.taskId none
          (waitRecords record.taskId (system.kernel.trace.calls.take position)) := by
  have traced := Kernel.Traced.of_run run
  refine ⟨fun index small => ?_, traced.replay.switchChain, traced.idle,
    traced.replay.switchesFree⟩
  have named := ((StacksOk.of_run run).kernel.registered index small).id
  have history := traced.replay.waitHistory (index + 1)
  dsimp only
  rw [named]
  refine ⟨history, ?_⟩
  rw [← history.isSome_iff]
  change _ ↔ (system.kernel.tasks index).openWait.isSome = true
  unfold Task.openWait
  split
  · rename_i blocked
    simp [blocked]
  · rename_i free
    simp [free]

/-- The second task sleeps until its timeout, and then waits for a semaphore that nobody has
given. -/
def timedOutThenWaiting : List Action :=
  Action.bootProgram [.traceInit, .binarySemaphoreInit (some 0) false] [1, 2] ++
    ([.invoke (.taskSleep 1), .advance, .switchFrom 1, .sysTick, .switchFrom 0, .advance,
       .invoke (.binarySemaphoreTake (some 0) 5), .advance, .advance, .advance, .switchFrom 1] :
      List Action)

theorem timed_out_then_waiting :
    ∃ events system, Run Config.default events system ∧
      (switchRecords system.kernel.trace.calls).map TraceCall.taskId = [2, 1, 2, 1] ∧
      SwitchChain (some 1) (switchRecords system.kernel.trace.calls) ∧
      (waitRecords 2 system.kernel.trace.calls).map TraceCall.event =
        [.taskBlock, .taskTimeout, .taskUnblock, .taskBlock] ∧
      WaitHistory 2 (some WaitReason.sync.code) (waitRecords 2 system.kernel.trace.calls) := by
  obtain ⟨events, system, run, checked⟩ :=
    Machine.RunFrom.exists_of_execFrom (forge Config.default) Machine.anyStep System.boot
      timedOutThenWaiting (fun _ system => decide (1 < system.kernel.taskCount ∧
        system.kernel.currentId = some 1 ∧ (system.kernel.tasks 1).id = 2 ∧
        (system.kernel.tasks 1).openWait = some WaitReason.sync.code ∧
        (switchRecords system.kernel.trace.calls).map TraceCall.taskId = [2, 1, 2, 1] ∧
        (waitRecords 2 system.kernel.trace.calls).map TraceCall.event =
          [.taskBlock, .taskTimeout, .taskUnblock, .taskBlock]))
      (by decide +kernel)
  rw [decide_eq_true_eq] at checked
  obtain ⟨registered, current, named, waiting, switches, waits⟩ := checked
  obtain ⟨histories, chain, _, _⟩ := trace_is_faithful_history run
  have history := (histories 1 registered).1
  rw [current] at chain
  rw [named, waiting] at history
  exact ⟨events, system, run, switches, chain, waits, history⟩

end ForgeKernel
