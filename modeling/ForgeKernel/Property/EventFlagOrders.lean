import ForgeKernel.Property.EventFlagBroadcast

/-!
# Immediate and blocking event-flag waits agree

A task that blocks on event flags and is completed by a later set gets what it would
have got by waiting after the set.  Each order is a run in which the two calls take
given turns, with any steps in between that touch neither the object nor its waiters
nor the waiter's own call.
-/

namespace ForgeKernel

open Machines

/-! ## Waits on one object -/

/-- The same wait, or none. -/
structure SameWait (before after : Task) : Prop where
  blocked : after.state = .blocked ↔ before.state = .blocked
  part : after.waitPart = before.waitPart

theorem SameWait.refl (task : Task) : SameWait task task :=
  ⟨Iff.rfl, rfl⟩

theorem SameWait.trans
    {first second third : Task}
    (left : SameWait first second) (right : SameWait second third) : SameWait first third :=
  ⟨right.blocked.trans left.blocked, right.part.trans left.part⟩

/-- The parked request of a task blocked on an event-flags object. -/
def Task.flagsWait (index : Nat) (task : Task) : Option FlagsRequest :=
  if task.state = .blocked ∧ task.waitReason = .eventFlags ∧
      task.waitObject = some (.eventFlags index) then
    some ⟨task.waitFlagsMask, task.waitFlagsAll, task.waitFlagsClearOnExit⟩
  else none

/-- A request that a set completes at a snapshot. -/
def FlagsRequest.satisfiedBy (snapshot : Word) (request : FlagsRequest) : Bool :=
  decide (request.mask ≠ 0) && eventFlagsConditionMet snapshot request.mask request.waitAll

theorem Task.satisfiedBy_eq
    {task : Task} (pending : task.state = .blocked → task.waitResult = .pending)
    (index : Nat) (snapshot : Word) :
    task.satisfiedBy index snapshot = (task.flagsWait index).any (·.satisfiedBy snapshot) := by
  unfold Task.flagsWait
  split
  · rename_i waits
    have waiting : Task.waitsOn .eventFlags (.eventFlags index) task = true :=
      Task.waitsOn_iff.mpr ⟨waits.1, waits.2.1, pending waits.1, waits.2.2⟩
    simp [Task.satisfiedBy, FlagsRequest.satisfiedBy, waiting]
  · rename_i elsewhere
    have idle : Task.waitsOn .eventFlags (.eventFlags index) task = false := by
      rw [← Bool.not_eq_true, Task.waitsOn_iff]
      exact fun waits => elsewhere ⟨waits.1, waits.2.1, waits.2.2.2⟩
    simp [Task.satisfiedBy, idle]

theorem SameWait.flagsWait
    {before after : Task} (same : SameWait before after) (index : Nat) :
    after.flagsWait index = before.flagsWait index := by
  have part := same.part
  simp only [Task.waitPart, WaitPart.mk.injEq] at part
  obtain ⟨-, object, reason, -, -, mask, -, all, clear⟩ := part
  simp only [Task.flagsWait, same.blocked, object, reason, mask, all, clear]

theorem Task.flagsWait_eq_some
    {index : Nat} {task : Task} {request : FlagsRequest}
    (waits : task.flagsWait index = some request) :
    task.state = .blocked ∧ task.waitFlagsMask = request.mask ∧
      task.waitFlagsClearOnExit = request.clearOnExit := by
  unfold Task.flagsWait at waits
  split at waits
  · rename_i blocked
    obtain rfl := Option.some.inj waits
    exact ⟨blocked.1, rfl, rfl⟩
  · cases waits

theorem Task.flagsWait_of_ne_blocked
    {task : Task} (free : task.state ≠ .blocked) (index : Nat) : task.flagsWait index = none :=
  if_neg fun waits => free waits.1

/-! ## Turns -/

/-- What steps between the turns leave alone: the object, its waiters, and the
waiter's own call once it is entered. -/
structure Bystands (index waiter : Nat) (call : Call) (before after : System) : Prop where
  flags : after.kernel.eventFlags index = before.kernel.eventFlags index
  waits : ∀ task, (after.kernel.tasks task).flagsWait index =
    (before.kernel.tasks task).flagsWait index
  inside : ∀ point, before.frames (.task waiter) = .inCall call point →
    after.frames (.task waiter) = .inCall call point ∧
      SameWait (before.kernel.tasks waiter) (after.kernel.tasks waiter)

section Turns

variable {cfg : Config} {index waiter : Nat} {call : Call}

theorem Bystands.refl (system : System) : Bystands index waiter call system system :=
  ⟨rfl, fun _ => rfl, fun _ inCall => ⟨inCall, .refl _⟩⟩

theorem Bystands.trans
    {first second third : System}
    (left : Bystands index waiter call first second)
    (right : Bystands index waiter call second third) :
    Bystands index waiter call first third where
  flags := right.flags.trans left.flags
  waits task := (right.waits task).trans (left.waits task)
  inside point inCall := by
    obtain ⟨stood, same⟩ := left.inside point inCall
    obtain ⟨stands, still⟩ := right.inside point stood
    exact ⟨stands, same.trans still⟩

/-- A run of steps that leave the object and the waiter alone. -/
def Quietly (cfg : Config) (index waiter : Nat) (call : Call) : System → System → Prop :=
  Relation.ReflTransGen fun before after =>
    ∃ action events, before.step cfg action = some (after, events) ∧
      Bystands index waiter call before after

/-- Quiet runs keep the invariant. -/
theorem Core.quietly
    {before after : System} (core : Core before)
    (quiet : Quietly cfg index waiter call before after) :
    Core after ∧ Bystands index waiter call before after := by
  induction quiet with
  | refl => exact ⟨core, .refl before⟩
  | tail _ step inductionHypothesis =>
      obtain ⟨action, events, stepped, same⟩ := step
      exact ⟨inductionHypothesis.1.step stepped, inductionHypothesis.2.trans same⟩

/-- One step of a kernel call and how it ends. -/
structure Turn where
  thread : Thread
  call : Call
  point : Point
  outcome : Outcome
  deriving DecidableEq, Repr

/-- The system after a turn. -/
def System.taken (system : System) (turn : Turn) (result : StepResult) : System :=
  { system with
    kernel := result.kernel
    memory := result.memory }.setFrame turn.thread (turn.outcome.frame turn.call)

@[simp] theorem System.taken_kernel (system : System) (turn : Turn) (result : StepResult) :
    (system.taken turn result).kernel = result.kernel := rfl

theorem System.taken_self (system : System) (turn : Turn) (result : StepResult) :
    (system.taken turn result).frames turn.thread = turn.outcome.frame turn.call :=
  Function.update_self ..

theorem System.taken_of_ne
    (system : System) (turn : Turn) (result : StepResult) {thread : Thread}
    (other : thread ≠ turn.thread) :
    (system.taken turn result).frames thread = system.frames thread :=
  Function.update_of_ne other ..

/-- Runs that consist of the given turns with quiet steps before each of them. -/
inductive Turns (cfg : Config) (index waiter : Nat) (call : Call) :
    System → List Turn → System → Prop
  | done {start : System} : Turns cfg index waiter call start [] start
  | turn {start before finish : System} {turn : Turn} {turns : List Turn} {result : StepResult}
      (quiet : Quietly cfg index waiter call start before)
      (active : before.activeThread = some turn.thread)
      (inCall : before.frames turn.thread = .inCall turn.call turn.point)
      (stepped : turn.call.step cfg before.cpu before.kernel before.memory turn.thread.slot
        turn.point = some result)
      (ends : result.outcome = turn.outcome)
      (rest : Turns cfg index waiter call (before.taken turn result) turns finish) :
      Turns cfg index waiter call start (turn :: turns) finish

/-- The first of several turns. -/
structure FirstTurn
    (cfg : Config) (index waiter : Nat) (call : Call) (start : System) (turn : Turn)
    (turns : List Turn) (finish before : System) (result : StepResult) : Prop where
  bystands : Bystands index waiter call start before
  core : Core before
  active : before.activeThread = some turn.thread
  inCall : before.frames turn.thread = .inCall turn.call turn.point
  stepped : turn.call.step cfg before.cpu before.kernel before.memory turn.thread.slot
    turn.point = some result
  ends : result.outcome = turn.outcome
  taken : Core (before.taken turn result)
  rest : Turns cfg index waiter call (before.taken turn result) turns finish

theorem Core.firstTurn
    {start finish : System} {turn : Turn} {turns : List Turn}
    (core : Core start) (run : Turns cfg index waiter call start (turn :: turns) finish) :
    ∃ before result,
      FirstTurn cfg index waiter call start turn turns finish before result := by
  cases run with
  | @turn _ before _ _ _ result quiet active inCall stepped ends rest =>
      obtain ⟨reached, same⟩ := core.quietly quiet
      have taken := reached.advance active inCall stepped
      rw [ends] at taken
      exact ⟨before, result, same, reached, active, inCall, stepped, ends, taken, rest⟩

theorem Core.turns
    {start finish : System} {turns : List Turn}
    (core : Core start) (run : Turns cfg index waiter call start turns finish) :
    Core finish := by
  induction run with
  | done => exact core
  | turn quiet active inCall stepped ends _ inductionHypothesis =>
      apply inductionHypothesis
      have taken := (core.quietly quiet).1.advance active inCall stepped
      rw [ends] at taken
      exact taken

theorem Turns.finished
    {start finish : System} (run : Turns cfg index waiter call start [] finish) :
    finish = start := by
  cases run with
  | done => rfl

/-- The waiter stands where its last turn left it until its next one. -/
theorem FirstTurn.resumes
    {start finish before : System} {turn : Turn} {turns : List Turn}
    {result : StepResult} {point : Point}
    (first : FirstTurn cfg index waiter call start turn turns finish before result)
    (own : turn.thread = .task waiter)
    (stood : start.frames (.task waiter) = .inCall call point) :
    turn.call = call ∧ turn.point = point ∧
      SameWait (start.kernel.tasks waiter) (before.kernel.tasks waiter) := by
  obtain ⟨stands, same⟩ := first.bystands.inside point stood
  rw [← own, first.inCall] at stands
  obtain ⟨sameCall, samePoint⟩ := Frame.inCall.inj stands
  exact ⟨sameCall, samePoint, same⟩

end Turns

/-! ## The steps of the two calls -/

section Steps

variable {cfg : Config} {system : System} {index : Nat} {request : FlagsRequest}
  {ticks : Word} {matchedBits : Bool} {result : StepResult}

/-- The entry of a wait changes nothing. -/
theorem eventFlagsWait_arms
    {self : Nat} {timeout : WaitTimeout}
    (stepped : (Call.eventFlagsWait (some index) request ticks matchedBits).step cfg system.cpu
      system.kernel system.memory self .entry = some result)
    (ends : result.outcome = .goto (.armed timeout)) :
    result.kernel = system.kernel ∧ request.mask ≠ 0 := by
  cases eventFlagsWaitStep_cases stepped with
  | refuses => cases ends
  | arms asked => exact ⟨rfl, asked⟩

/-- A wait that blocks parks its request and does nothing else. -/
theorem Core.eventFlagsWait_blocks
    {self : Nat} {timeout : WaitTimeout}
    (core : Core system) (active : system.activeThread = some (.task self))
    (stepped : (Call.eventFlagsWait (some index) request ticks matchedBits).step cfg system.cpu
      system.kernel system.memory self (.armed timeout) = some result)
    (ends : result.outcome = .goto (.suspended timeout)) :
    result.kernel.eventFlags = system.kernel.eventFlags ∧
      (result.kernel.tasks self).flagsWait index = some request ∧
      ∀ task, task ≠ self → result.kernel.tasks task = system.kernel.tasks task := by
  cases eventFlagsWaitStep_cases stepped with
  | returns => cases ends
  | @waits _ after outcome =>
      cases outcome with
      | @waits current remaining trace runs unmet _ accepted =>
          obtain rfl : current = self := by
            have same := (core.active_current active).currentTask
            rw [runs.currentTask] at same
            simpa using same
          refine ⟨rfl, ?_, ?_⟩
          · simp [StepResult.goto, Kernel.blockTask, Kernel.setTask, Task.flagsWait,
              Task.beginWait, Task.withRequest]
          · intro task other
            simp [StepResult.goto, Kernel.blockTask, Kernel.setTask,
              Function.update_of_ne other]

/-- A set that succeeds is a broadcast. -/
theorem Core.eventFlagsSet_completes
    {self : Nat} {bits : Word}
    (core : Core system)
    (stepped : (Call.eventFlagsSet (some index) bits).step cfg system.cpu system.kernel
      system.memory self .entry = some result)
    (ends : result.outcome = .reply (.bool true)) :
    let snapshot := (system.kernel.eventFlags index).bits ||| bits
    (system.kernel.eventFlags index).magic = eventFlagsMagic ∧ system.kernel.running = true ∧
    (∀ task, result.kernel.tasks task =
      if ((system.kernel.tasks task).flagsWait index).any (·.satisfiedBy snapshot) then
        system.kernel.completedAt snapshot task
      else system.kernel.tasks task) ∧
    ∃ completed : Finset Nat,
      (∀ task, task ∈ completed ↔
        ((system.kernel.tasks task).flagsWait index).any (·.satisfiedBy snapshot) = true) ∧
      result.kernel.eventFlags = Function.update system.kernel.eventFlags index
        { system.kernel.eventFlags index with
          bits := snapshot &&& ~~~system.kernel.clearUnion completed } := by
  intro snapshot
  obtain rfl := Option.some.inj stepped
  have succeeds : (eventFlagsSet system.cpu system.kernel index bits).2 = true := by
    simpa [StepResult.reply] using ends
  have entered :
      ¬(bits = 0 ∨ eventFlagsEntryAllowed system.cpu system.kernel index = false) := by
    intro refused
    rw [eventFlagsSet, if_pos refused] at succeeds
    exact absurd succeeds Bool.false_ne_true
  have allowed : eventFlagsEntryAllowed system.cpu system.kernel index = true := by
    rw [not_or, Bool.not_eq_false] at entered
    exact entered.2
  have magic : (system.kernel.eventFlags index).magic = eventFlagsMagic := by
    simp only [eventFlagsEntryAllowed, Bool.and_eq_true, decide_eq_true_eq] at allowed
    exact allowed.1.1.2
  have satisfied : ∀ task,
      (task < system.kernel.taskCount ∧
        (system.kernel.tasks task).satisfiedBy index snapshot = true) ↔
      ((system.kernel.tasks task).flagsWait index).any (·.satisfiedBy snapshot) = true := by
    intro task
    rw [← Task.satisfiedBy_eq (core.slots task).pending]
    refine ⟨fun both => both.2, fun met => ⟨?_, met⟩⟩
    simp only [Task.satisfiedBy, Bool.and_eq_true, Task.waitsOn_iff] at met
    exact core.registered_of_blocked met.1.1.1
  obtain ⟨tasks, flags⟩ := eventFlagsSetOver_eq (List.Perm.refl _) entered
    (show eventFlagsSet system.cpu system.kernel index bits =
      ((eventFlagsSet system.cpu system.kernel index bits).1, true) by rw [← succeeds])
  refine ⟨magic, eventFlagsEntryAllowed_running allowed, ?_, _, ?_, flags⟩
  · intro task
    refine (tasks task).trans ?_
    by_cases met : ((system.kernel.tasks task).flagsWait index).any (·.satisfiedBy snapshot) = true
    · rw [if_pos met]
      exact if_pos ((satisfied task).mpr met)
    · rw [if_neg met]
      exact if_neg fun chosen => met ((satisfied task).mp chosen)
  · intro task
    rw [Finset.mem_filter, Finset.mem_range]
    exact satisfied task

/-- A resumed waiter that was signaled goes on to its delivery, which changes nothing. -/
theorem eventFlagsWait_resumes
    {self : Nat} {timeout : WaitTimeout}
    (stepped : (Call.eventFlagsWait (some index) request ticks matchedBits).step cfg system.cpu
      system.kernel system.memory self (.suspended timeout) = some result)
    (signaled : (system.kernel.tasks self).waitResult = .signaled) :
    result.outcome = .goto (.signaled timeout) ∧ result.kernel = system.kernel := by
  cases eventFlagsWaitStep_cases stepped with
  | expires unsignaled => exact absurd signaled unsignaled
  | resumes => exact ⟨rfl, rfl⟩

theorem eventFlagsWait_delivers
    {self : Nat} {timeout : WaitTimeout}
    (stepped : (Call.eventFlagsWait (some index) request ticks matchedBits).step cfg system.cpu
      system.kernel system.memory self (.signaled timeout) = some result) :
    result.outcome = .reply (reportMatched true matchedBits
        (system.kernel.tasks self).waitFlagsResult) ∧
      result.kernel = system.kernel := by
  cases eventFlagsWaitStep_cases stepped with
  | delivers => exact ⟨rfl, rfl⟩

/-- A wait whose condition holds returns at once. -/
theorem Core.eventFlagsWait_returns
    {self : Nat} {timeout : WaitTimeout}
    (core : Core system) (active : system.activeThread = some (.task self))
    (inCall : system.frames (.task self) =
      .inCall (.eventFlagsWait (some index) request ticks matchedBits) (.armed timeout))
    (magic : (system.kernel.eventFlags index).magic = eventFlagsMagic)
    (met : eventFlagsConditionMet (system.kernel.eventFlags index).bits request.mask
      request.waitAll = true)
    (stepped : (Call.eventFlagsWait (some index) request ticks matchedBits).step cfg system.cpu
      system.kernel system.memory self (.armed timeout) = some result) :
    result.outcome = .reply (reportMatched true matchedBits
        ((system.kernel.eventFlags index).bits &&& request.mask)) ∧
      result.kernel.tasks = system.kernel.tasks ∧
      (result.kernel.eventFlags index).bits =
        if request.clearOnExit then
          (system.kernel.eventFlags index).bits &&& ~~~request.mask
        else (system.kernel.eventFlags index).bits := by
  have runs := core.active_current active
  have unmasked := core.unmasked self _ _ runs.currentTask inCall rfl
  have basepri : system.cpu.basepri = 0 := by
    simp only [Cpu.pendSvMasked, Bool.or_eq_false_iff, decide_eq_false_iff_not,
      not_not] at unmasked
    exact unmasked.2
  have current : schedulerCurrentTask system.kernel = some self :=
    schedulerCurrentTask_eq_some.mpr runs.currentTask
  have entered : ¬(system.cpu.basepri ≠ 0 ∨
      (system.kernel.eventFlags index).magic ≠ eventFlagsMagic ∨
      system.kernel.running = false) := by
    simp [basepri, magic, runs.running]
  have section_eq : eventFlagsWaitSection system.cpu system.kernel index request timeout =
      (if request.clearOnExit then
          system.kernel.setEventFlags index { system.kernel.eventFlags index with
            bits := (system.kernel.eventFlags index).bits &&& ~~~request.mask }
        else system.kernel,
        .returned (true, (system.kernel.eventFlags index).bits &&& request.mask)) := by
    simp only [eventFlagsWaitSection, current, if_neg entered, met, if_true]
  obtain rfl := Option.some.inj stepped
  simp only [section_eq]
  refine ⟨rfl, ?_, ?_⟩
  · simp only [StepResult.reply]
    split <;> rfl
  · simp only [StepResult.reply]
    split
    · exact Kernel.setEventFlags_bits ..
    · rfl

end Steps

/-! ## The two orders -/

/-- The other waiters of an object, judged by a snapshot. -/
structure Judged (index waiter : Nat) (snapshot : Word) (start set : System) : Prop where
  woken : ∀ task other, task ≠ waiter →
    (start.kernel.tasks task).flagsWait index = some other →
    other.satisfiedBy snapshot = true →
      (set.kernel.tasks task).state ≠ .blocked ∧
      (set.kernel.tasks task).waitResult = .signaled ∧
      (set.kernel.tasks task).waitFlagsResult = snapshot &&& other.mask
  waiting : ∀ task other, task ≠ waiter →
    (start.kernel.tasks task).flagsWait index = some other →
    other.satisfiedBy snapshot = false →
      (set.kernel.tasks task).flagsWait index = some other

/-- Clearing no bit. -/
theorem Word.and_not_zero (word : Word) : word &&& ~~~0 = word := by
  change word &&& ~~~0#32 = word
  rw [BitVec.not_zero, BitVec.and_allOnes]

/-- Only the waiter itself may clear. -/
theorem Kernel.clearUnion_eq
    (kernel : Kernel) {completed : Finset Nat} (waiter : Nat)
    (plain : ∀ task ∈ completed, task ≠ waiter →
      (kernel.tasks task).waitFlagsClearOnExit = false) :
    kernel.clearUnion completed =
      if waiter ∈ completed ∧ (kernel.tasks waiter).waitFlagsClearOnExit = true then
        (kernel.tasks waiter).waitFlagsMask
      else 0 := by
  unfold Kernel.clearUnion
  split
  · rename_i clears
    have only : completed.filter (fun task =>
        (kernel.tasks task).waitFlagsClearOnExit = true) = {waiter} := by
      ext task
      rw [Finset.mem_filter, Finset.mem_singleton]
      constructor
      · rintro ⟨member, clear⟩
        by_contra other
        rw [plain task member other] at clear
        exact Bool.false_ne_true clear
      · rintro rfl
        exact clears
    rw [only, Finset.fold_singleton]
    exact BitVec.or_zero
  · rename_i keeps
    have nobody : completed.filter (fun task =>
        (kernel.tasks task).waitFlagsClearOnExit = true) = ∅ := by
      ext task
      simp only [Finset.mem_filter, Finset.notMem_empty, iff_false, not_and]
      intro member clear
      by_cases own : task = waiter
      · exact keeps ⟨own ▸ member, own ▸ clear⟩
      · rw [plain task member own] at clear
        exact Bool.false_ne_true clear
    rw [nobody, Finset.fold_empty]

section Orders

variable {cfg : Config} {index waiter setter : Nat} {request : FlagsRequest} {ticks bits : Word}
  {matchedBits : Bool} {timeout : WaitTimeout} {start set finish : System}

/-- No satisfied waiter but `waiter` asked for clear-on-exit. -/
def PlainOthers (index waiter : Nat) (snapshot : Word) (system : System) : Prop :=
  ∀ task other, task ≠ waiter → (system.kernel.tasks task).flagsWait index = some other →
    other.satisfiedBy snapshot = true → other.clearOnExit = false

theorem PlainOthers.of_completed
    {snapshot : Word} {completed : Finset Nat} (plain : PlainOthers index waiter snapshot start)
    (member : ∀ task, task ∈ completed ↔
      ((start.kernel.tasks task).flagsWait index).any (·.satisfiedBy snapshot) = true) :
    ∀ task ∈ completed, task ≠ waiter →
      (start.kernel.tasks task).waitFlagsClearOnExit = false := by
  intro task chosen other
  rw [member] at chosen
  cases asks : (start.kernel.tasks task).flagsWait index with
  | none =>
      rw [asks] at chosen
      exact absurd chosen Bool.false_ne_true
  | some parked =>
      rw [asks] at chosen
      rw [(Task.flagsWait_eq_some asks).2.2]
      exact plain task parked other asks chosen

/-- The other waiters after a set. -/
theorem Judged.of_set
    {before : System} {snapshot : Word}
    (waits : ∀ task, task ≠ waiter → (before.kernel.tasks task).flagsWait index =
      (start.kernel.tasks task).flagsWait index)
    (tasks : ∀ task, set.kernel.tasks task =
      if ((before.kernel.tasks task).flagsWait index).any (·.satisfiedBy snapshot) then
        before.kernel.completedAt snapshot task
      else before.kernel.tasks task) :
    Judged index waiter snapshot start set where
  woken task other different asked satisfied := by
    have parked := (waits task different).trans asked
    obtain ⟨-, mask, -⟩ := Task.flagsWait_eq_some parked
    rw [tasks, if_pos (by rw [parked]; exact satisfied)]
    refine ⟨Kernel.wakeState_ne_blocked _ _, rfl, ?_⟩
    rw [← mask]
    rfl
  waiting task other different asked unsatisfied := by
    have parked := (waits task different).trans asked
    rw [tasks, if_neg (by rw [parked]; simp [unsatisfied])]
    exact parked

/-- The wait blocks and another task sets. -/
theorem Core.waits_then_set
    (core : Core start)
    (run : Turns cfg index waiter (.eventFlagsWait (some index) request ticks matchedBits) start
      [⟨.task waiter, .eventFlagsWait (some index) request ticks matchedBits, .entry,
          .goto (.armed timeout)⟩,
        ⟨.task waiter, .eventFlagsWait (some index) request ticks matchedBits, .armed timeout,
          .goto (.suspended timeout)⟩,
        ⟨.task setter, .eventFlagsSet (some index) bits, .entry, .reply (.bool true)⟩] set)
    {snapshot : Word} (snapshotIs : snapshot = (start.kernel.eventFlags index).bits ||| bits)
    (met : eventFlagsConditionMet snapshot request.mask request.waitAll = true)
    (plain : PlainOthers index waiter snapshot start) :
    Core set ∧ Judged index waiter snapshot start set ∧
      set.frames (.task waiter) = .inCall
        (.eventFlagsWait (some index) request ticks matchedBits) (.suspended timeout) ∧
      (set.kernel.tasks waiter).waitResult = .signaled ∧
      (set.kernel.tasks waiter).waitFlagsResult = snapshot &&& request.mask ∧
      (set.kernel.eventFlags index).bits =
        if request.clearOnExit then snapshot &&& ~~~request.mask else snapshot := by
  obtain ⟨entered, armed, entry⟩ := core.firstTurn run
  obtain ⟨sameKernel, asked⟩ := eventFlagsWait_arms entry.stepped entry.ends
  obtain ⟨blocking, blocked, blocks⟩ := entry.taken.firstTurn entry.rest
  obtain ⟨blockFlags, parked, blockOthers⟩ :=
    blocks.core.eventFlagsWait_blocks blocks.active blocks.stepped blocks.ends
  obtain ⟨setting, result, sets⟩ := blocks.taken.firstTurn blocks.rest
  obtain ⟨-, -, tasks, completed, member, setFlags⟩ :=
    sets.core.eventFlagsSet_completes sets.stepped sets.ends
  have settled := sets.rest.finished
  -- The object and the other waiters are the same when the set begins.
  have flags : setting.kernel.eventFlags index = start.kernel.eventFlags index := by
    rw [sets.bystands.flags, System.taken_kernel, blockFlags, blocks.bystands.flags,
      System.taken_kernel, sameKernel, entry.bystands.flags]
  have waits : ∀ task, task ≠ waiter → (setting.kernel.tasks task).flagsWait index =
      (start.kernel.tasks task).flagsWait index := by
    intro task different
    rw [sets.bystands.waits, System.taken_kernel, blockOthers task different,
      blocks.bystands.waits, System.taken_kernel, sameKernel, entry.bystands.waits]
  rw [flags, ← snapshotIs] at tasks member setFlags
  have own : (setting.kernel.tasks waiter).flagsWait index = some request := by
    rw [sets.bystands.waits, System.taken_kernel, parked]
  have satisfied : request.satisfiedBy snapshot = true := by
    rw [FlagsRequest.satisfiedBy, met, Bool.and_true, decide_eq_true_eq]
    exact asked
  obtain ⟨-, mask, clears⟩ := Task.flagsWait_eq_some own
  have woken : result.kernel.tasks waiter = setting.kernel.completedAt snapshot waiter := by
    rw [tasks, if_pos (by rw [own]; exact satisfied)]
  have plainSetting : PlainOthers index waiter snapshot setting := by
    intro task other different asks
    exact plain task other different ((waits task different).symm.trans asks)
  have stood := (sets.bystands.inside _ (System.taken_self blocking _ blocked)).1
  have different : waiter ≠ setter := by
    rintro rfl
    rw [sets.inCall] at stood
    cases stood
  subst settled
  refine ⟨sets.taken, Judged.of_set waits tasks, ?_, ?_, ?_, ?_⟩
  · rw [System.taken_of_ne _ _ _ (by simpa using different)]
    exact stood
  · rw [System.taken_kernel, woken]
    rfl
  · rw [System.taken_kernel, woken, ← mask]
    rfl
  · have union : setting.kernel.clearUnion completed =
        if request.clearOnExit then request.mask else 0 := by
      have present : waiter ∈ completed := by
        rw [member, own]
        exact satisfied
      rw [setting.kernel.clearUnion_eq waiter (plainSetting.of_completed member)]
      simp only [present, true_and, clears, mask]
    rw [System.taken_kernel, setFlags, Function.update_self, union]
    split
    · rfl
    · exact Word.and_not_zero snapshot

/-- A signaled waiter takes two turns to return, and changes nothing. -/
theorem Core.signaled_waiter_returns
    {resumeCall returnCall : Call} {resumePoint returnPoint : Point}
    {resumeOutcome returnOutcome : Outcome}
    (core : Core set)
    (run : Turns cfg index waiter (.eventFlagsWait (some index) request ticks matchedBits) set
      [⟨.task waiter, resumeCall, resumePoint, resumeOutcome⟩,
        ⟨.task waiter, returnCall, returnPoint, returnOutcome⟩] finish)
    (stood : set.frames (.task waiter) = .inCall
      (.eventFlagsWait (some index) request ticks matchedBits) (.suspended timeout))
    (signaled : (set.kernel.tasks waiter).waitResult = .signaled) :
    returnOutcome = .reply (reportMatched true matchedBits
        (set.kernel.tasks waiter).waitFlagsResult) ∧
      finish.kernel.eventFlags index = set.kernel.eventFlags index := by
  obtain ⟨resuming, resumed, resumes⟩ := core.firstTurn run
  obtain ⟨rfl, rfl, resumeWait⟩ := resumes.resumes rfl stood
  have resumePart := resumeWait.part
  simp only [Task.waitPart, WaitPart.mk.injEq] at resumePart
  obtain ⟨toSignaled, resumeKernel⟩ := eventFlagsWait_resumes resumes.stepped
    (resumePart.2.2.2.1.trans signaled)
  rw [resumes.ends] at toSignaled
  subst toSignaled
  obtain ⟨delivering, delivered, delivers⟩ := resumes.taken.firstTurn resumes.rest
  obtain ⟨rfl, rfl, deliverWait⟩ :=
    delivers.resumes rfl (System.taken_self resuming _ resumed)
  have deliverPart := deliverWait.part
  simp only [System.taken_kernel, resumeKernel, Task.waitPart, WaitPart.mk.injEq] at deliverPart
  obtain ⟨reply, deliverKernel⟩ := eventFlagsWait_delivers delivers.stepped
  have settled := delivers.rest.finished
  subst settled
  refine ⟨?_, ?_⟩
  · refine delivers.ends.symm.trans (reply.trans ?_)
    change Outcome.reply (reportMatched true matchedBits
      (delivering.kernel.tasks waiter).waitFlagsResult) = _
    rw [deliverPart.2.2.2.2.2.2.1, resumePart.2.2.2.2.2.2.1]
  · rw [System.taken_kernel, deliverKernel, delivers.bystands.flags, System.taken_kernel,
      resumeKernel, resumes.bystands.flags]

/-- A set while the waiter is not waiting clears nothing. -/
theorem Core.sets_plainly
    {call : Call}
    (core : Core start)
    (run : Turns cfg index waiter call start
      [⟨.task setter, .eventFlagsSet (some index) bits, .entry, .reply (.bool true)⟩] set)
    {snapshot : Word} (snapshotIs : snapshot = (start.kernel.eventFlags index).bits ||| bits)
    (absent : (start.kernel.tasks waiter).flagsWait index = none)
    (plain : PlainOthers index waiter snapshot start) :
    Core set ∧ Judged index waiter snapshot start set ∧
      set.kernel.eventFlags index = ⟨eventFlagsMagic, snapshot⟩ := by
  obtain ⟨setting, result, sets⟩ := core.firstTurn run
  obtain ⟨magic, -, tasks, completed, member, setFlags⟩ :=
    sets.core.eventFlagsSet_completes sets.stepped sets.ends
  have settled := sets.rest.finished
  subst settled
  rw [sets.bystands.flags, ← snapshotIs] at tasks member setFlags
  rw [sets.bystands.flags] at magic
  have plainSetting : PlainOthers index waiter snapshot setting := by
    intro task other different asks
    exact plain task other different ((sets.bystands.waits task).symm.trans asks)
  have union : setting.kernel.clearUnion completed = 0 := by
    have outside : waiter ∉ completed := by
      rw [member, sets.bystands.waits, absent]
      exact Bool.false_ne_true
    rw [setting.kernel.clearUnion_eq waiter (plainSetting.of_completed member),
      if_neg (fun both => outside both.1)]
  refine ⟨sets.taken, Judged.of_set (fun task _ => sets.bystands.waits task) tasks, ?_⟩
  rw [System.taken_kernel, setFlags, Function.update_self, union, Word.and_not_zero]
  exact congrArg (fun magic => EventFlags.mk magic snapshot) magic

/-- A wait that finds its condition satisfied returns from its critical section. -/
theorem Core.satisfied_waiter_returns
    {outcome : Outcome} {snapshot : Word}
    (core : Core set)
    (run : Turns cfg index waiter (.eventFlagsWait (some index) request ticks matchedBits) set
      [⟨.task waiter, .eventFlagsWait (some index) request ticks matchedBits, .entry,
          .goto (.armed timeout)⟩,
        ⟨.task waiter, .eventFlagsWait (some index) request ticks matchedBits, .armed timeout,
          outcome⟩] finish)
    (flags : set.kernel.eventFlags index = ⟨eventFlagsMagic, snapshot⟩)
    (met : eventFlagsConditionMet snapshot request.mask request.waitAll = true) :
    outcome = .reply (reportMatched true matchedBits (snapshot &&& request.mask)) ∧
      (finish.kernel.eventFlags index).bits =
        if request.clearOnExit then snapshot &&& ~~~request.mask else snapshot := by
  obtain ⟨entered, armed, entry⟩ := core.firstTurn run
  obtain ⟨sameKernel, -⟩ := eventFlagsWait_arms entry.stepped entry.ends
  obtain ⟨waiting, waited, waits⟩ := entry.taken.firstTurn entry.rest
  have settled := waits.rest.finished
  subst settled
  have found : waiting.kernel.eventFlags index = ⟨eventFlagsMagic, snapshot⟩ := by
    rw [waits.bystands.flags, System.taken_kernel, sameKernel, entry.bystands.flags, flags]
  obtain ⟨reply, -, left⟩ := waits.core.eventFlagsWait_returns waits.active waits.inCall
    (by rw [found]) (by rw [found]; exact met) waits.stepped
  rw [found] at reply left
  exact ⟨waits.ends.symm.trans reply, left⟩

end Orders

/-- Waiting (which blocks) and then setting by another task, or setting first and then
waiting (which returns at once), gives the waiter the same return value and matched bits,
wakes the same other waiters with the same results and leaves the same bits, provided no
other satisfied waiter asked for clear-on-exit. -/
theorem event_flag_wait_orders_agree
    {cfg : Config} {index waiter setter : Nat} {request : FlagsRequest} {ticks bits : Word}
    {matchedBits : Bool} {firstTimeout secondTimeout : WaitTimeout}
    {resumeCall returnCall : Call} {resumePoint returnPoint : Point}
    {resumeOutcome returnOutcome outcome : Outcome}
    {first firstSet firstEnd second secondSet secondEnd : System}
    {firstEvents secondEvents : List Event}
    (firstRun : Run cfg firstEvents first)
    (secondRun : Run cfg secondEvents second)
    (blocks : Turns cfg index waiter (.eventFlagsWait (some index) request ticks matchedBits) first
      [⟨.task waiter, .eventFlagsWait (some index) request ticks matchedBits, .entry,
          .goto (.armed firstTimeout)⟩,
        ⟨.task waiter, .eventFlagsWait (some index) request ticks matchedBits,
          .armed firstTimeout, .goto (.suspended firstTimeout)⟩,
        ⟨.task setter, .eventFlagsSet (some index) bits, .entry, .reply (.bool true)⟩] firstSet)
    (resumes : Turns cfg index waiter (.eventFlagsWait (some index) request ticks matchedBits)
      firstSet
      [⟨.task waiter, resumeCall, resumePoint, resumeOutcome⟩,
        ⟨.task waiter, returnCall, returnPoint, returnOutcome⟩] firstEnd)
    (sets : Turns cfg index waiter (.eventFlagsWait (some index) request ticks matchedBits) second
      [⟨.task setter, .eventFlagsSet (some index) bits, .entry, .reply (.bool true)⟩] secondSet)
    (waits : Turns cfg index waiter (.eventFlagsWait (some index) request ticks matchedBits)
      secondSet
      [⟨.task waiter, .eventFlagsWait (some index) request ticks matchedBits, .entry,
          .goto (.armed secondTimeout)⟩,
        ⟨.task waiter, .eventFlagsWait (some index) request ticks matchedBits,
          .armed secondTimeout, outcome⟩] secondEnd)
    (absent : (second.kernel.tasks waiter).flagsWait index = none)
    (sameBits : (second.kernel.eventFlags index).bits = (first.kernel.eventFlags index).bits)
    (sameWaiters : ∀ task, task ≠ waiter → (second.kernel.tasks task).flagsWait index =
      (first.kernel.tasks task).flagsWait index)
    (met : eventFlagsConditionMet ((first.kernel.eventFlags index).bits ||| bits) request.mask
      request.waitAll = true)
    (plain : PlainOthers index waiter ((first.kernel.eventFlags index).bits ||| bits) first) :
    returnOutcome = outcome ∧
    outcome = .reply (reportMatched true matchedBits
      (((first.kernel.eventFlags index).bits ||| bits) &&& request.mask)) ∧
    (∀ task other, task ≠ waiter → (first.kernel.tasks task).flagsWait index = some other →
      ((firstSet.kernel.tasks task).state = .blocked ↔
        (secondSet.kernel.tasks task).state = .blocked) ∧
      ((firstSet.kernel.tasks task).state ≠ .blocked →
        (firstSet.kernel.tasks task).waitResult = .signaled ∧
        (secondSet.kernel.tasks task).waitResult = .signaled ∧
        (firstSet.kernel.tasks task).waitFlagsResult =
          (secondSet.kernel.tasks task).waitFlagsResult)) ∧
    (firstEnd.kernel.eventFlags index).bits = (secondEnd.kernel.eventFlags index).bits := by
  have plainSecond :
      PlainOthers index waiter ((first.kernel.eventFlags index).bits ||| bits) second := by
    intro task other different asks
    exact plain task other different ((sameWaiters task different).symm.trans asks)
  obtain ⟨firstCore, firstJudged, stood, signaled, result, firstBits⟩ :=
    (Core.of_run firstRun).waits_then_set blocks rfl met plain
  obtain ⟨firstReply, firstFlags⟩ := firstCore.signaled_waiter_returns resumes stood signaled
  obtain ⟨secondCore, secondJudged, secondFlags⟩ :=
    (Core.of_run secondRun).sets_plainly sets (by rw [sameBits]) absent plainSecond
  obtain ⟨secondReply, secondBits⟩ := secondCore.satisfied_waiter_returns waits secondFlags met
  refine ⟨?_, secondReply, ?_, ?_⟩
  · rw [firstReply, secondReply, result]
  · intro task other different asks
    have asksSecond := (sameWaiters task different).trans asks
    cases judged : other.satisfiedBy ((first.kernel.eventFlags index).bits ||| bits) with
    | true =>
        obtain ⟨firstFree, firstSignaled, firstResult⟩ :=
          firstJudged.woken task other different asks judged
        obtain ⟨secondFree, secondSignaled, secondResult⟩ :=
          secondJudged.woken task other different asksSecond judged
        exact ⟨⟨fun blocked => absurd blocked firstFree, fun blocked => absurd blocked secondFree⟩,
          fun _ => ⟨firstSignaled, secondSignaled, firstResult.trans secondResult.symm⟩⟩
    | false =>
        have firstBlocked := (Task.flagsWait_eq_some
          (firstJudged.waiting task other different asks judged)).1
        have secondBlocked := (Task.flagsWait_eq_some
          (secondJudged.waiting task other different asksSecond judged)).1
        exact ⟨⟨fun _ => secondBlocked, fun _ => firstBlocked⟩,
          fun free => absurd firstBlocked free⟩
  · rw [firstFlags, firstBits, secondBits]

/-! ## Executed turns -/

/-- Switches, call entries and user code leave every wait alone. -/
theorem Core.bystands_step
    {cfg : Config} {system after : System} {action : Action} {events : List Event}
    (core : Core system) (step : Stepped cfg system action after events)
    (noTick : action ≠ .sysTick) (noAdvance : action ≠ .advance)
    (index waiter : Nat) (call : Call) : Bystands index waiter call system after := by
  cases step with
  | sysTick => exact absurd rfl noTick
  | advance => exact absurd rfl noAdvance
  | @pendSv psp live =>
      have waits : ∀ task, SameWait (system.kernel.tasks task)
          ((pendSvHandler system.kernel psp).tasks task) := by
        intro task
        rcases pendSvHandler_outcome psp core.control live with stopped | resumed
        · obtain ⟨savedSp, same⟩ := stopped.tasks task
          rw [same]
          exact ⟨Iff.rfl, rfl⟩
        · refine ⟨resumed.blocked_iff task, ?_⟩
          rw [resumed.tasks]
          rfl
      refine ⟨?_, fun task => (waits task).flagsWait index,
        fun _ inCall => ⟨inCall, waits waiter⟩⟩
      exact congrFun (pendSvHandler_sameObjects psp core.control live).eventFlags index
  | @invoke thread entered active user =>
      refine ⟨rfl, fun _ => rfl, ?_⟩
      intro point inCall
      have different : Thread.task waiter ≠ thread := by
        rintro rfl
        rw [user] at inCall
        cases inCall
      exact ⟨(Function.update_of_ne different _ _).trans inCall, .refl _⟩
  | user => exact ⟨rfl, fun _ => rfl, fun _ inCall => ⟨inCall, .refl _⟩⟩

/-- The turns taken by a list of actions, if nothing but quiet steps comes before
each of them. -/
def System.recordTurns (cfg : Config) : System → List Action → Option (List Turn × System)
  | system, [] => some ([], system)
  | system, .advance :: actions =>
      match system.activeThread with
      | none => none
      | some thread =>
          match system.frames thread with
          | .user => none
          | .inCall call point =>
              match call.step cfg system.cpu system.kernel system.memory thread.slot point with
              | none => none
              | some result =>
                  ((system.taken ⟨thread, call, point, result.outcome⟩ result).recordTurns cfg
                    actions).map fun rest =>
                      (⟨thread, call, point, result.outcome⟩ :: rest.1, rest.2)
  | system, action :: actions =>
      match system.step cfg action with
      | none => none
      | some next =>
          match next.1.recordTurns cfg actions with
          | some (turn :: turns, finish) =>
              if action = .sysTick then none else some (turn :: turns, finish)
          | _ => none

theorem Turns.after_quiet
    {cfg : Config} {index waiter : Nat} {call : Call} {start middle finish : System}
    {action : Action} {events : List Event} {turn : Turn} {turns : List Turn}
    (step : start.step cfg action = some (middle, events))
    (same : Bystands index waiter call start middle)
    (run : Turns cfg index waiter call middle (turn :: turns) finish) :
    Turns cfg index waiter call start (turn :: turns) finish := by
  cases run with
  | turn quiet active inCall stepped ends rest =>
      exact .turn (.head ⟨action, events, step, same⟩ quiet) active inCall stepped ends rest

theorem Core.turns_of_recordTurns
    {cfg : Config} {system finish : System} {actions : List Action} {turns : List Turn}
    (core : Core system) (recorded : system.recordTurns cfg actions = some (turns, finish))
    (index waiter : Nat) (call : Call) : Turns cfg index waiter call system turns finish := by
  induction actions generalizing system turns with
  | nil =>
      simp only [System.recordTurns, Option.some.injEq, Prod.mk.injEq] at recorded
      obtain ⟨rfl, rfl⟩ := recorded
      exact .done
  | cons action actions inductionHypothesis =>
      by_cases advances : action = .advance
      · subst advances
        simp only [System.recordTurns] at recorded
        split at recorded
        · cases recorded
        · rename_i thread active
          split at recorded
          · cases recorded
          · rename_i entered point inCall
            split at recorded
            · cases recorded
            · rename_i result stepped
              obtain ⟨⟨rest, last⟩, later, packed⟩ := Option.map_eq_some_iff.mp recorded
              simp only [Prod.mk.injEq] at packed
              obtain ⟨rfl, rfl⟩ := packed
              exact .turn .refl active inCall stepped rfl
                (inductionHypothesis (core.advance active inCall stepped) later)
      · rw [System.recordTurns] at recorded
        · split at recorded
          · cases recorded
          · rename_i next step
            split at recorded
            · rename_i turn rest last later
              split at recorded
              · cases recorded
              · rename_i noTick
                simp only [Option.some.injEq, Prod.mk.injEq] at recorded
                obtain ⟨rfl, rfl⟩ := recorded
                exact .after_quiet step
                  (core.bystands_step (System.stepped step) noTick advances index waiter call)
                  (inductionHypothesis (core.step step) later)
            · cases recorded
        · exact advances

/-- The actions take the given turns and lead to a state that passes a check. -/
def System.checkTurns
    (cfg : Config) (actions : List Action) (turns : List Turn) (check : System → Bool)
    (system : System) : Bool :=
  (system.recordTurns cfg actions).any fun taken => decide (taken.1 = turns) && check taken.2

theorem Core.turns_of_checkTurns
    {cfg : Config} {system : System} {actions : List Action} {turns : List Turn}
    {check : System → Bool} (core : Core system)
    (checked : system.checkTurns cfg actions turns check = true)
    (index waiter : Nat) (call : Call) :
    ∃ finish, Turns cfg index waiter call system turns finish ∧ check finish = true := by
  unfold System.checkTurns at checked
  cases recorded : system.recordTurns cfg actions with
  | none =>
      rw [recorded] at checked
      exact absurd checked Bool.false_ne_true
  | some taken =>
      rw [recorded] at checked
      simp only [Option.any_some, Bool.and_eq_true, decide_eq_true_eq] at checked
      obtain ⟨rfl, passed⟩ := checked
      exact ⟨taken.2, core.turns_of_recordTurns recorded index waiter call, passed⟩

/-- Two peers and a third task that waits for the first bit; the second peer runs. -/
def peersAndWaiter : List Action :=
  Action.bootProgram [.eventFlagsInit (some 0)] [2, 2, 1] ++
    ([.invoke (.taskSleep 1), .advance, .switchFrom 0,
       .invoke (.taskSleep 1), .advance, .switchFrom 1,
       .invoke (.eventFlagsWait (some 0) ⟨1, false, false⟩ 9 true), .advance, .advance,
       .switchFrom 2, .sysTick, .pendSv 0x20000440#32, .advance,
       .invoke .taskYield, .advance, .advance, .switchFrom 0, .advance] : List Action)

/-- The object is clear and only the third task waits on it. -/
def System.thirdWaits (system : System) : Bool :=
  decide (system.kernel.taskCount = 3) &&
    decide ((system.kernel.eventFlags 0).bits = 0) &&
    decide ((system.kernel.tasks 0).flagsWait 0 = none) &&
    decide ((system.kernel.tasks 1).flagsWait 0 = none) &&
    decide ((system.kernel.tasks 2).flagsWait 0 = some ⟨1, false, false⟩)

theorem Core.waits_of_thirdWaits
    {system : System} (core : Core system) (checked : system.thirdWaits = true) :
    (system.kernel.eventFlags 0).bits = 0 ∧ ∀ task, (system.kernel.tasks task).flagsWait 0 =
      if task = 2 then some ⟨1, false, false⟩ else none := by
  simp only [System.thirdWaits, Bool.and_eq_true, decide_eq_true_eq] at checked
  obtain ⟨⟨⟨⟨count, bits⟩, first⟩, second⟩, third⟩ := checked
  refine ⟨bits, fun task => ?_⟩
  match task with
  | 0 => exact first
  | 1 => exact second
  | 2 => exact third
  | beyond + 3 =>
      rw [if_neg (by omega)]
      apply Task.flagsWait_of_ne_blocked
      intro blocked
      have registered := core.registered_of_blocked blocked
      omega

/-- Both orders report the two bits and clear them, and wake the third task. -/
theorem both_orders_report_both_bits :
    ∃ first firstSet firstEnd second secondSet secondEnd : System,
      (∃ events, Run Config.default events first) ∧
      (∃ events, Run Config.default events second) ∧
      (Outcome.reply (.matched true (some 3))) = .reply (reportMatched true true
        (((first.kernel.eventFlags 0).bits ||| 3) &&& 3)) ∧
      ((firstSet.kernel.tasks 2).state = .blocked ↔
        (secondSet.kernel.tasks 2).state = .blocked) ∧
      (firstEnd.kernel.eventFlags 0).bits = (secondEnd.kernel.eventFlags 0).bits := by
  obtain ⟨firstEvents, first, firstRun, firstChecked⟩ :=
    Machine.RunFrom.exists_of_execFrom (forge Config.default) Machine.anyStep System.boot
      (peersAndWaiter ++ [.invoke .taskYield, .advance, .advance, .switchFrom 1])
      (fun _ system => system.thirdWaits && system.checkTurns Config.default
        [.invoke (.eventFlagsWait (some 0) ⟨3, true, true⟩ 9 true), .advance, .advance,
          .switchFrom 0, .invoke (.eventFlagsSet (some 0) 3), .advance]
        [⟨.task 0, .eventFlagsWait (some 0) ⟨3, true, true⟩ 9 true, .entry,
            .goto (.armed ⟨false, 10⟩)⟩,
          ⟨.task 0, .eventFlagsWait (some 0) ⟨3, true, true⟩ 9 true, .armed ⟨false, 10⟩,
            .goto (.suspended ⟨false, 10⟩)⟩,
          ⟨.task 1, .eventFlagsSet (some 0) 3, .entry, .reply (.bool true)⟩]
        (System.checkTurns Config.default [.switchFrom 1, .advance, .advance]
          [⟨.task 0, .eventFlagsWait (some 0) ⟨3, true, true⟩ 9 true, .suspended ⟨false, 10⟩,
              .goto (.signaled ⟨false, 10⟩)⟩,
            ⟨.task 0, .eventFlagsWait (some 0) ⟨3, true, true⟩ 9 true, .signaled ⟨false, 10⟩,
              .reply (.matched true (some 3))⟩]
          fun _ => true))
      (by decide +kernel)
  obtain ⟨secondEvents, second, secondRun, secondChecked⟩ :=
    Machine.RunFrom.exists_of_execFrom (forge Config.default) Machine.anyStep System.boot
      peersAndWaiter
      (fun _ system => system.thirdWaits && system.checkTurns Config.default
        [.invoke (.eventFlagsSet (some 0) 3), .advance]
        [⟨.task 1, .eventFlagsSet (some 0) 3, .entry, .reply (.bool true)⟩]
        (System.checkTurns Config.default
          [.switchFrom 1, .invoke (.eventFlagsWait (some 0) ⟨3, true, true⟩ 9 true), .advance,
            .advance]
          [⟨.task 0, .eventFlagsWait (some 0) ⟨3, true, true⟩ 9 true, .entry,
              .goto (.armed ⟨false, 10⟩)⟩,
            ⟨.task 0, .eventFlagsWait (some 0) ⟨3, true, true⟩ 9 true, .armed ⟨false, 10⟩,
              .reply (.matched true (some 3))⟩]
          fun system => decide ((system.kernel.tasks 2).state ≠ .blocked)))
      (by decide +kernel)
  rw [Bool.and_eq_true] at firstChecked secondChecked
  have firstCore := Core.of_run firstRun
  have secondCore := Core.of_run secondRun
  obtain ⟨firstBits, firstWaits⟩ := firstCore.waits_of_thirdWaits firstChecked.1
  obtain ⟨secondBits, secondWaits⟩ := secondCore.waits_of_thirdWaits secondChecked.1
  obtain ⟨firstSet, blocks, firstLater⟩ := firstCore.turns_of_checkTurns firstChecked.2 0 0
    (.eventFlagsWait (some 0) ⟨3, true, true⟩ 9 true)
  obtain ⟨firstEnd, resumes, -⟩ := (firstCore.turns blocks).turns_of_checkTurns firstLater 0 0
    (.eventFlagsWait (some 0) ⟨3, true, true⟩ 9 true)
  obtain ⟨secondSet, sets, secondLater⟩ := secondCore.turns_of_checkTurns secondChecked.2 0 0
    (.eventFlagsWait (some 0) ⟨3, true, true⟩ 9 true)
  obtain ⟨secondEnd, waits, -⟩ := (secondCore.turns sets).turns_of_checkTurns secondLater 0 0
    (.eventFlagsWait (some 0) ⟨3, true, true⟩ 9 true)
  have agree := event_flag_wait_orders_agree firstRun secondRun blocks resumes sets waits
    (secondWaits 0) (secondBits.trans firstBits.symm)
    (fun task _ => (secondWaits task).trans (firstWaits task).symm)
    (by rw [firstBits]; decide) (by
      intro task other _ asks _
      rw [firstWaits] at asks
      split at asks
      · obtain rfl := Option.some.inj asks
        rfl
      · cases asks)
  exact ⟨first, firstSet, firstEnd, second, secondSet, secondEnd, ⟨_, firstRun⟩,
    ⟨_, secondRun⟩, agree.2.1, (agree.2.2.1 2 _ (by decide) (firstWaits 2)).1, agree.2.2.2⟩

end ForgeKernel
