import ForgeKernel.Invariant.Waits

/-!
# Event flags

`Core.flagsMove` says what a step can do to one task as far as one event-flags
object is concerned: the task leaves the object, stays as it is while the bits
shrink or are judged anew, starts to wait, or is signaled by a broadcast.  From it
follows that a parked request is never satisfied by the bits as they stand.
-/

namespace ForgeKernel

open Machines

/-! ## Conditions -/

/-- Fewer bits satisfy fewer conditions. -/
theorem eventFlagsConditionMet_cleared
    {bits cleared mask : Word} {waitAll : Bool}
    (unmet : eventFlagsConditionMet bits mask waitAll = false) :
    eventFlagsConditionMet (bits &&& ~~~cleared) mask waitAll = false := by
  cases waitAll with
  | true =>
      simp only [eventFlagsConditionMet, if_true, decide_eq_false_iff_not] at unmet ⊢
      intro all
      apply unmet
      ext position small
      have bit := congrArg (·.getLsbD position) all
      simp only [BitVec.getLsbD_and, BitVec.getLsbD_not] at bit
      simp only [← BitVec.getLsbD_eq_getElem, BitVec.getLsbD_and]
      cases first : bits.getLsbD position <;> cases second : mask.getLsbD position <;>
        simp_all
  | false =>
      simp only [eventFlagsConditionMet, Bool.false_eq_true, if_false,
        decide_eq_false_iff_not, not_not] at unmet ⊢
      rw [BitVec.and_assoc, BitVec.and_comm (~~~cleared), ← BitVec.and_assoc, unmet]
      exact BitVec.zero_and

theorem Kernel.setEventFlags_bits (kernel : Kernel) (index : Nat) (flags : EventFlags) :
    ((kernel.setEventFlags index flags).eventFlags index).bits = flags.bits := by
  simp [Kernel.setEventFlags]

/-! ## Steps of a wait -/

/-- Steps of `fr_event_flags_wait`. -/
inductive FlagsWaitStep
    (cpu : Cpu) (kernel : Kernel) (memory : Memory) (self index : Nat) (request : FlagsRequest)
    (matchedBits : Bool) : Point → StepResult → Prop
  | refuses :
      FlagsWaitStep cpu kernel memory self index request matchedBits .entry
        (.reply kernel memory (reportMatched false matchedBits 0))
  | arms {timeout : WaitTimeout}
      (asked : request.mask ≠ 0) :
      FlagsWaitStep cpu kernel memory self index request matchedBits .entry
        (.goto kernel memory (.armed timeout))
  | returns {timeout : WaitTimeout} {after : Kernel} {value : Bool} {matched : Word}
      (outcome : FlagsWaitOutcome kernel index request timeout
        (after, .returned (value, matched))) :
      FlagsWaitStep cpu kernel memory self index request matchedBits (.armed timeout)
        (.reply after memory (reportMatched value matchedBits matched))
  | waits {timeout : WaitTimeout} {after : Kernel}
      (outcome : FlagsWaitOutcome kernel index request timeout (after, .waiting)) :
      FlagsWaitStep cpu kernel memory self index request matchedBits (.armed timeout)
        (.goto after memory (.suspended timeout))
  | expires {timeout : WaitTimeout}
      (unsignaled : (kernel.tasks self).waitResult ≠ .signaled) :
      FlagsWaitStep cpu kernel memory self index request matchedBits (.suspended timeout)
        (.reply kernel memory (reportMatched false matchedBits 0))
  | resumes {timeout : WaitTimeout}
      (signaled : (kernel.tasks self).waitResult = .signaled) :
      FlagsWaitStep cpu kernel memory self index request matchedBits (.suspended timeout)
        (.goto kernel memory (.signaled timeout))
  | delivers {timeout : WaitTimeout} :
      FlagsWaitStep cpu kernel memory self index request matchedBits (.signaled timeout)
        (.reply kernel memory
          (reportMatched true matchedBits (kernel.tasks self).waitFlagsResult))

/-- A step of a wait runs its section, or only moves on. -/
theorem eventFlagsWaitStep_cases
    {cfg : Config} {cpu : Cpu} {kernel : Kernel} {memory : Memory} {self index : Nat}
    {request : FlagsRequest} {ticks : Word} {matchedBits : Bool} {point : Point}
    {result : StepResult}
    (stepped : (Call.eventFlagsWait (some index) request ticks matchedBits).step cfg cpu kernel
      memory self point = some result) :
    FlagsWaitStep cpu kernel memory self index request matchedBits point result := by
  change eventFlagsWaitStep cpu kernel memory self (some index) request ticks matchedBits point =
    some result at stepped
  cases point with
  | entry =>
      simp only [eventFlagsWaitStep, reduceCtorEq, false_or] at stepped
      split at stepped
      · obtain rfl := Option.some.inj stepped
        exact .refuses
      · rename_i asked
        obtain rfl := Option.some.inj stepped
        unfold StepResult.arm
        split
        · split
          · exact .arms asked
          · exact .refuses
        · exact .refuses
  | armed timeout =>
      have outcome := eventFlagsWaitSection_outcome cpu kernel index request timeout
      obtain rfl := Option.some.inj stepped
      dsimp only
      generalize eventFlagsWaitSection cpu kernel index request timeout = ended at outcome ⊢
      obtain ⟨after, ⟨value, matched⟩ | _⟩ := ended
      · exact .returns outcome
      · exact .waits outcome
  | suspended timeout =>
      simp only [eventFlagsWaitStep] at stepped
      split at stepped
      · rename_i signaled
        obtain rfl := Option.some.inj stepped
        exact .resumes signaled
      · rename_i unsignaled
        obtain rfl := Option.some.inj stepped
        exact .expires unsignaled
  | signaled timeout =>
      obtain rfl := Option.some.inj stepped
      exact .delivers
  | _ => exact absurd stepped (by simp [eventFlagsWaitStep])

/-- The calls on an event-flags object. -/
theorem Call.eventFlags_cases
    {call : Call} {index : Nat} (mine : call.object = some (.eventFlags index)) :
    call = .eventFlagsInit (some index) ∨
      (∃ bits, call = .eventFlagsSet (some index) bits) ∨
      (∃ bits, call = .eventFlagsClear (some index) bits) ∨
      (∃ bits, call = .eventFlagsGet (some index) bits) ∨
      ∃ request ticks matchedBits,
        call = .eventFlagsWait (some index) request ticks matchedBits := by
  cases call <;> simp_all [Call.object]

/-! ## What a step does to one task and the bits -/

/-- Every step of the system, seen from one task and one event-flags object. -/
inductive FlagsMove (index task : Nat) (before after : System) (events : List Event) : Prop
  | leaves
      (idle : (after.view task).on (.eventFlags index) = .idle)
  | stays {snapshot cleared : Word}
      (view : (after.view task).on (.eventFlags index) =
        (before.view task).on (.eventFlags index))
      (part : (after.kernel.tasks task).waitPart = (before.kernel.tasks task).waitPart)
      (bits : (after.kernel.eventFlags index).bits = snapshot &&& ~~~cleared)
      (judged : snapshot = (before.kernel.eventFlags index).bits ∨
        (before.kernel.tasks task).satisfiedBy index snapshot = false)
  | begins {request : FlagsRequest} {ticks : Word} {matchedBits : Bool} {timeout : WaitTimeout}
      (armed : before.frames (.task task) =
        .inCall (.eventFlagsWait (some index) request ticks matchedBits) (.armed timeout))
      (view : after.view task =
        .waiting (.eventFlagsWait (some index) request ticks matchedBits))
      (parked : (after.kernel.tasks task).waitFlagsMask = request.mask ∧
        (after.kernel.tasks task).waitFlagsAll = request.waitAll)
      (unmet : eventFlagsConditionMet (after.kernel.eventFlags index).bits request.mask
        request.waitAll = false)
  | signaled {thread : Thread} {snapshot : Word} {call : Call}
      (evaluated : Event.evaluated thread index snapshot ∈ events)
      (waited : before.view task = .waiting call)
      (flies : after.view task = .flying call)
      (satisfied : (before.kernel.tasks task).satisfiedBy index snapshot = true)
      (result : (after.kernel.tasks task).waitFlagsResult =
        snapshot &&& (before.kernel.tasks task).waitFlagsMask)

section Moves

variable {cfg : Config} {system after : System} {action : Action} {events : List Event}
  {index task : Nat} {kernel : Kernel} {memory : Memory} {thread : Thread} {frame : Frame}

/-- The bits stay as they are. -/
theorem FlagsMove.stays_same
    (view : (after.view task).on (.eventFlags index) = (system.view task).on (.eventFlags index))
    (part : (after.kernel.tasks task).waitPart = (system.kernel.tasks task).waitPart)
    (bits : (after.kernel.eventFlags index).bits = (system.kernel.eventFlags index).bits) :
    FlagsMove index task system after events := by
  have kept : (after.kernel.eventFlags index).bits =
      (system.kernel.eventFlags index).bits &&& ~~~0#32 := by
    rw [bits, BitVec.not_zero, BitVec.and_allOnes]
  exact .stays view part kept (Or.inl rfl)

/-- Steps that are not about the object move neither its bits nor its waiters. -/
theorem FlagsMove.of_untouched
    (same : Untouched (.eventFlags index) system after events) :
    FlagsMove index task system after events := by
  have data : after.kernel.eventFlags index = system.kernel.eventFlags index := same.data
  by_cases busy : (after.view task).on (.eventFlags index) = .idle
  · exact .leaves busy
  · rcases same.views task with view | ⟨_, _, idle⟩
    · exact .stays_same view (same.parts task busy) (by rw [data])
    · exact absurd idle busy

/-- A task outside its kernel calls has left every object. -/
theorem FlagsMove.of_user
    (user : after.frames (.task task) = .user) : FlagsMove index task system after events := by
  refine .leaves ?_
  rw [System.view, user]
  rfl

/-- A step that leaves the control blocks alone, and the view of its thread. -/
theorem FlagsMove.of_still
    {cleared : Word}
    (tasks : kernel.tasks = system.kernel.tasks)
    (bits : (kernel.eventFlags index).bits =
      (system.kernel.eventFlags index).bits &&& ~~~cleared)
    (own : ∀ self, thread = .task self →
      waitView (system.kernel.tasks self) frame = system.view self) :
    FlagsMove index task system
      ({ system with
        kernel := kernel
        memory := memory }.setFrame thread frame) events := by
  refine .stays ?_ ?_ bits (Or.inl rfl)
  · rw [System.view_setFrame_still tasks own]
  · change (kernel.tasks task).waitPart = _
    rw [tasks]

variable {point : Point} {result : StepResult}

/-- Calls that are one atomic update, other than a set. -/
theorem FlagsMove.of_atomic
    {call : Call} {cleared : Word} {reply : Reply}
    (inCall : system.frames thread = .inCall call .entry)
    (tasks : kernel.tasks = system.kernel.tasks)
    (bits : (kernel.eventFlags index).bits =
      (system.kernel.eventFlags index).bits &&& ~~~cleared) :
    FlagsMove index task system
      ({ system with
        kernel := kernel
        memory := memory }.setFrame thread ((Outcome.reply reply).frame call)) events := by
  refine .of_still tasks bits fun self own => ?_
  subst own
  rw [System.view, inCall]
  rfl

/-- The registry after a broadcast, seen from one task. -/
theorem Core.flagsMove_broadcast
    {self : Nat} {snapshot cleared : Word} (trace : Trace)
    (core : Core system) (active : system.activeThread = some (.task self))
    (tasks : kernel.tasks =
      (system.kernel.broadcast index snapshot system.kernel.taskCount trace).tasks)
    (bits : (kernel.eventFlags index).bits = snapshot &&& ~~~cleared)
    (evaluated : Event.evaluated thread index snapshot ∈ events) :
    FlagsMove index task system
      ({ system with
        kernel := kernel
        memory := memory }.setFrame (.task self) .user) events := by
  by_cases own : task = self
  · subst own
    exact .of_user (Function.update_self ..)
  by_cases registered : task < system.kernel.taskCount
  · have frame : ({ system with
        kernel := kernel
        memory := memory }.setFrame (.task self) .user).frames (.task task) =
        system.frames (.task task) := System.setFrame_of_ne _ _ own
    have block := congrFun tasks task
    by_cases satisfied : (system.kernel.tasks task).satisfiedBy index snapshot = true
    · have woken : kernel.tasks task =
          { (system.kernel.tasks task).endWait .signaled (system.kernel.wakeState task) with
            waitFlagsResult := snapshot &&& (system.kernel.tasks task).waitFlagsMask } := by
        rw [block]
        exact if_pos ⟨registered, satisfied⟩
      have waits : Task.waitsOn .eventFlags (.eventFlags index) (system.kernel.tasks task) =
          true := by
        simp only [Task.satisfiedBy, Bool.and_eq_true] at satisfied
        exact satisfied.1.1
      obtain ⟨call, waiting, _, flying⟩ := (core.slots task).view_signaled waits
        (by rw [woken]; exact system.kernel.wakeState_ne_blocked task) (congrArg _ woken)
      refine .signaled evaluated waiting ?_ satisfied (congrArg Task.waitFlagsResult woken)
      rw [System.view, frame]
      exact flying
    · have kept : kernel.tasks task = system.kernel.tasks task := by
        rw [block]
        exact if_neg fun chosen => satisfied chosen.2
      refine .stays ?_ (congrArg Task.waitPart kept) bits (Or.inr (by simpa using satisfied))
      rw [System.view_congr frame kept]
  · refine .of_user ?_
    rw [System.setFrame_of_ne _ _ own]
    exact (core.unregistered task (Nat.le_of_not_lt registered)).2

/-- A set wakes those whose condition it satisfies and leaves the others unsatisfied. -/
theorem Core.flagsMove_set
    {bits : Word}
    (core : Core system) (active : system.activeThread = some thread)
    (inCall : system.frames thread = .inCall (.eventFlagsSet (some index) bits) point)
    (stepped : (Call.eventFlagsSet (some index) bits).step cfg system.cpu system.kernel
      system.memory thread.slot point = some result) :
    FlagsMove index task system
      ({ system with
        kernel := result.kernel
        memory := result.memory }.setFrame thread
          (result.outcome.frame (.eventFlagsSet (some index) bits)))
      (observe system thread (.eventFlagsSet (some index) bits) point result ++
        result.outcome.returns thread (.eventFlagsSet (some index) bits)) := by
  cases point with
  | entry =>
      obtain rfl := Option.some.inj stepped
      have outcome := eventFlagsSet_outcome system.cpu system.kernel index bits
      simp only [Option.elim]
      generalize eventFlagsSet system.cpu system.kernel index bits = ended at outcome ⊢
      cases outcome with
      | denied =>
          have bits : (system.kernel.eventFlags index).bits =
              (system.kernel.eventFlags index).bits &&& ~~~0#32 := by
            rw [BitVec.not_zero, BitVec.and_allOnes]
          exact .of_atomic inCall rfl bits
      | @silent cleared trace running unsatisfied =>
          obtain ⟨self, rfl⟩ := core.task_of_running active running
          exact core.flagsMove_broadcast trace active rfl (Kernel.setEventFlags_bits ..)
            List.mem_cons_self
      | @broadcast cleared trace running =>
          obtain ⟨self, rfl⟩ := core.task_of_running active running
          exact core.flagsMove_broadcast trace active rfl (Kernel.setEventFlags_bits ..)
            List.mem_cons_self
  | _ => exact absurd stepped (by simp [Call.step, atomicStep])

/-- A wait parks its own request and clears its own mask. -/
theorem Core.flagsMove_wait
    {request : FlagsRequest} {ticks : Word} {matchedBits : Bool}
    (core : Core system) (active : system.activeThread = some thread)
    (inCall : system.frames thread =
      .inCall (.eventFlagsWait (some index) request ticks matchedBits) point)
    (stepped : (Call.eventFlagsWait (some index) request ticks matchedBits).step cfg system.cpu
      system.kernel system.memory thread.slot point = some result) :
    FlagsMove index task system
      ({ system with
        kernel := result.kernel
        memory := result.memory }.setFrame thread
          (result.outcome.frame (.eventFlagsWait (some index) request ticks matchedBits)))
      events := by
  obtain ⟨_, ⟨rfl, stopped⟩ | ⟨self, rfl, runs, _⟩⟩ := core.active_cases active
  · refine .of_user ?_
    simp only [System.setFrame,
      Function.update_of_ne (Thread.noConfusion : Thread.task task ≠ .boot)]
    exact core.dormant stopped task
  have awake : (system.kernel.tasks self).state ≠ .blocked := by simp [runs.state]
  -- The step of another task changes neither frame nor control block of this one.
  have bystander : ∀ {frame : Frame} {kernel : Kernel} {cleared : Word}, task ≠ self →
      kernel.tasks task = system.kernel.tasks task →
      (kernel.eventFlags index).bits = (system.kernel.eventFlags index).bits &&& ~~~cleared →
      FlagsMove index task system
        ({ system with
          kernel := kernel
          memory := result.memory }.setFrame (.task self) frame) events := by
    intro frame kernel cleared other same bits
    refine .stays ?_ (congrArg Task.waitPart same) bits (Or.inl rfl)
    exact congrArg _ (System.view_congr (System.setFrame_of_ne _ _ other) same)
  have unchanged : (system.kernel.eventFlags index).bits =
      (system.kernel.eventFlags index).bits &&& ~~~0#32 := by
    rw [BitVec.not_zero, BitVec.and_allOnes]
  by_cases own : task = self
  · subst own
    cases eventFlagsWaitStep_cases stepped with
    | refuses => exact .of_user (Function.update_self ..)
    | arms =>
        refine .leaves ?_
        rw [System.view_setFrame_self]
        rfl
    | returns => exact .of_user (Function.update_self ..)
    | @waits timeout after outcome =>
        generalize ended : (after, Progress.waiting) = pair at outcome
        cases outcome with
        | refused => exact absurd (Prod.mk.inj ended).2 (by simp)
        | unblocked => exact absurd (Prod.mk.inj ended).2 (by simp)
        | satisfied => exact absurd (Prod.mk.inj ended).2 (by simp)
        | @waits current delay trace blocks unmet =>
            obtain rfl : task = current :=
              Thread.task.inj (core.active_eq active blocks.currentTask)
            obtain ⟨rfl, _⟩ := Prod.mk.inj ended
            refine .begins inCall ?_ ?_ unmet
            · rw [System.view_setFrame_self]
              simp [StepResult.goto, Outcome.frame, waitView, Kernel.blockTask, Task.beginWait]
            · simp [StepResult.goto, System.setFrame, Kernel.blockTask, Task.beginWait,
                Kernel.setTask, Task.withRequest]
    | expires => exact .of_user (Function.update_self ..)
    | resumes signaled =>
        refine .of_still rfl unchanged ?_
        rintro _ ⟨⟩
        have arrived : (system.kernel.tasks task).waitResult = .signaled := signaled
        rw [System.view, inCall]
        simp [waitView, StepResult.goto, Outcome.frame, awake, arrived]
    | delivers => exact .of_user (Function.update_self ..)
  · cases eventFlagsWaitStep_cases stepped with
    | refuses => exact bystander own rfl unchanged
    | arms => exact bystander own rfl unchanged
    | @returns timeout after value matched outcome =>
        generalize ended : (after, Progress.returned (value, matched)) = pair at outcome
        cases outcome with
        | refused =>
            obtain ⟨rfl, _⟩ := Prod.mk.inj ended
            exact bystander own rfl unchanged
        | @unblocked current present =>
            obtain rfl : self = current := Thread.task.inj (core.active_eq active present)
            obtain ⟨rfl, _⟩ := Prod.mk.inj ended
            exact bystander own (Kernel.setTask_tasks_of_ne _ _ own) unchanged
        | satisfied =>
            obtain ⟨rfl, _⟩ := Prod.mk.inj ended
            by_cases clears : request.clearOnExit = true
            · simp only [clears, if_true]
              exact bystander own rfl (Kernel.setEventFlags_bits ..)
            · simp only [clears]
              exact bystander own rfl unchanged
        | waits => exact absurd (Prod.mk.inj ended).2 (by simp)
    | @waits timeout after outcome =>
        generalize ended : (after, Progress.waiting) = pair at outcome
        cases outcome with
        | refused => exact absurd (Prod.mk.inj ended).2 (by simp)
        | unblocked => exact absurd (Prod.mk.inj ended).2 (by simp)
        | satisfied => exact absurd (Prod.mk.inj ended).2 (by simp)
        | @waits current delay trace blocks unmet =>
            obtain rfl : self = current :=
              Thread.task.inj (core.active_eq active blocks.currentTask)
            obtain ⟨rfl, _⟩ := Prod.mk.inj ended
            refine bystander own ?_ unchanged
            simp [StepResult.goto, Kernel.blockTask, Kernel.setTask, own]
    | expires => exact bystander own rfl unchanged
    | resumes => exact bystander own rfl unchanged
    | delivers => exact bystander own rfl unchanged

/-- What a step can do to a task and the bits of an event-flags object. -/
theorem Core.flagsMove
    (core : Core system) (step : system.step cfg action = some (after, events))
    (index task : Nat) : FlagsMove index task system after events := by
  have unchanged : (system.kernel.eventFlags index).bits =
      (system.kernel.eventFlags index).bits &&& ~~~0#32 := by
    rw [BitVec.not_zero, BitVec.and_allOnes]
  have next := core.step step
  cases core.objectStep step (.eventFlags index) with
  | untouched same => exact .of_untouched same
  | @advance thread call point result active inCall mine stepped =>
      rcases Call.eventFlags_cases mine with rfl | ⟨bits, rfl⟩ | ⟨bits, rfl⟩ | ⟨bits, rfl⟩ |
        ⟨request, ticks, matchedBits, rfl⟩
      · cases point with
        | entry =>
            obtain rfl := Option.some.inj stepped
            cases running : system.kernel.running with
            | true =>
                have refused : eventFlagsInit system.kernel index = (system.kernel, false) :=
                  if_pos running
                simp only [Option.elim, refused]
                exact .of_atomic inCall rfl unchanged
            | false =>
                refine .of_user (next.dormant ?_ task)
                simp [StepResult.reply, System.setFrame, Option.elim, eventFlagsInit, running,
                  Kernel.setEventFlags]
        | _ => exact absurd stepped (by simp [Call.step, atomicStep])
      · exact core.flagsMove_set active inCall stepped
      · cases point with
        | entry =>
            obtain rfl := Option.some.inj stepped
            simp only [Option.elim]
            unfold eventFlagsClear
            split
            · exact .of_atomic inCall rfl unchanged
            · exact .of_atomic inCall rfl (Kernel.setEventFlags_bits ..)
        | _ => exact absurd stepped (by simp [Call.step, atomicStep])
      · cases point with
        | entry =>
            obtain rfl := Option.some.inj stepped
            exact .of_atomic inCall rfl unchanged
        | _ => exact absurd stepped (by simp [Call.step])
      · exact core.flagsMove_wait active inCall stepped

end Moves

/-! ## The invariant -/

/-- Waiters of one event-flags object and their parked requests. -/
structure FlagsOk (index : Nat) (system : System) : Prop where
  armed : ∀ task request ticks matchedBits timeout, system.frames (.task task) =
    .inCall (.eventFlagsWait (some index) request ticks matchedBits) (.armed timeout) →
      request.mask ≠ 0
  parked : ∀ task request ticks matchedBits, system.view task =
    .waiting (.eventFlagsWait (some index) request ticks matchedBits) →
      request.mask ≠ 0 ∧
      (system.kernel.tasks task).waitFlagsMask = request.mask ∧
      (system.kernel.tasks task).waitFlagsAll = request.waitAll ∧
      eventFlagsConditionMet (system.kernel.eventFlags index).bits request.mask
        request.waitAll = false

/-- A call that waits on an event-flags object is a wait call. -/
theorem Call.eventFlagsWait_of_wait
    {call : Call} {index : Nat}
    (wait : call.wait = some (.eventFlags, some (.eventFlags index))) :
    ∃ request ticks matchedBits, call = .eventFlagsWait (some index) request ticks matchedBits := by
  unfold Call.wait at wait
  split at wait <;> simp_all

namespace FlagsOk

variable {cfg : Config} {index : Nat} {system after : System} {action : Action}
  {events : List Event}

/-- The invariant holds when boot code starts. -/
theorem initial : FlagsOk index System.boot :=
  ⟨fun _ _ _ _ _ inCall => absurd inCall (by simp [System.boot]),
    fun _ _ _ _ view => absurd view (by simp [System.view, System.boot, waitView])⟩

/-- An armed wait has passed the check on its mask. -/
theorem armed_step
    (ok : FlagsOk index system) (core : Core system)
    (step : system.step cfg action = some (after, events))
    {task : Nat} {request : FlagsRequest} {ticks : Word} {matchedBits : Bool}
    {timeout : WaitTimeout}
    (inCall : after.frames (.task task) =
      .inCall (.eventFlagsWait (some index) request ticks matchedBits) (.armed timeout)) :
    request.mask ≠ 0 := by
  cases core.taskStep step task with
  | invokes =>
      simp only [System.setFrame, Function.update_self, Frame.inCall.injEq] at inCall
      exact absurd inCall.2 (by simp)
  | @advances call point result active before stepped =>
      simp only [System.setFrame, Function.update_self] at inCall
      cases outcome : result.outcome with
      | reply =>
          rw [outcome] at inCall
          exact absurd inCall (by simp [Outcome.frame])
      | goto next =>
          rw [outcome] at inCall
          obtain ⟨rfl, rfl⟩ := Frame.inCall.inj inCall
          cases eventFlagsWaitStep_cases stepped with
          | arms asked => exact asked
          | waits => exact absurd outcome (by simp [StepResult.goto])
          | resumes => exact absurd outcome (by simp [StepResult.goto])
          | _ => exact absurd outcome (by simp [StepResult.reply])
  | watches frame =>
      rw [frame] at inCall
      exact ok.armed task request ticks matchedBits timeout inCall

/-- A task that starts to wait has just been found unsatisfied, and no step satisfies a waiter
without waking it. -/
theorem parked_step
    (ok : FlagsOk index system) (core : Core system)
    (step : system.step cfg action = some (after, events))
    {task : Nat} {request : FlagsRequest} {ticks : Word} {matchedBits : Bool}
    (view : after.view task =
      .waiting (.eventFlagsWait (some index) request ticks matchedBits)) :
    request.mask ≠ 0 ∧
      (after.kernel.tasks task).waitFlagsMask = request.mask ∧
      (after.kernel.tasks task).waitFlagsAll = request.waitAll ∧
      eventFlagsConditionMet (after.kernel.eventFlags index).bits request.mask
        request.waitAll = false := by
  have onObject := WaitView.on_eq_waiting.mpr
    ⟨view, (rfl : Call.object (.eventFlagsWait (some index) request ticks matchedBits) =
      some (.eventFlags index))⟩
  cases core.flagsMove step index task with
  | leaves idle =>
      rw [idle] at onObject
      exact absurd onObject (by simp)
  | @stays snapshot cleared same part bits judged =>
      rw [same] at onObject
      obtain ⟨before, _⟩ := WaitView.on_eq_waiting.mp onObject
      obtain ⟨asked, mask, all, unmet⟩ := ok.parked task request ticks matchedBits before
      have sameMask : (after.kernel.tasks task).waitFlagsMask =
          (system.kernel.tasks task).waitFlagsMask := congrArg WaitPart.mask part
      have sameAll : (after.kernel.tasks task).waitFlagsAll =
          (system.kernel.tasks task).waitFlagsAll := congrArg WaitPart.all part
      refine ⟨asked, sameMask.trans mask, sameAll.trans all, ?_⟩
      rw [bits]
      apply eventFlagsConditionMet_cleared
      rcases judged with rfl | unsatisfied
      · exact unmet
      · have waits : Task.waitsOn .eventFlags (.eventFlags index) (system.kernel.tasks task) =
            true := core.waitsOn_iff_view.mpr ⟨_, before, rfl⟩
        rw [Task.satisfiedBy, waits, mask, all, decide_eq_true asked] at unsatisfied
        simpa using unsatisfied
  | @begins other _ _ _ armed waiting stored unmet =>
      rw [view] at waiting
      obtain ⟨_, rfl, _, _⟩ := Call.eventFlagsWait.inj (WaitView.waiting.inj waiting)
      exact ⟨ok.armed _ _ _ _ _ armed, stored.1, stored.2, unmet⟩
  | signaled _ _ flies =>
      rw [view] at flies
      exact absurd flies (by simp)

/-- Every step of the system keeps the invariant. -/
theorem step
    (ok : FlagsOk index system) (core : Core system)
    (step : system.step cfg action = some (after, events)) : FlagsOk index after :=
  ⟨fun _ _ _ _ _ inCall => ok.armed_step core step inCall,
    fun _ _ _ _ view => ok.parked_step core step view⟩

/-- It holds along every run. -/
theorem of_run
    {allowed : System → Action → Prop} (index : Nat)
    (run : (forge cfg).Run allowed events system) : FlagsOk index system :=
  (run.stateInvariant (motive := fun system => Core system ∧ FlagsOk index system)
    ⟨Core.initial, initial⟩
    fun _ _ _ _ held _ stepped => ⟨held.1.step stepped, held.2.step held.1 stepped⟩).2

/-- A blocked waiter is not satisfied. -/
theorem unmet
    (ok : FlagsOk index system) (core : Core system) {task : Nat}
    (blocked : (system.kernel.tasks task).state = .blocked)
    (reason : (system.kernel.tasks task).waitReason = .eventFlags)
    (object : (system.kernel.tasks task).waitObject = some (.eventFlags index)) :
    (system.kernel.tasks task).waitFlagsMask ≠ 0 ∧
      eventFlagsConditionMet (system.kernel.eventFlags index).bits
        (system.kernel.tasks task).waitFlagsMask (system.kernel.tasks task).waitFlagsAll =
          false := by
  have waits : Task.waitsOn .eventFlags (.eventFlags index) (system.kernel.tasks task) = true :=
    Task.waitsOn_iff.mpr ⟨blocked, reason, (core.slots task).pending blocked, object⟩
  obtain ⟨call, view, wait⟩ := core.waitsOn_iff_view.mp waits
  obtain ⟨request, ticks, matchedBits, rfl⟩ := Call.eventFlagsWait_of_wait wait
  obtain ⟨asked, mask, all, unmet⟩ := ok.parked task request ticks matchedBits view
  rw [mask, all]
  exact ⟨asked, unmet⟩

end FlagsOk

end ForgeKernel
