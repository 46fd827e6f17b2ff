import ForgeKernel.Invariant.Flags

/-!
# Event-flag waits are never missed

A blocked waiter is never satisfied by the bits as they stand, and the bits that a
wait reports were set together at one instant of the call.
-/

namespace ForgeKernel

open Machines

/-! ## The bits that a wait reports -/

/-- A task that was signaled out of a wait holds bits that a set has judged. -/
def Delivered
    (index task : Nat) (request : FlagsRequest) (ticks : Word) (matchedBits : Bool)
    (events : List Event) (system : System) : Prop :=
  system.view task = .flying (.eventFlagsWait (some index) request ticks matchedBits) →
    ∃ thread bits, Event.evaluated thread index bits ∈ events ∧
      eventFlagsConditionMet bits request.mask request.waitAll = true ∧
      (system.kernel.tasks task).waitFlagsResult = bits &&& request.mask

theorem Delivered.step
    {cfg : Config} {index task : Nat} {request : FlagsRequest} {ticks : Word}
    {matchedBits : Bool} {events emitted : List Event} {system after : System} {action : Action}
    (delivered : Delivered index task request ticks matchedBits events system)
    (ok : FlagsOk index system) (core : Core system)
    (step : system.step cfg action = some (after, emitted)) :
    Delivered index task request ticks matchedBits (events ++ emitted) after := by
  intro view
  have onObject := WaitView.on_eq_flying.mpr
    ⟨view, (rfl : Call.object (.eventFlagsWait (some index) request ticks matchedBits) =
      some (.eventFlags index))⟩
  cases core.flagsMove step index task with
  | leaves idle =>
      rw [idle] at onObject
      exact absurd onObject (by simp)
  | stays same part =>
      rw [same] at onObject
      obtain ⟨thread, bits, evaluated, met, result⟩ :=
        delivered (WaitView.on_eq_flying.mp onObject).1
      have sameResult : (after.kernel.tasks task).waitFlagsResult =
          (system.kernel.tasks task).waitFlagsResult := congrArg WaitPart.flagsResult part
      exact ⟨thread, bits, List.mem_append_left _ evaluated, met, sameResult.trans result⟩
  | begins _ waiting =>
      rw [view] at waiting
      exact absurd waiting (by simp)
  | @signaled thread snapshot call evaluated waited flies satisfied result =>
      rw [view] at flies
      obtain rfl := WaitView.flying.inj flies
      obtain ⟨_, mask, all, _⟩ := ok.parked task request ticks matchedBits waited
      simp only [Task.satisfiedBy, Bool.and_eq_true, mask, all] at satisfied
      rw [mask] at result
      exact ⟨thread, snapshot, List.mem_append_right _ evaluated, satisfied.2, result⟩

/-- Reported bits as the documentation of the wait promises them. -/
structure Matched (request : FlagsRequest) (bits matched : Word) : Prop where
  subset : matched &&& request.mask = matched
  all : request.waitAll = true → matched = request.mask
  any : request.waitAll = false → matched ≠ 0
  simultaneous : matched = bits &&& request.mask

theorem Matched.of_met
    {request : FlagsRequest} {bits : Word}
    (met : eventFlagsConditionMet bits request.mask request.waitAll = true) :
    Matched request bits (bits &&& request.mask) where
  subset := by rw [BitVec.and_assoc, BitVec.and_self]
  all waitAll := by
    rw [eventFlagsConditionMet, if_pos waitAll] at met
    exact of_decide_eq_true met
  any waitAny := by
    rw [eventFlagsConditionMet, if_neg (by simp [waitAny])] at met
    exact of_decide_eq_true met
  simultaneous := rfl

section Spans

variable {cfg : Config} {index task : Nat} {request : FlagsRequest} {ticks : Word}
  {matchedBits : Bool} {events during emitted : List Event} {start finish system after : System}
  {action : Action}

/-- The state in which a wait returns knows where its bits come from. -/
theorem Delivered.of_called
    {called : System}
    (core : Core called) (ok : FlagsOk index called)
    (entered : called.frames (.task task) =
      .inCall (.eventFlagsWait (some index) request ticks matchedBits) .entry)
    (run : (forge cfg).RunFrom Machine.anyStep called during system) :
    Core system ∧ FlagsOk index system ∧
      Delivered index task request ticks matchedBits during system := by
  refine run.invariant (motive := fun during system => Core system ∧ FlagsOk index system ∧
    Delivered index task request ticks matchedBits during system) ⟨core, ok, ?_⟩ ?_
  · intro view
    rw [System.view, entered] at view
    exact absurd view (by simp [waitView])
  · rintro before now state next _ ⟨stateCore, stateOk, delivered⟩ _ stepped
    exact ⟨stateCore.step stepped, stateOk.step stateCore stepped,
      delivered.step stateOk stateCore stepped⟩

/-- A wait that returns true reports bits that were judged together during the call. -/
theorem CallSpan.matched_true
    {reported : Option Word}
    (run : Run cfg events start)
    (span : CallSpan cfg task (.eventFlagsWait (some index) request ticks matchedBits) start
      finish during (.matched true reported)) :
    ∃ thread bits matched, Event.evaluated thread index bits ∈ during ∧
      Matched request bits matched ∧ reported = if matchedBits then some matched else none := by
  obtain ⟨caller, called, middle, inside, action, emitted, invoked, within, _, stepped, returned,
    rfl⟩ := span
  have core := Core.of_run run
  have ok := FlagsOk.of_run index run
  have entered : called.frames (.task task) =
      .inCall (.eventFlagsWait (some index) request ticks matchedBits) .entry := by
    cases System.stepped invoked with
    | invoke => simp [System.setFrame]
  obtain ⟨_, _, delivered⟩ := Delivered.of_called (core.step invoked) (ok.step core invoked)
    entered within
  obtain ⟨point, result, active, inCall, replied, outcome, _, emittedSame⟩ :=
    (System.stepped stepped).returned returned
  cases eventFlagsWaitStep_cases replied with
  | refuses => exact absurd outcome (by simp [StepResult.reply, reportMatched])
  | arms => exact absurd outcome (by simp [StepResult.goto])
  | @returns timeout after value matched decided =>
      obtain ⟨rfl, rfl⟩ := Reply.matched.inj (Outcome.reply.inj outcome)
      generalize ended : (after, Progress.returned (true, matched)) = pair at decided
      cases decided with
      | satisfied running met =>
          obtain ⟨_, rfl⟩ := Prod.mk.inj (Progress.returned.inj (Prod.mk.inj ended).2)
          refine ⟨.task task, (middle.kernel.eventFlags index).bits, _, ?_, .of_met met, rfl⟩
          rw [emittedSame]
          exact List.mem_append_right _ (List.mem_append_left _ (List.mem_singleton.mpr rfl))
      | _ => exact absurd (Prod.mk.inj ended).2 (by simp)
  | waits => exact absurd outcome (by simp [StepResult.goto])
  | expires => exact absurd outcome (by simp [StepResult.reply, reportMatched])
  | resumes => exact absurd outcome (by simp [StepResult.goto])
  | delivers =>
      obtain ⟨_, rfl⟩ := Reply.matched.inj (Outcome.reply.inj outcome)
      obtain ⟨thread, bits, evaluated, met, matched⟩ := delivered (by
        rw [System.view, inCall]
        rfl)
      refine ⟨thread, bits, bits &&& request.mask, ?_, .of_met met, ?_⟩
      · exact List.mem_append_left _ (List.mem_append_right _ evaluated)
      · rw [← matched]
        rfl

/-- A step of a wait changes the bits only if it returns true. -/
theorem System.wait_step_bits
    {point : Point}
    (step : system.step cfg .advance = some (after, emitted))
    (active : system.activeThread = some (.task task))
    (inCall : system.frames (.task task) =
      .inCall (.eventFlagsWait (some index) request ticks matchedBits) point)
    (unsatisfied : ∀ reported, Event.returned (.task task)
      (.eventFlagsWait (some index) request ticks matchedBits) (.matched true reported) ∉
        emitted) :
    (after.kernel.eventFlags index).bits = (system.kernel.eventFlags index).bits := by
  cases System.stepped step with
  | @advance thread call now result nowActive nowInCall stepped =>
      obtain rfl := Option.some.inj (active.symm.trans nowActive)
      obtain ⟨rfl, rfl⟩ := Frame.inCall.inj (inCall.symm.trans nowInCall)
      change (result.kernel.eventFlags index).bits = _
      cases eventFlagsWaitStep_cases stepped with
      | @returns timeout kernel value matched decided =>
          change (kernel.eventFlags index).bits = _
          generalize ended : (kernel, Progress.returned (value, matched)) = pair at decided
          cases decided with
          | refused =>
              obtain ⟨rfl, _⟩ := Prod.mk.inj ended
              rfl
          | unblocked =>
              obtain ⟨rfl, _⟩ := Prod.mk.inj ended
              rfl
          | satisfied =>
              obtain ⟨rfl, _⟩ := Prod.mk.inj (Progress.returned.inj (Prod.mk.inj ended).2)
              exact absurd (List.mem_append_right _ (List.mem_singleton.mpr rfl))
                (unsatisfied _)
          | waits => exact absurd (Prod.mk.inj ended).2 (by simp)
      | @waits timeout kernel decided =>
          change (kernel.eventFlags index).bits = _
          generalize ended : (kernel, Progress.waiting) = pair at decided
          cases decided with
          | waits =>
              obtain ⟨rfl, _⟩ := Prod.mk.inj ended
              rfl
          | _ => exact absurd (Prod.mk.inj ended).2 (by simp)
      | _ => rfl
  | user => rfl

/-- A wait that returns false reports no bits. -/
theorem CallSpan.matched_false
    {reported : Option Word}
    (span : CallSpan cfg task (.eventFlagsWait (some index) request ticks matchedBits) start
      finish during (.matched false reported)) :
    reported = if matchedBits then some 0 else none := by
  obtain ⟨_, _, middle, _, _, _, _, _, _, stepped, returned, _⟩ := span
  obtain ⟨point, result, _, _, replied, outcome, _⟩ := (System.stepped stepped).returned returned
  cases eventFlagsWaitStep_cases replied with
  | refuses => exact (Reply.matched.inj (Outcome.reply.inj outcome)).2.symm
  | arms => exact absurd outcome (by simp [StepResult.goto])
  | @returns timeout after value matched decided =>
      obtain ⟨rfl, rfl⟩ := Reply.matched.inj (Outcome.reply.inj outcome)
      generalize ended : (after, Progress.returned (false, matched)) = pair at decided
      cases decided with
      | refused =>
          obtain ⟨_, rfl⟩ := Prod.mk.inj (Progress.returned.inj (Prod.mk.inj ended).2)
          rfl
      | unblocked =>
          obtain ⟨_, rfl⟩ := Prod.mk.inj (Progress.returned.inj (Prod.mk.inj ended).2)
          rfl
      | satisfied => exact absurd (Prod.mk.inj ended).2 (by simp)
      | waits => exact absurd (Prod.mk.inj ended).2 (by simp)
  | waits => exact absurd outcome (by simp [StepResult.goto])
  | expires => exact (Reply.matched.inj (Outcome.reply.inj outcome)).2.symm
  | resumes => exact absurd outcome (by simp [StepResult.goto])
  | delivers => exact absurd outcome (by simp [StepResult.reply, reportMatched])

/-- A wait that a set has completed stays completed until it returns true. -/
theorem Core.completed_step
    (core : Core system) (step : system.step cfg action = some (after, emitted))
    (completed : system.view task =
      .flying (.eventFlagsWait (some index) request ticks matchedBits)) :
    after.view task = .flying (.eventFlagsWait (some index) request ticks matchedBits) ∨
      ∃ reported, emitted = [.returned (.task task)
        (.eventFlagsWait (some index) request ticks matchedBits) (.matched true reported)] := by
  rcases core.flying_step step completed with same | @⟨point, result, active, inCall, stepped⟩
  · exact Or.inl same
  · have awake : (system.kernel.tasks task).state ≠ .blocked := by simp [core.active_awake active]
    rw [System.view, inCall] at completed
    cases eventFlagsWaitStep_cases stepped with
    | refuses => exact absurd completed (by simp [waitView])
    | arms => exact absurd completed (by simp [waitView])
    | returns => exact absurd completed (by simp [waitView])
    | waits => exact absurd completed (by simp [waitView])
    | expires unsignaled => exact absurd completed (by simp [waitView, awake, unsignaled])
    | resumes =>
        left
        rw [System.view_setFrame_self]
        rfl
    | delivers => exact Or.inr ⟨_, rfl⟩

/-- The next return of a wait that a set has completed is true. -/
theorem Core.completed_returns
    {during : List Event} {middle : System} {call : Call} {reply : Reply}
    (core : Core system)
    (completed : system.view task =
      .flying (.eventFlagsWait (some index) request ticks matchedBits))
    (run : (forge cfg).RunFrom Machine.anyStep system during middle)
    (unreturned : ∀ other value, Event.returned (.task task) other value ∉ during)
    (step : middle.step cfg action = some (after, emitted))
    (returned : Event.returned (.task task) call reply ∈ emitted) :
    ∃ reported, reply = .matched true reported := by
  obtain ⟨middleCore, kept⟩ := kept_until_return
    (motive := fun state => Core state ∧ state.view task =
      .flying (.eventFlagsWait (some index) request ticks matchedBits)) ⟨core, completed⟩
    (fun emitted state next action held _ stepped silent => by
      refine ⟨held.1.step stepped, (held.1.completed_step stepped held.2).resolve_right ?_⟩
      rintro ⟨reported, rfl⟩
      exact silent _ _ (List.mem_singleton.mpr rfl)) run unreturned
  obtain ⟨_, _, _, _, _, _, finish, _⟩ := (System.stepped step).returned returned
  rcases middleCore.completed_step step kept with still | ⟨reported, only⟩
  · rw [finish, System.view_setFrame_self] at still
    exact absurd still (by simp [waitView])
  · rw [only] at returned
    obtain ⟨_, _, rfl⟩ := Event.returned.inj (List.mem_singleton.mp returned)
    exact ⟨reported, rfl⟩

end Spans

/-- The bits that a step judges are those of the object, with the new ones of a set. -/
theorem Stepped.evaluated
    {cfg : Config} {system after : System} {action : Action} {events : List Event}
    {thread : Thread} {index : Nat} {bits : Word}
    (step : Stepped cfg system action after events)
    (present : Event.evaluated thread index bits ∈ events) :
    bits = (system.kernel.eventFlags index).bits ∨
      ∃ added point, system.frames thread =
        .inCall (.eventFlagsSet (some index) added) point ∧
        bits = (system.kernel.eventFlags index).bits ||| added := by
  obtain ⟨caller, call, point, result, inCall, rfl, observed⟩ :=
    step.observed present (fun _ _ => Event.noConfusion) (fun _ _ _ => Event.noConfusion)
  unfold observe at observed
  split at observed
  · exact absurd observed (by simp)
  · exact absurd observed (by simp)
  · obtain ⟨rfl, rfl, rfl⟩ := Event.evaluated.inj (List.mem_singleton.mp observed)
    exact Or.inr ⟨_, point, inCall, rfl⟩
  · split at observed
    · obtain ⟨rfl, rfl, rfl⟩ := Event.evaluated.inj (List.mem_singleton.mp observed)
      exact Or.inl rfl
    · exact absurd observed List.not_mem_nil
  · exact absurd observed List.not_mem_nil

/-- No event-flag wait is missed, and what it reports was true at one instant. -/
theorem event_flag_waits_never_missed
    {cfg : Config} {events : List Event} {system : System}
    (run : Run cfg events system) (index : Nat) :
    (∀ task, (system.kernel.tasks task).state = .blocked →
      (system.kernel.tasks task).waitReason = .eventFlags →
      (system.kernel.tasks task).waitObject = some (.eventFlags index) →
      eventFlagsConditionMet (system.kernel.eventFlags index).bits
        (system.kernel.tasks task).waitFlagsMask (system.kernel.tasks task).waitFlagsAll =
          false) ∧
    (∀ task request ticks matchedBits finish during reported,
      CallSpan cfg task (.eventFlagsWait (some index) request ticks matchedBits) system finish
        during (.matched true reported) →
      ∃ thread bits matched, Event.evaluated thread index bits ∈ during ∧
        matched &&& request.mask = matched ∧
        (request.waitAll = true → matched = request.mask) ∧
        (request.waitAll = false → matched ≠ 0) ∧
        matched = bits &&& request.mask ∧
        reported = if matchedBits then some matched else none) ∧
    (∀ action after emitted thread bits, system.step cfg action = some (after, emitted) →
      Event.evaluated thread index bits ∈ emitted →
      bits = (system.kernel.eventFlags index).bits ∨
        ∃ added point, system.frames thread =
          .inCall (.eventFlagsSet (some index) added) point ∧
          bits = (system.kernel.eventFlags index).bits ||| added) ∧
    (∀ task request ticks matchedBits finish during reported,
      CallSpan cfg task (.eventFlagsWait (some index) request ticks matchedBits) system finish
        during (.matched false reported) →
      reported = if matchedBits then some 0 else none) ∧
    (∀ task request ticks matchedBits point after emitted,
      system.activeThread = some (.task task) →
      system.frames (.task task) =
        .inCall (.eventFlagsWait (some index) request ticks matchedBits) point →
      system.step cfg .advance = some (after, emitted) →
      (∀ reported, Event.returned (.task task)
        (.eventFlagsWait (some index) request ticks matchedBits) (.matched true reported) ∉
          emitted) →
      (after.kernel.eventFlags index).bits = (system.kernel.eventFlags index).bits) ∧
    (∀ task request ticks matchedBits,
      system.view task = .flying (.eventFlagsWait (some index) request ticks matchedBits) →
      ∀ during middle action after emitted call reply,
        (forge cfg).RunFrom Machine.anyStep system during middle →
        (∀ other value, Event.returned (.task task) other value ∉ during) →
        middle.step cfg action = some (after, emitted) →
        Event.returned (.task task) call reply ∈ emitted →
        ∃ reported, reply = .matched true reported) := by
  have core := Core.of_run run
  have ok := FlagsOk.of_run index run
  refine ⟨?_, ?_, ?_, ?_, ?_, ?_⟩
  · intro task blocked reason object
    exact (ok.unmet core blocked reason object).2
  · intro task request ticks matchedBits finish during reported span
    obtain ⟨thread, bits, matched, evaluated, sound, same⟩ := span.matched_true run
    exact ⟨thread, bits, matched, evaluated, sound.subset, sound.all, sound.any,
      sound.simultaneous, same⟩
  · intro action after emitted thread bits step evaluated
    exact (System.stepped step).evaluated evaluated
  · intro task request ticks matchedBits finish during reported span
    exact span.matched_false
  · intro task request ticks matchedBits point after emitted active inCall step unsatisfied
    exact System.wait_step_bits step active inCall unsatisfied
  · intro task request ticks matchedBits completed during middle action after emitted call reply
      later unreturned step returned
    exact core.completed_returns completed later unreturned step returned

/-- A higher task waits for two bits, which the other task sets one by one. -/
def flagsInside : List Action :=
  [.advance, .advance, .switchFrom 0,
    .invoke (.eventFlagsSet (some 0) 1), .advance,
    .invoke (.eventFlagsSet (some 0) 2), .advance, .switchFrom 1, .advance]

/-- The wait reports both bits. -/
theorem wait_reports_both_bits :
    ∃ events system finish during, Run Config.default events system ∧
      CallSpan Config.default 0 (.eventFlagsWait (some 0) ⟨3, true, true⟩ 9 true) system finish
        during (.matched true (some 3)) ∧
      ∃ thread bits, Event.evaluated thread 0 bits ∈ during ∧ (3 : Word) = bits &&& 3 := by
  obtain ⟨events, system, run, checked⟩ :=
    Machine.RunFrom.exists_of_execFrom (forge Config.default) Machine.anyStep System.boot
      (Action.bootProgram [.eventFlagsInit (some 0)] [2, 1])
      (fun _ system => system.checkSpan Config.default 0
        (.eventFlagsWait (some 0) ⟨3, true, true⟩ 9 true) (.matched true (some 3)) flagsInside)
      (by decide +kernel)
  obtain ⟨finish, during, span⟩ := System.span_of_checkSpan checked
  obtain ⟨thread, bits, matched, evaluated, _, _, _, simultaneous, reported⟩ :=
    (event_flag_waits_never_missed run 0).2.1 0 _ _ _ finish during _ span
  obtain rfl : (3 : Word) = matched := by simpa using reported
  exact ⟨events, system, finish, during, run, span, thread, bits, evaluated, simultaneous⟩

end ForgeKernel
