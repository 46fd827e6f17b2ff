import ForgeKernel.Library.Clock
import ForgeKernel.Invariant.Waits

/-!
# Timeouts across tick wrap-around

The tick counter is the remainder of an unbounded number of ticks.  A call with
a finite timeout computes one deadline, and every round of its wait stores that
deadline again.  As long as the caller gets the CPU within half a period of its
deadline, the wrapped comparisons agree with comparisons of unbounded times.
-/

namespace ForgeKernel

open Machines

/-! ## The tick counter -/

theorem Effect.tickCount
    {cfg : Config} {cpu : Cpu} {before after : Kernel} {slot : Nat} {call : Call} {point : Point}
    {outcome : Outcome} (effect : Effect cfg cpu before slot call point after outcome) :
    after.tickCount = before.tickCount := by
  cases effect with
  | passes control => exact control.tickCount
  | resets _ same => rw [same]; rfl
  | wakes _ _ woken => exact woken.tickCount
  | waits _ _ _ _ blocked => rw [blocked]; rfl
  | reserves _ _ reserved => rw [(taskCreateReserve_some reserved).2]; rfl
  | @builds index _ built =>
      rw [built]
      exact (taskCreateBuild_facts cfg before index).1.tickCount
  | @publishes index initialSp _ _ published =>
      rw [published]
      exact (taskCreatePublish_facts before index initialSp).1.tickCount
  | starts _ started =>
      have outcome := schedulerStart_outcome cfg cpu before
      rw [started] at outcome
      cases outcome with
      | stopped _ _ _ tickCount => exact tickCount
      | started launched => exact launched.tickCount

/-- Only SysTick moves the clock. -/
inductive ClockStep (system : System) : Action → System → Prop
  | ticks {after : System}
      (time : after.time = system.time + 1)
      (tickCount : after.kernel.tickCount = system.kernel.tickCount + 1) :
      ClockStep system .sysTick after
  | stands {action : Action} {after : System}
      (other : action ≠ .sysTick)
      (time : after.time = system.time)
      (tickCount : after.kernel.tickCount = system.kernel.tickCount) :
      ClockStep system action after

theorem Core.clockStep
    {cfg : Config} {system after : System} {action : Action} {events : List Event}
    (core : Core system) (step : system.step cfg action = some (after, events)) :
    ClockStep system action after := by
  cases System.stepped step with
  | sysTick =>
      refine .ticks rfl ?_
      change (sysTickHandler system.kernel).tickCount = _
      cases running : system.kernel.running with
      | false =>
          rw [sysTickHandler_stopped running]
          rfl
      | true => exact (sysTickHandler_expired core.waitsNamed running).1.woken.tickCount
  | @pendSv psp live =>
      refine .stands (by simp) rfl ?_
      rcases pendSvHandler_outcome psp core.control live with stopped | resumed
      · exact stopped.tickCount
      · exact resumed.tickCount
  | invoke => exact .stands (by simp) rfl rfl
  | advance _ _ stepped =>
      exact .stands (by simp) rfl (Call.step_advance stepped).effect.tickCount
  | user _ _ _ plain => exact .stands plain rfl rfl

theorem ClockStep.counted
    {system after : System} {action : Action} (moved : ClockStep system action after)
    (counted : system.kernel.tickCount = BitVec.ofNat 32 system.time) :
    after.kernel.tickCount = BitVec.ofNat 32 after.time := by
  cases moved with
  | ticks time tickCount =>
      rw [time, tickCount, counted, BitVec.ofNat_add]
      rfl
  | stands _ time tickCount => rw [time, tickCount, counted]

/-- The counter is the number of ticks modulo its width. -/
theorem tickCount_eq
    {cfg : Config} {allowed : System → Action → Prop} {events : List Event} {system : System}
    (run : (forge cfg).Run allowed events system) :
    system.kernel.tickCount = BitVec.ofNat 32 system.time := by
  refine (run.stateInvariant (motive := fun system => Core system ∧
    system.kernel.tickCount = BitVec.ofNat 32 system.time) ⟨Core.initial, rfl⟩ ?_).2
  rintro _ middle next action ⟨core, counted⟩ _ stepped
  exact ⟨core.step stepped, (core.clockStep stepped).counted counted⟩

/-- The half-range comparison is exact within half a period. -/
theorem tickDeadlineReached_iff
    {time deadline : Nat} (early : deadline < time + 2 ^ 31) (late : time < deadline + 2 ^ 31) :
    tickDeadlineReached (BitVec.ofNat 32 time) (BitVec.ofNat 32 deadline) = true ↔
      deadline ≤ time := by
  have half := Clocks.sub_lt_half_iff (show 0 < 32 by decide) early late
  rw [← half, tickDeadlineReached, decide_eq_true_eq, BitVec.le_def]
  exact Nat.lt_succ_iff.symm

theorem waitTimeoutRemaining_eq_none_iff
    {time deadline : Nat} (early : deadline < time + 2 ^ 31) (late : time < deadline + 2 ^ 31) :
    waitTimeoutRemaining (BitVec.ofNat 32 time) ⟨false, BitVec.ofNat 32 deadline⟩ = none ↔
      deadline ≤ time := by
  rw [← tickDeadlineReached_iff early late]
  simp [waitTimeoutRemaining]

/-- The timeout of a call that starts at tick `now`. -/
def timeoutFrom (now ticks : Word) : WaitTimeout :=
  if ticks = waitForever then ⟨true, 0⟩ else ⟨false, now + ticks⟩

/-- Two timeouts end at the same tick. -/
def WaitTimeout.Same (first second : WaitTimeout) : Prop :=
  first.waitForever = second.waitForever ∧
    (second.waitForever = false → first.deadline = second.deadline)

/-- A remaining time is never `FR_WAIT_FOREVER`, and leads back to the deadline. -/
theorem waitTimeoutRemaining_some
    {now ticks : Word} {timeout : WaitTimeout}
    (remaining : waitTimeoutRemaining now timeout = some ticks) :
    (timeoutFrom now ticks).Same timeout := by
  unfold waitTimeoutRemaining at remaining
  unfold timeoutFrom
  split at remaining
  · rename_i endless
    rw [if_pos (Option.some.inj remaining).symm]
    exact ⟨endless.symm, fun finite => absurd (endless.symm.trans finite) (by decide)⟩
  · rename_i finite
    split at remaining
    · exact absurd remaining (by simp)
    · rename_i early
      obtain rfl := Option.some.inj remaining
      have bounded : timeout.deadline - now ≠ waitForever := by
        intro endless
        refine early ?_
        have opposite : now - timeout.deadline = 1 := by
          rw [← neg_sub, endless]
          decide
        rw [tickDeadlineReached, opposite]
        decide
      rw [if_neg bounded]
      exact ⟨(by simpa using finite : timeout.waitForever = false).symm,
        fun _ => Clocks.add_sub_self _ _⟩

/-! ## The deadline of a call -/

/-- The timeout that a point carries. -/
def Point.timeout : Point → Option WaitTimeout
  | .armed timeout | .suspended timeout | .signaled timeout => some timeout
  | _ => none

theorem Point.isGuarded_of_timed
    {point : Point} {timeout : WaitTimeout}
    (timed : point = .asleep ∨ point.timeout = some timeout) : point.isGuarded = true := by
  cases point <;> simp_all [Point.timeout, Point.isGuarded]

theorem Point.isOpening_of_isGuarded
    {point : Point} (guarded : point.isGuarded = true) : point.isOpening = false := by
  cases point <;> simp_all [Point.isGuarded, Point.isOpening]

/-- A task in a call whose clock has started: it keeps the timeout of the call, and
every round of its wait stores the same deadline. -/
structure Limited (task : Nat) (call : Call) (timeout : WaitTimeout) (system : System) :
    Prop where
  stands : ∃ point, system.frames (.task task) = .inCall call point ∧
    (point = .asleep ∨ point.timeout = some timeout)
  hasDeadline : (system.kernel.tasks task).state = .blocked →
    (system.kernel.tasks task).waitHasDeadline = !timeout.waitForever
  deadline : (system.kernel.tasks task).state = .blocked → timeout.waitForever = false →
    (system.kernel.tasks task).waitDeadline = timeout.deadline

/-- How a task came to be blocked: it was before, or it has just found time left. -/
inductive BlockedBy
    (task : Nat) (timeout : WaitTimeout) (system : System) (action : Action) : Prop
  | before (blocked : (system.kernel.tasks task).state = .blocked)
  | round
      (moves : action = .advance)
      (active : system.activeThread = some (.task task))
      (remains : waitTimeoutRemaining system.kernel.tickCount timeout ≠ none)

namespace Limited

variable {cfg : Config} {task : Nat} {call : Call} {timeout : WaitTimeout}
  {system after : System} {action : Action} {events : List Event}

/-- A task that blocks stores the deadline of its timeout. -/
theorem of_waits
    {reason : WaitReason} {object : Option ObjectRef} {ticks : Word} {trace : Trace}
    {priorities : Nat → Nat} {memory : Memory} {next : Point}
    (same : (timeoutFrom system.kernel.tickCount ticks).Same timeout)
    (timed : next = .asleep ∨ next.timeout = some timeout) :
    Limited task call timeout
      ({ system with
        kernel := system.kernel.waiting call task reason object ticks trace priorities
        memory := memory }.setFrame (.task task) (.inCall call next)) := by
  have waiting := system.kernel.waiting_self call task reason object ticks trace priorities
  refine ⟨⟨next, Function.update_self .., timed⟩, fun _ => ?_, fun _ finite => ?_⟩
  · rw [← same.1]
    simp only [System.setFrame, waiting, Task.beginWait, timeoutFrom]
    split <;> simp_all
  · rw [← same.2 finite]
    have bounded : ticks ≠ waitForever := by
      rintro rfl
      rw [← same.1] at finite
      simp [timeoutFrom] at finite
    simp [System.setFrame, waiting, Task.beginWait, timeoutFrom, bounded]

/-- Bystanders keep their wait or lose it. -/
theorem bystander
    {waker : Waker}
    (limited : Limited task call timeout system) (core : Core system)
    (frame : after.frames (.task task) = system.frames (.task task))
    (move : WaitMove waker (system.kernel.tasks task) (after.kernel.tasks task)) :
    Limited task call timeout after ∧
      ((after.kernel.tasks task).state = .blocked →
        BlockedBy task timeout system action) := by
  have stands := limited.stands
  rw [← frame] at stands
  cases move with
  | stays blocked wait =>
      refine ⟨⟨stands, fun now => ?_, fun now finite => ?_⟩,
        fun now => .before (blocked.mp now)⟩
      · rw [← limited.hasDeadline (blocked.mp now)]
        exact congrArg WaitPart.hasDeadline wait
      · rw [← limited.deadline (blocked.mp now) finite]
        exact congrArg WaitPart.deadline wait
  | fresh created =>
      obtain ⟨point, inCall, _⟩ := limited.stands
      rw [core.fresh task created] at inCall
      exact absurd inCall (by simp)
  | expires _ _ free =>
      exact ⟨⟨stands, fun now => absurd now free, fun now => absurd now free⟩,
        fun now => absurd now free⟩
  | signaled _ _ _ free =>
      exact ⟨⟨stands, fun now => absurd now free, fun now => absurd now free⟩,
        fun now => absurd now free⟩

/-- The task's own steps inside the call. -/
theorem own
    {point : Point} {result : StepResult}
    (limited : Limited task call timeout system) (core : Core system)
    (active : system.activeThread = some (.task task))
    (inCall : system.frames (.task task) = .inCall call point)
    (step : Advance cfg system.cpu system.kernel system.memory task call point result)
    (stays : ∀ value, result.outcome ≠ .reply value) :
    Limited task call timeout
        ({ system with
          kernel := result.kernel
          memory := result.memory }.setFrame (.task task) (result.outcome.frame call)) ∧
      ((result.kernel.tasks task).state = .blocked →
        BlockedBy task timeout system .advance) := by
  have awake : (system.kernel.tasks task).state ≠ .blocked := by
    rw [core.active_awake active]
    decide
  obtain ⟨_, same, timed⟩ := limited.stands
  obtain ⟨_, rfl⟩ := Frame.inCall.inj (inCall.symm.trans same)
  have guarded := Point.isGuarded_of_timed timed
  obtain ⟨effect, _, _, _⟩ := step
  generalize result.outcome = outcome at effect stays ⊢
  generalize result.kernel = kernel at effect ⊢
  cases effect with
  | passes _ _ tasks next =>
      cases next with
      | reply => exact absurd rfl (stays _)
      | guarded start =>
          subst start
          exact absurd guarded (by decide)
      | svc start =>
          subst start
          exact absurd guarded (by decide)
      | armed start =>
          rw [Point.isOpening_of_isGuarded guarded] at start
          exact absurd start Bool.false_ne_true
      | @signaled kept resumed _ =>
          subst resumed
          obtain rfl : kept = timeout := by simpa [Point.timeout] using timed
          have still : (kernel.tasks task).state ≠ .blocked := by
            rw [tasks]
            exact awake
          refine ⟨⟨⟨.signaled kept, ?_, Or.inr rfl⟩, ?_, ?_⟩, ?_⟩
          · simp [System.setFrame, Outcome.frame]
          · exact fun blocked => absurd blocked still
          · exact fun blocked => absurd blocked still
          · exact fun blocked => absurd blocked still
  | resets => exact absurd rfl (stays _)
  | wakes => exact absurd rfl (stays _)
  | @waits current reason object ticks trace priorities next runs wait accepted timing blocked =>
      obtain rfl : task = current := Thread.task.inj (core.active_eq active runs.currentTask)
      cases timing with
      | sleep => exact absurd guarded (by decide)
      | @timed _ _ kept _ start remaining =>
          obtain rfl : kept = timeout := by
            rcases start with rfl | rfl <;> simpa [Point.timeout] using timed
          subst blocked
          refine ⟨.of_waits (waitTimeoutRemaining_some remaining) (Or.inr rfl),
            fun _ => .round rfl active ?_⟩
          rw [remaining]
          simp
  | reserves start =>
      subst start
      exact absurd guarded (by decide)
  | builds started =>
      subst started
      exact absurd guarded (by simp [Point.isGuarded])
  | publishes => exact absurd rfl (stays _)
  | starts start =>
      subst start
      exact absurd guarded (by decide)

/-- Every step inside the call. -/
theorem step
    (limited : Limited task call timeout system) (core : Core system)
    (step : system.step cfg action = some (after, events))
    (unreturned : ∀ other reply, Event.returned (.task task) other reply ∉ events) :
    Limited task call timeout after ∧
      ((after.kernel.tasks task).state = .blocked →
        BlockedBy task timeout system action) := by
  obtain ⟨_, frame, _⟩ := limited.stands
  cases core.taskStep step task with
  | invokes _ user =>
      rw [user] at frame
      exact absurd frame (by simp)
  | @advances called point result active inCall stepped =>
      obtain ⟨rfl, rfl⟩ := Frame.inCall.inj (inCall.symm.trans frame)
      refine limited.own core active inCall (Call.step_advance stepped) ?_
      intro value replied
      refine unreturned called value ?_
      simp [replied, Outcome.returns]
  | watches same _ move => exact limited.bystander core same move

/-- A limited wait whose deadline has not come is not due, and one that is due ends at
its deadline. -/
theorem due_iff
    {time deadline : Nat}
    (limited : Limited task call ⟨false, BitVec.ofNat 32 deadline⟩ system)
    (blocked : (system.kernel.tasks task).state = .blocked)
    (early : deadline < time + 2 ^ 31) (late : time < deadline + 2 ^ 31) :
    (system.kernel.tasks task).dueAt (BitVec.ofNat 32 time) = true ↔ deadline ≤ time := by
  rw [Task.dueAt_iff, limited.hasDeadline blocked, limited.deadline blocked rfl,
    tickDeadlineReached_iff early late]
  simp [blocked]

end Limited

/-! ## Unbounded time -/

/-- The caller takes its steps before half a period has passed since its deadline. -/
def OnTime (task deadline : Nat) (system : System) (action : Action) : Prop :=
  action = .advance → system.activeThread = some (.task task) → system.time < deadline + 2 ^ 31

instance (task deadline : Nat) (system : System) (action : Action) :
    Decidable (OnTime task deadline system action) :=
  inferInstanceAs (Decidable (_ → _ → _))

/-- A limited task, with its deadline as an unbounded time. -/
structure Punctual (task : Nat) (call : Call) (start deadline : Nat) (system : System) :
    Prop where
  core : Core system
  clock : system.kernel.tickCount = BitVec.ofNat 32 system.time
  limited : Limited task call ⟨false, BitVec.ofNat 32 deadline⟩ system
  began : start ≤ system.time
  near : deadline < start + 2 ^ 31
  waits : (system.kernel.tasks task).state = .blocked → system.time < deadline

namespace Punctual

variable {cfg : Config} {task start deadline : Nat} {call : Call}
  {system after : System} {action : Action} {events : List Event}

theorem timeout_eq
    {point : Point} {timeout : WaitTimeout}
    (punctual : Punctual task call start deadline system)
    (inCall : system.frames (.task task) = .inCall call point)
    (carried : point.timeout = some timeout) :
    timeout = ⟨false, BitVec.ofNat 32 deadline⟩ := by
  obtain ⟨_, frame, asleep | same⟩ := punctual.limited.stands
  · obtain ⟨_, rfl⟩ := Frame.inCall.inj (inCall.symm.trans frame)
    rw [asleep] at carried
    exact absurd carried (by simp [Point.timeout])
  · obtain ⟨_, rfl⟩ := Frame.inCall.inj (inCall.symm.trans frame)
    exact Option.some.inj (carried.symm.trans same)

/-- A tick that leaves the task blocked has not reached the deadline. -/
theorem early_of_tick
    (punctual : Punctual task call start deadline system)
    (limited : Limited task call ⟨false, BitVec.ofNat 32 deadline⟩ after)
    (tick : system.step cfg .sysTick = some (after, events))
    (before : (system.kernel.tasks task).state = .blocked)
    (blocked : (after.kernel.tasks task).state = .blocked) : after.time < deadline := by
  have waits := punctual.waits before
  have began := punctual.began
  have near := punctual.near
  have counted := (punctual.core.clockStep tick).counted punctual.clock
  cases System.stepped tick with
  | sysTick =>
      have running := punctual.core.running_of_blocked before
      have registered := punctual.core.registered_of_blocked before
      obtain ⟨expired, _⟩ := sysTickHandler_expired punctual.core.waitsNamed running
      have notDue := expired.done task registered
      have now : system.kernel.ticked.tickCount = BitVec.ofNat 32 (system.time + 1) := by
        rw [← counted]
        exact expired.woken.tickCount.symm
      rw [now, Bool.eq_false_iff, ne_eq, limited.due_iff blocked (by omega) (by omega)] at notDue
      change system.time + 1 < deadline
      omega
  | user _ _ _ plain => exact absurd rfl plain

/-- A wait that ends by timeout ends in the tick of its deadline. -/
theorem completed_by_tick
    (punctual : Punctual task call start deadline system)
    (step : system.step cfg action = some (after, events))
    (before : (system.kernel.tasks task).state = .blocked)
    (free : (after.kernel.tasks task).state ≠ .blocked)
    (result : (after.kernel.tasks task).waitResult = .timeout) :
    action = .sysTick ∧ after.time = deadline := by
  have waits := punctual.waits before
  have began := punctual.began
  have near := punctual.near
  have asleep : system.activeThread ≠ some (.task task) := by
    intro active
    rw [punctual.core.active_awake active] at before
    exact absurd before (by decide)
  have moved := punctual.core.clockStep step
  cases punctual.core.taskStep step task with
  | invokes active => exact absurd active asleep
  | advances active => exact absurd active asleep
  | watches _ ticks move =>
      cases move with
      | stays blocked => exact absurd (blocked.mpr before) free
      | fresh created =>
          rw [created] at before
          exact absurd before (by decide)
      | expires tick due =>
          obtain ⟨rfl, rfl⟩ := ticks _ tick
          refine ⟨rfl, ?_⟩
          cases moved with
          | ticks time tickCount =>
              have now : system.kernel.tickCount + 1 = BitVec.ofNat 32 (system.time + 1) := by
                rw [punctual.clock, BitVec.ofNat_add]
                rfl
              rw [now, punctual.limited.due_iff before (by omega) (by omega)] at due
              omega
          | stands other => exact absurd rfl other
      | signaled _ _ _ _ signaled =>
          rw [signaled] at result
          exact absurd result (by decide)

theorem step
    (punctual : Punctual task call start deadline system)
    (onTime : OnTime task deadline system action)
    (step : system.step cfg action = some (after, events))
    (unreturned : ∀ other reply, Event.returned (.task task) other reply ∉ events) :
    Punctual task call start deadline after := by
  obtain ⟨limited, cause⟩ := punctual.limited.step punctual.core step unreturned
  have began := punctual.began
  have near := punctual.near
  have moved := punctual.core.clockStep step
  refine ⟨punctual.core.step step, moved.counted punctual.clock, limited, ?_, near,
    fun blocked => ?_⟩
  · cases moved with
    | ticks time => omega
    | stands _ time => omega
  · cases cause blocked with
    | before was =>
        cases moved with
        | ticks => exact punctual.early_of_tick limited step was blocked
        | stands _ time =>
            rw [time]
            exact punctual.waits was
    | round moves active remains =>
        subst moves
        have late := onTime rfl active
        have time : after.time = system.time := by
          cases moved with
          | stands _ time => exact time
        rw [punctual.clock, ne_eq, waitTimeoutRemaining_eq_none_iff (by omega) late] at remains
        omega

end Punctual

/-! ## The step that starts the clock -/

/-- The step of `task` in which `fr_wait_timeout_start` of its call has run, or in which
its sleep has blocked. -/
structure ClockStarts
    (cfg : Config) (task : Nat) (call : Call) (ticks : Word) (before started : System) :
    Prop where
  active : before.activeThread = some (.task task)
  steps : ∃ emitted, before.step cfg .advance = some (started, emitted)
  opening : ∃ point, before.frames (.task task) = .inCall call point ∧ point.isOpening = true
  stands : (call = .taskSleep ticks ∧ started.frames (.task task) = .inCall call .asleep) ∨
    (call.timeoutTicks = ticks ∧
      ∃ timeout, started.frames (.task task) = .inCall call (.armed timeout))

theorem waitTimeoutStart_eq
    {now ticks : Word} {timeout : WaitTimeout}
    (started : waitTimeoutStart now ticks = some timeout) : timeout = timeoutFrom now ticks := by
  unfold waitTimeoutStart at started
  unfold timeoutFrom
  split at started
  · exact absurd started (by simp)
  · split at started
    · rename_i endless
      rw [if_pos endless]
      exact (Option.some.inj started).symm
    · rename_i finite
      rw [if_neg finite]
      exact (Option.some.inj started).symm

namespace ClockStarts

variable {cfg : Config} {task : Nat} {call : Call} {ticks : Word} {before started : System}

/-- The timeout is computed from the tick of the starting step; a sleep is blocked at
once, for a time that is not zero. -/
theorem limited
    (clock : ClockStarts cfg task call ticks before started) (core : Core before) :
    started.time = before.time ∧
      Limited task call (timeoutFrom before.kernel.tickCount ticks) started ∧
      ((started.kernel.tasks task).state = .blocked ∨
        started.frames (.task task) = .inCall call .asleep → ticks ≠ 0) := by
  obtain ⟨active, ⟨emitted, step⟩, ⟨point, opening, early⟩, stands⟩ := clock
  have awake : (before.kernel.tasks task).state ≠ .blocked := by
    rw [core.active_awake active]
    decide
  cases System.stepped step with
  | user nowActive user =>
      obtain rfl := Option.some.inj (active.symm.trans nowActive)
      rw [opening] at user
      exact absurd user (by simp)
  | @advance thread other place result nowActive inCall stepped =>
      obtain rfl := Option.some.inj (active.symm.trans nowActive)
      obtain ⟨rfl, rfl⟩ := Frame.inCall.inj (opening.symm.trans inCall)
      refine ⟨rfl, ?_⟩
      have effect := (Call.step_advance stepped).effect
      simp only [System.setFrame, Function.update_self] at stands ⊢
      generalize result.outcome = outcome at effect stands ⊢
      generalize result.kernel = kernel at effect ⊢
      cases effect with
      | passes _ _ tasks next =>
          cases next with
          | armed _ _ began =>
              have still : (kernel.tasks task).state ≠ .blocked := by
                rw [tasks]
                exact awake
              simp only [Outcome.frame, Frame.inCall.injEq, reduceCtorEq, and_false,
                false_or] at stands
              rw [stands.1] at began
              refine ⟨⟨⟨_, Function.update_self .., Or.inr ?_⟩, ?_, ?_⟩, ?_⟩
              · rw [← waitTimeoutStart_eq began]
                rfl
              · exact fun blocked => absurd blocked still
              · exact fun blocked => absurd blocked still
              · rintro (blocked | asleep)
                · exact absurd blocked still
                · exact absurd asleep (by simp [Outcome.frame])
          | _ => simp [Outcome.frame] at stands
      | @waits current reason object delay trace priorities next runs _ accepted timing same =>
          obtain rfl : task = current :=
            Thread.task.inj (core.active_eq active runs.currentTask)
          cases timing with
          | timed => simp [Outcome.frame] at stands
          | sleep =>
              obtain rfl : delay = ticks := by simpa [Outcome.frame] using stands
              have positive : delay ≠ 0 := by
                rintro rfl
                exact accepted (by simp)
              subst same
              exact ⟨.of_waits ⟨rfl, fun _ => rfl⟩ (Or.inl rfl), fun _ => positive⟩
      | _ => simp [Outcome.frame] at stands

theorem punctual
    (clock : ClockStarts cfg task call ticks before started) (core : Core before)
    (counted : before.kernel.tickCount = BitVec.ofNat 32 before.time)
    (finite : ticks ≤ waitMaxFiniteTicks) :
    Punctual task call before.time (before.time + ticks.toNat) started := by
  obtain ⟨time, limited, positive⟩ := clock.limited core
  obtain ⟨emitted, step⟩ := clock.steps
  have small : ticks.toNat ≤ 2 ^ 31 - 1 := finite
  have bounded : ticks ≠ waitForever := by
    rintro rfl
    exact absurd finite (by decide)
  have timeout : timeoutFrom before.kernel.tickCount ticks =
      ⟨false, BitVec.ofNat 32 (before.time + ticks.toNat)⟩ := by
    rw [timeoutFrom, if_neg bounded, counted, BitVec.ofNat_add, BitVec.ofNat_toNat,
      BitVec.setWidth_eq]
  rw [timeout] at limited
  refine ⟨core.step step, (core.clockStep step).counted counted, limited, time.ge, by omega,
    fun blocked => ?_⟩
  have nonzero : ticks.toNat ≠ 0 := by
    intro zero
    exact positive (Or.inl blocked) (BitVec.eq_of_toNat_eq zero)
  omega

end ClockStarts

theorem Punctual.of_runFrom
    {cfg : Config} {task start deadline : Nat} {call : Call} {started system : System}
    {during : List Event}
    (punctual : Punctual task call start deadline started)
    (further : (forge cfg).RunFrom (OnTime task deadline) started during system)
    (unreturned : ∀ other reply, Event.returned (.task task) other reply ∉ during) :
    Punctual task call start deadline system :=
  kept_until_return punctual
    (fun _ _ _ _ held onTime stepped silent => held.step onTime stepped silent) further unreturned

theorem Limited.of_runFrom
    {cfg : Config} {allowed : System → Action → Prop} {task : Nat} {call : Call}
    {timeout : WaitTimeout} {started system : System} {during : List Event}
    (limited : Limited task call timeout started) (core : Core started)
    (further : (forge cfg).RunFrom allowed started during system)
    (unreturned : ∀ other reply, Event.returned (.task task) other reply ∉ during) :
    Core system ∧ Limited task call timeout system :=
  kept_until_return (motive := fun state => Core state ∧ Limited task call timeout state)
    ⟨core, limited⟩
    (fun _ _ _ _ held _ stepped silent =>
      ⟨held.1.step stepped, (held.2.step held.1 stepped silent).1⟩) further unreturned

/-- Ticks leave a wait without a deadline alone. -/
theorem Limited.endless_of_tick
    {cfg : Config} {task : Nat} {call : Call} {deadline : Word} {system after : System}
    {events : List Event}
    (limited : Limited task call ⟨true, deadline⟩ system) (core : Core system)
    (tick : system.step cfg .sysTick = some (after, events))
    (blocked : (system.kernel.tasks task).state = .blocked) :
    (after.kernel.tasks task).state = .blocked ∧
      (after.kernel.tasks task).waitPart = (system.kernel.tasks task).waitPart := by
  cases System.stepped tick with
  | sysTick =>
      cases core.sysTick_waitMove task with
      | stays same wait => exact ⟨same.mpr blocked, wait⟩
      | fresh created =>
          rw [created] at blocked
          exact absurd blocked (by decide)
      | expires _ due =>
          have finite := (Task.dueAt_iff.mp due).2.1
          rw [limited.hasDeadline blocked] at finite
          exact absurd finite Bool.false_ne_true
      | signaled caller => exact absurd caller (by simp)
  | user _ _ _ plain => exact absurd rfl plain

/-- Timeouts are exact for every start phase, wrap position and number of rounds. -/
theorem timeout_exact
    {cfg : Config} {task : Nat} {call : Call} {ticks : Word} {events : List Event}
    {before started : System}
    (run : Run cfg events before)
    (clock : ClockStarts cfg task call ticks before started) :
    (ticks ≤ waitMaxFiniteTicks → ∀ during system,
      (forge cfg).RunFrom (OnTime task (before.time + ticks.toNat)) started during system →
      (∀ other reply, Event.returned (.task task) other reply ∉ during) →
      system.kernel.tickCount = BitVec.ofNat 32 system.time ∧
      ((system.kernel.tasks task).state = .blocked →
        (system.kernel.tasks task).waitHasDeadline = true ∧
        (system.kernel.tasks task).waitDeadline =
          BitVec.ofNat 32 (before.time + ticks.toNat) ∧
        system.time < before.time + ticks.toNat) ∧
      (∀ action after emitted, system.step cfg action = some (after, emitted) →
        (system.kernel.tasks task).state = .blocked →
        (after.kernel.tasks task).state ≠ .blocked →
        (after.kernel.tasks task).waitResult = .timeout →
        action = .sysTick ∧ after.time = before.time + ticks.toNat) ∧
      (∀ point timeout, system.frames (.task task) = .inCall call point →
        point.timeout = some timeout →
        waitTimeoutRemaining system.kernel.tickCount timeout = none →
        system.time < before.time + ticks.toNat + 2 ^ 31 →
        before.time + ticks.toNat ≤ system.time)) ∧
    (ticks = 0 → ∀ during system,
      (forge cfg).RunFrom (OnTime task before.time) started during system →
      (∀ other reply, Event.returned (.task task) other reply ∉ during) →
      (system.kernel.tasks task).state ≠ .blocked) ∧
    (started.frames (.task task) = .inCall call .asleep → ticks ≠ 0) ∧
    (ticks = waitForever → ∀ during system,
      (forge cfg).RunFrom Machine.anyStep started during system →
      (∀ other reply, Event.returned (.task task) other reply ∉ during) →
      (system.kernel.tasks task).state = .blocked →
      ∀ after emitted, system.step cfg .sysTick = some (after, emitted) →
        (after.kernel.tasks task).state = .blocked ∧
        (after.kernel.tasks task).waitPart = (system.kernel.tasks task).waitPart) := by
  have core := Core.of_run run
  have counted := tickCount_eq run
  refine ⟨fun finite during system further unreturned => ?_,
    fun zero during system further unreturned => ?_, ?_,
    fun endless during system further unreturned blocked after emitted tick => ?_⟩
  · have punctual := (clock.punctual core counted finite).of_runFrom further unreturned
    refine ⟨punctual.clock, fun blocked => ?_, fun _ _ _ step => punctual.completed_by_tick step,
      fun point timeout inCall carried failed late => ?_⟩
    · exact ⟨punctual.limited.hasDeadline blocked, punctual.limited.deadline blocked rfl,
        punctual.waits blocked⟩
    · obtain rfl := punctual.timeout_eq inCall carried
      have began := punctual.began
      have near := punctual.near
      rw [punctual.clock, waitTimeoutRemaining_eq_none_iff (by omega) late] at failed
      exact failed
  · subst zero
    intro blocked
    have punctual := (clock.punctual core counted (by decide)).of_runFrom further unreturned
    exact absurd (punctual.waits blocked) (Nat.not_lt_of_le punctual.began)
  · exact fun asleep => (clock.limited core).2.2 (Or.inr asleep)
  · obtain ⟨_, limited, _⟩ := clock.limited core
    obtain ⟨_, step⟩ := clock.steps
    rw [timeoutFrom, if_pos endless] at limited
    obtain ⟨reached, limited⟩ := limited.of_runFrom (core.step step) further unreturned
    exact limited.endless_of_tick reached tick blocked

/-- One task takes an unavailable semaphore with a timeout of three ticks. -/
def timeoutProgram : List Action :=
  Action.bootProgram [.binarySemaphoreInit (some 0) false] [1] ++
    ([.sysTick, .invoke (.binarySemaphoreTake (some 0) 3), .advance] : List Action)

/-- The take is still blocked two ticks later, and its deadline is the fourth tick. -/
theorem take_blocks_until_deadline :
    ∃ events before started during system, Run Config.default events before ∧
      ClockStarts Config.default 0 (.binarySemaphoreTake (some 0) 3) 3 before started ∧
      (forge Config.default).RunFrom (OnTime 0 (before.time + 3)) started during system ∧
      before.time = 1 ∧ system.time = 3 ∧
      (system.kernel.tasks 0).state = .blocked ∧
      (system.kernel.tasks 0).waitDeadline = BitVec.ofNat 32 4 := by
  obtain ⟨events, before, run, checked⟩ :=
    Machine.RunFrom.exists_of_execFrom (forge Config.default) Machine.anyStep System.boot
      timeoutProgram (fun _ before =>
        decide (before.activeThread = some (.task 0) ∧ before.time = 1 ∧
          before.frames (.task 0) =
            .inCall (.binarySemaphoreTake (some 0) 3) (.guarded 1)) &&
        (before.step Config.default .advance).any fun (started : System × List Event) =>
          decide (started.1.frames (.task 0) =
            .inCall (.binarySemaphoreTake (some 0) 3) (.armed ⟨false, 4⟩)) &&
          ((forge Config.default).execFrom (OnTime 0 4) started.1
            [.advance, .switchFrom 0, .sysTick, .sysTick]).any
              fun (reached : System × List Event) =>
              decide (reached.1.time = 3 ∧ (reached.1.kernel.tasks 0).state = .blocked) &&
                !reached.2.any (Event.isReturnOf 0))
      (by decide +kernel)
  simp only [Bool.and_eq_true, decide_eq_true_eq, Option.any_eq_true, Bool.not_eq_true',
    List.any_eq_false] at checked
  obtain ⟨⟨active, time, guarded⟩, ⟨started, emitted⟩, step, armed, ⟨system, during⟩, executed,
    ⟨late, blocked⟩, unreturned⟩ := checked
  have clock : ClockStarts Config.default 0 (.binarySemaphoreTake (some 0) 3) 3 before started :=
    ⟨active, ⟨emitted, step⟩, ⟨_, guarded, rfl⟩, Or.inr ⟨rfl, _, armed⟩⟩
  have further : (forge Config.default).RunFrom (OnTime 0 (before.time + 3)) started during
      system := by
    rw [time]
    exact .of_execFrom executed
  have waits := (((timeout_exact run clock).1 (by decide) during system further
    fun other reply present => unreturned _ present (by simp [Event.isReturnOf])).2.1 blocked).2.1
  rw [time] at waits
  exact ⟨events, before, started, during, system, run, clock, further, time, late, blocked, waits⟩

end ForgeKernel
