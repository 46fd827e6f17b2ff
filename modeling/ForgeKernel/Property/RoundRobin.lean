import ForgeKernel.Property.Interruptions

/-!
# Rotation among equal priorities

Two tasks share a constant priority.  One of them runs when a tick is processed and the
other one is READY from then on.  Whether the second is dispatched before the first is
dispatched again depends on the slot from which each switch scans the registry: the
position of the rotation is not stored, so a task of higher priority that blocks in a slot
between the second and the first task starts the scan at the wrong place.  The rotation is
kept when whoever ends an interruption sits between the first and the second task.
-/

namespace ForgeKernel

open Machines Scans

/-! ## The target of a switch -/

theorem schedulerSelectNext_congr
    {first second : Kernel} {current : Nat}
    (taskCount : second.taskCount = first.taskCount)
    (states : ∀ index, (second.tasks index).state = (first.tasks index).state)
    (priorities : ∀ index, (second.tasks index).priority = (first.tasks index).priority) :
    schedulerSelectNext second (some (.user current)) =
      schedulerSelectNext first (some (.user current)) := by
  have steps : schedulerSelectNextStep second = schedulerSelectNextStep first := by
    funext index selected offset
    simp only [schedulerSelectNextStep, taskCount, states, priorities]
  simp only [schedulerSelectNext, states, taskCount, steps]

/-- A switch that does not stop the machine makes the selected task the current one. -/
theorem pendSvHandler_selects
    {kernel : Kernel} {current : Nat} (psp : Word)
    (present : kernel.currentTask = some (.user current))
    (completes : (pendSvHandler kernel psp).halted = none) :
    (pendSvHandler kernel psp).currentTask =
      schedulerSelectNext kernel (some (.user current)) := by
  obtain ⟨same, nonzero⟩ := pendSvHandler_completes completes
  obtain ⟨_, next, done⟩ := schedulerSwitchFromIsr_done nonzero
  obtain rfl := Option.some.inj (present.symm.trans done.present)
  have selects : schedulerSelectNext kernel (some (.user current)) = some next := by
    rw [← done.selects]
    symm
    apply schedulerSelectNext_congr
    · rfl
    · intro index
      rw [Kernel.savedAt_tasks]
    · intro index
      rw [Kernel.savedAt_tasks]
  rw [same, done.kernel, selects]
  split
  · rename_i stays
    rw [stays]
    exact present
  · rfl

/-- A completed switch from a user task goes to the first runnable task in the order of its
scan; there is one while a peer is READY. -/
theorem Core.switches
    {system : System} (core : Core system) {current peer : Nat} {psp : Word}
    (present : system.kernel.currentTask = some (.user current))
    (peerReady : (system.kernel.tasks peer).state = .ready)
    (completes : (pendSvHandler system.kernel psp).halted = none) :
    ∃ target, (pendSvHandler system.kernel psp).currentTask = some (.user target) ∧
      IsFirst system.kernel.priorityOf (rotationRank system.kernel.taskCount current)
        (system.kernel.runnable current) (some target) := by
  obtain ⟨current_lt, _, state⟩ := core.control.user current present
  obtain ⟨selected, first, selects⟩ := schedulerSelectNext_isFirst system.kernel current_lt
    (state.imp_right And.left)
  cases selected with
  | none =>
      have runnable : peer ∈ system.kernel.runnable current :=
        ⟨core.registered_of_ready peerReady, Or.inl peerReady⟩
      rw [show system.kernel.runnable current = ∅ from first] at runnable
      exact absurd runnable (Set.notMem_empty peer)
  | some target =>
      exact ⟨target, (pendSvHandler_selects psp present completes).trans selects, first⟩

/-! ## Runs from the tick -/

/-- A switch makes `task` the current task. -/
def System.Dispatches (system : System) (task : Nat) : Action → Prop
  | .pendSv psp =>
      (pendSvHandler system.kernel psp).halted = none ∧
        (pendSvHandler system.kernel psp).currentTask = some (.user task)
  | _ => False

/-- `peer` is READY and both tasks have effective priority `priority`. -/
def System.Peers (system : System) (runner peer priority : Nat) : Prop :=
  (system.kernel.tasks peer).state = .ready ∧
  (system.kernel.tasks runner).priority = priority ∧
  (system.kernel.tasks peer).priority = priority

instance peersDecidable (system : System) (runner peer priority : Nat) :
    Decidable (system.Peers runner peer priority) :=
  inferInstanceAs (Decidable (_ ∧ _))

/-- `task` has its slot behind `runner` and before `peer`. -/
def Kernel.Between (kernel : Kernel) (runner peer task : Nat) : Prop :=
  rotationRank kernel.taskCount runner task < rotationRank kernel.taskCount runner peer

/-- The current task has blocked with an effective priority above `priority`, and no task of
a higher one than `priority` is READY: the next switch goes back to the peers. -/
def Kernel.EndsInterruption (kernel : Kernel) (priority current : Nat) : Prop :=
  kernel.currentTask = some (.user current) ∧ (kernel.tasks current).state = .blocked ∧
  priority < (kernel.tasks current).priority ∧
  ∀ task < kernel.taskCount, (kernel.tasks task).state = .ready →
    (kernel.tasks task).priority ≤ priority

/-- The scan from `current` finds no READY task of the peers' priority up to `runner`. -/
def Kernel.Skips (kernel : Kernel) (runner priority current : Nat) : Prop :=
  ∀ task < kernel.taskCount, (kernel.tasks task).state = .ready →
    (kernel.tasks task).priority = priority →
      rotationRank kernel.taskCount current runner < rotationRank kernel.taskCount current task

/-- The condition on the steps of a run: whoever ends an interruption sits between the two
peers, or no peer behind it and up to `runner` is READY. -/
def System.KeepsTurn (system : System) (runner peer priority : Nat) : Action → Prop
  | .pendSv _ => ∀ current < system.kernel.taskCount,
      system.kernel.EndsInterruption priority current →
        system.kernel.Between runner peer current ∨
          system.kernel.Skips runner priority current
  | _ => True

/-- The scan from the current slot meets `peer` before `runner`. -/
def Kernel.PeerAhead (kernel : Kernel) (runner peer : Nat) : Prop :=
  ∃ current, kernel.currentTask = some (.user current) ∧
    rotationRank kernel.taskCount current peer < rotationRank kernel.taskCount current runner

theorem Core.live_of_step
    {cfg : Config} {system after : System} {action : Action} {events : List Event}
    (core : Core system) (step : system.step cfg action = some (after, events)) :
    system.kernel.halted = none := by
  cases System.stepped step with
  | sysTick live | pendSv live => exact live
  | invoke active | advance active | user active => exact (core.active_cases active).1

/-- The scan from the current slot meets `peer` before `runner`, or the peers are interrupted. -/
def System.Turn (system : System) (runner peer priority : Nat) : Prop :=
  system.kernel.PeerAhead runner peer ∨ system.kernel.Interrupted priority

section Switch

variable {cfg : Config} {system : System} {past : List Event} {runner peer priority : Nat}

/-- When nobody above the peers may run, the turn is the peer's, or no peer up to `runner` is
READY. -/
theorem System.Turn.returns
    {current : Nat} {psp : Word}
    (run : Run cfg past system) (distinct : runner ≠ peer)
    (runner_lt : runner < system.kernel.taskCount)
    (turn : system.Turn runner peer priority) (peers : system.Peers runner peer priority)
    (keeps : system.KeepsTurn runner peer priority (.pendSv psp))
    (present : system.kernel.currentTask = some (.user current))
    (calm : ∀ task ∈ system.kernel.runnable current,
      (system.kernel.tasks task).priority ≤ priority) :
    rotationRank system.kernel.taskCount current peer <
        rotationRank system.kernel.taskCount current runner ∨
      ((system.kernel.tasks current).state = .blocked ∧
        system.kernel.Skips runner priority current) := by
  have core := Core.of_run run
  have current_lt := core.current_lt present
  rcases turn with ⟨_, same, ahead⟩ | interrupted
  · obtain ⟨⟩ := Option.some.inj (present.symm.trans same)
    exact Or.inl ahead
  · obtain ⟨task, awake, raised⟩ := (InheritanceOk.of_run run).raised_of_interrupted interrupted
    have registered := core.registered_of_awake awake
    -- Only the current task can be raised, and it has blocked.
    have unready : ∀ other < system.kernel.taskCount, (system.kernel.tasks other).state = .ready →
        (system.kernel.tasks other).priority ≤ priority :=
      fun other small ready => calm other ⟨small, Or.inl ready⟩
    rcases awake with ready | own
    · exact absurd (unready task registered ready) (Nat.not_le.mpr raised)
    · obtain ⟨⟩ := Option.some.inj (present.symm.trans own)
      rcases (core.control.user current present).2.2 with running | ⟨blocked, _⟩
      · exact absurd (calm current ⟨registered, Or.inr ⟨rfl, running⟩⟩) (Nat.not_le.mpr raised)
      · rcases keeps current registered ⟨present, blocked, raised, unready⟩ with between | skips
        · exact Or.inl (rotationRank_between distinct runner_lt
            (core.registered_of_ready peers.1) registered between)
        · exact Or.inr ⟨blocked, skips⟩

/-- On the peers' turn a switch does not dispatch `runner`. -/
theorem System.Turn.not_dispatches
    {action : Action}
    (run : Run cfg past system) (distinct : runner ≠ peer)
    (runner_lt : runner < system.kernel.taskCount)
    (turn : system.Turn runner peer priority) (peers : system.Peers runner peer priority)
    (keeps : system.KeepsTurn runner peer priority action)
    {current : Nat} (present : system.kernel.currentTask = some (.user current)) :
    ¬system.Dispatches runner action := by
  cases action with
  | pendSv psp =>
      rintro ⟨completes, dispatched⟩
      have core := Core.of_run run
      obtain ⟨target, next, ⟨_, targetState⟩, precedes⟩ :=
        core.switches present peers.1 completes
      obtain ⟨⟩ := Option.some.inj (dispatched.symm.trans next)
      have runnerPriority : system.kernel.priorityOf runner = priority := peers.2.1
      have calm : ∀ task ∈ system.kernel.runnable current,
          (system.kernel.tasks task).priority ≤ priority := by
        intro task runnable
        rcases precedes task runnable with lighter | ⟨equal, _⟩
        · exact (lighter.trans_eq runnerPriority).le
        · exact (equal.trans runnerPriority).le
      have earlier : rotationRank system.kernel.taskCount current runner ≤
          rotationRank system.kernel.taskCount current peer := by
        rcases precedes peer ⟨core.registered_of_ready peers.1, Or.inl peers.1⟩ with
          lighter | ⟨_, earlier⟩
        · exact absurd (lighter.trans_eq runnerPriority) (peers.2.2 ▸ lt_irrefl _)
        · exact earlier
      rcases turn.returns run distinct runner_lt peers keeps present calm with
        ahead | ⟨blocked, skips⟩
      · omega
      · rcases targetState with ready | ⟨rfl, running⟩
        · exact absurd (skips runner runner_lt ready peers.2.1) (lt_irrefl _)
        · rw [blocked] at running
          cases running
  | _ => exact id

/-- A completed switch keeps the turn while `peer` is READY. -/
theorem System.Turn.switched
    {after : System} {psp : Word} {events : List Event}
    (run : Run cfg past system) (distinct : runner ≠ peer)
    (runner_lt : runner < system.kernel.taskCount)
    (turn : system.Turn runner peer priority) (peers : system.Peers runner peer priority)
    (keeps : system.KeepsTurn runner peer priority (.pendSv psp))
    {current : Nat} (present : system.kernel.currentTask = some (.user current))
    (step : system.step cfg (.pendSv psp) = some (after, events)) {next : Option Nat}
    (resumed : SwitchedTo system.kernel psp next after.kernel)
    (handled : after.kernel = pendSvHandler system.kernel psp)
    (waits : (after.kernel.tasks peer).state = .ready) :
    after.Turn runner peer priority := by
  have core := Core.of_run run
  have current_lt := core.current_lt present
  have peer_lt := core.registered_of_ready peers.1
  obtain ⟨target, selected, ⟨target_lt, targetState⟩, precedes⟩ :=
    core.switches present peers.1 (handled ▸ resumed.halted)
  rw [← handled] at selected
  have running : (after.kernel.tasks target).state = .running := by
    rcases ((Core.of_run (run.step step)).control.user target selected).2.2 with
      running | ⟨blocked, _⟩
    · exact running
    · rw [resumed.blocked_iff] at blocked
      rcases targetState with ready | ⟨_, running⟩
      · exact absurd (ready.symm.trans blocked) (by decide)
      · exact absurd (running.symm.trans blocked) (by decide)
  by_cases raised : priority < (system.kernel.tasks target).priority
  · have same : (after.kernel.tasks target).priority = (system.kernel.tasks target).priority := by
      rw [resumed.tasks]
    refine Or.inr ((InheritanceOk.of_run (run.step step)).interrupted_of_raised
      (Or.inr selected) ?_ (same.symm ▸ raised))
    rw [running]
    decide
  · left
    have level : (system.kernel.tasks target).priority ≤ priority := Nat.not_lt.mp raised
    have calm : ∀ task ∈ system.kernel.runnable current,
        (system.kernel.tasks task).priority ≤ priority := by
      intro task runnable
      rcases precedes task runnable with lighter | ⟨equal, _⟩
      · exact lighter.le.trans level
      · exact equal.le.trans level
    have other : target ≠ peer := by
      rintro rfl
      rw [waits] at running
      cases running
    have onWay : (system.kernel.tasks target).priority = priority ∧
        rotationRank system.kernel.taskCount current target <
          rotationRank system.kernel.taskCount current peer := by
      rcases precedes peer ⟨peer_lt, Or.inl peers.1⟩ with lighter | ⟨equal, earlier⟩
      · exact absurd (lighter.trans_le level) (peers.2.2 ▸ lt_irrefl _)
      · exact ⟨equal.symm.trans peers.2.2, lt_of_le_of_ne earlier fun same =>
          other (rotationRank_injective current_lt target_lt peer_lt same)⟩
    refine ⟨target, selected, ?_⟩
    rw [resumed.taskCount]
    rcases turn.returns run distinct runner_lt peers keeps present calm with
      ahead | ⟨blocked, skips⟩
    · exact rotationRank_advance current_lt target_lt peer_lt ahead onWay.2
    · rcases targetState with ready | ⟨rfl, running⟩
      · exact rotationRank_behind current_lt target_lt peer_lt
          (skips target target_lt ready onWay.1) onWay.2
      · rw [blocked] at running
        cases running

theorem System.Turn.step
    {after : System} {action : Action} {events : List Event}
    (run : Run cfg past system) (distinct : runner ≠ peer)
    (runner_lt : runner < system.kernel.taskCount)
    (turn : system.Turn runner peer priority) (peers : system.Peers runner peer priority)
    (keeps : system.KeepsTurn runner peer priority action)
    {current : Nat} (present : system.kernel.currentTask = some (.user current))
    (step : system.step cfg action = some (after, events))
    (live : after.kernel.halted = none) (waits : (after.kernel.tasks peer).state = .ready) :
    after.Turn runner peer priority := by
  have core := Core.of_run run
  by_cases switch : ∃ psp, action = .pendSv psp
  · obtain ⟨psp, rfl⟩ := switch
    cases System.stepped step with
    | pendSv alive =>
        rcases pendSvHandler_outcome psp core.control alive with stopped | resumed
        · have halted := stopped.halted
          rw [show (pendSvHandler system.kernel psp).halted = none from live] at halted
          cases halted
        · exact turn.switched run distinct runner_lt peers keeps present step resumed rfl waits
    | user => exact turn
  · have noSwitch : ∀ psp, action ≠ .pendSv psp := fun psp same => switch ⟨psp, same⟩
    rcases turn with ⟨_, same, ahead⟩ | interrupted
    · have running := core.running_of_current same
      exact Or.inl ⟨_, (core.step_control running step noSwitch).1.trans same,
        rotationRank_grow (core.registered_of_ready peers.1) runner_lt
          (core.step_keepsIdentities step).taskCount ahead⟩
    · exact Or.inr (interrupted_step run step noSwitch interrupted)

end Switch

/-- A completed switch that fails the condition sets the rotation back: it dispatches `runner`
or somebody from whose slot the scan meets `runner` before `peer`. -/
theorem Core.sets_back
    {system : System} (core : Core system) {runner peer priority : Nat} {psp : Word}
    (runner_lt : runner < system.kernel.taskCount)
    (peers : system.Peers runner peer priority)
    (completes : (pendSvHandler system.kernel psp).halted = none)
    (fails : ¬system.KeepsTurn runner peer priority (.pendSv psp)) :
    ∃ target, (pendSvHandler system.kernel psp).currentTask = some (.user target) ∧
      (target = runner ∨ rotationRank system.kernel.taskCount target runner <
        rotationRank system.kernel.taskCount target peer) := by
  obtain ⟨peerReady, runnerPriority, peerPriority⟩ := peers
  simp only [System.KeepsTurn, Kernel.Skips, not_forall, not_or, not_lt] at fails
  obtain ⟨current, current_lt, ⟨present, blocked, raised, calm⟩, outside, other, other_lt,
    otherReady, otherPriority, early⟩ := fails
  have peer_lt := core.registered_of_ready peerReady
  obtain ⟨target, selected, ⟨target_lt, targetState⟩, precedes⟩ :=
    core.switches present peerReady completes
  have targetReady : (system.kernel.tasks target).state = .ready := by
    rcases targetState with ready | ⟨rfl, running⟩
    · exact ready
    · rw [blocked] at running
      cases running
  -- The interrupter is neither of the two, so from its slot `runner` comes first.
  have notRunner : current ≠ runner := by
    rintro rfl
    omega
  have notPeer : current ≠ peer := by
    rintro rfl
    rw [peerReady] at blocked
    cases blocked
  have runnerFirst : rotationRank system.kernel.taskCount current runner <
      rotationRank system.kernel.taskCount current peer :=
    rotationRank_outside notRunner notPeer runner_lt current_lt outside
  have earlier : rotationRank system.kernel.taskCount current target ≤
      rotationRank system.kernel.taskCount current runner := by
    rcases precedes other ⟨other_lt, Or.inl otherReady⟩ with lighter | ⟨_, earlier⟩
    · have level := calm target target_lt targetReady
      exact absurd (lighter.trans_le level) (otherPriority ▸ lt_irrefl _)
    · exact earlier.trans early
  refine ⟨target, selected, ?_⟩
  rcases earlier.eq_or_lt with same | before
  · exact Or.inl (rotationRank_injective current_lt target_lt runner_lt same)
  · exact Or.inr (rotationRank_advance current_lt target_lt runner_lt runnerFirst before)

/-- While a peer is READY the current task is a user task. -/
theorem Core.user_step
    {cfg : Config} {system after : System} {action : Action} {events : List Event}
    {current runner peer priority : Nat}
    (core : Core system)
    (present : system.kernel.currentTask = some (.user current))
    (peers : system.Peers runner peer priority)
    (step : system.step cfg action = some (after, events)) :
    ∃ next, after.kernel.currentTask = some (.user next) := by
  by_cases switch : ∃ psp, action = .pendSv psp
  · obtain ⟨psp, rfl⟩ := switch
    cases System.stepped step with
    | pendSv live due =>
        rcases pendSvHandler_outcome psp core.control live with stopped | resumed
        · exact ⟨current, stopped.currentTask.trans present⟩
        · obtain ⟨target, selected, _⟩ := core.switches present peers.1 resumed.halted
          exact ⟨target, selected⟩
    | user => exact ⟨current, present⟩
  · have running := core.running_of_current present
    have kept := (core.step_control running step fun psp same => switch ⟨psp, same⟩).1
    exact ⟨current, kept.trans present⟩

/-- What holds from the tick on. -/
structure Rotating (cfg : Config) (runner peer priority : Nat) (system : System) : Prop where
  reached : ∃ past, Run cfg past system
  runner_lt : runner < system.kernel.taskCount
  user : ∃ current, system.kernel.currentTask = some (.user current)
  turn : system.kernel.halted = none → (system.kernel.tasks peer).state = .ready →
    system.Turn runner peer priority

namespace Rotating

variable {cfg : Config} {system after : System} {runner peer priority : Nat}

theorem ticked
    {past : List Event} (run : Run cfg past system) (distinct : runner ≠ peer)
    (runs : system.kernel.Runs runner)
    (ticked : system.step cfg .sysTick = some (after, [])) :
    Rotating cfg runner peer priority after := by
  have core := Core.of_run run
  have started := core.step ticked
  have present : after.kernel.currentTask = some (.user runner) :=
    (core.step_control runs.running ticked (by simp)).1.trans runs.currentTask
  have small := started.current_lt present
  refine ⟨⟨_, run.step ticked⟩, small, ⟨runner, present⟩, fun _ waits => Or.inl ?_⟩
  refine ⟨runner, present, ?_⟩
  rw [rotationRank_self]
  exact (rotationRank_bounds small (started.registered_of_ready waits) distinct.symm).2

theorem step
    {action : Action} {events : List Event}
    (rotating : Rotating cfg runner peer priority system) (distinct : runner ≠ peer)
    (peers : system.Peers runner peer priority)
    (keeps : system.KeepsTurn runner peer priority action)
    (step : system.step cfg action = some (after, events)) :
    Rotating cfg runner peer priority after ∧ ¬system.Dispatches runner action := by
  obtain ⟨⟨past, run⟩, runner_lt, ⟨current, present⟩, turn⟩ := rotating
  have core := Core.of_run run
  have held := turn (core.live_of_step step) peers.1
  refine ⟨⟨⟨_, run.step step⟩, ?_, core.user_step present peers step, fun live waits => ?_⟩, ?_⟩
  · exact runner_lt.trans_le (core.step_keepsIdentities step).taskCount
  · exact held.step run distinct runner_lt peers keeps present step live waits
  · exact held.not_dispatches run distinct runner_lt peers keeps present

end Rotating

/-- Two tasks of one constant priority: `runner` runs when a tick is processed and `peer` is
READY from then on.  Whatever higher priorities do in between, no switch dispatches `runner`
again as long as whoever ends an interruption keeps the peer's turn.  The first completed
switch that does not keep it sets the rotation back behind the peer. -/
theorem round_robin_through_interruptions
    {cfg : Config} {events : List Event} {system start : System}
    (run : Run cfg events system)
    {runner peer priority : Nat} (distinct : runner ≠ peer)
    (runs : system.kernel.Runs runner)
    (ticked : (forge cfg).step system .sysTick = some (start, []))
    {laterEvents : List Event} {later : System}
    (further : (forge cfg).RunFrom (fun state action =>
      state.Peers runner peer priority ∧ state.KeepsTurn runner peer priority action)
      start laterEvents later) :
    (forge cfg).RunFrom (fun state action =>
      state.Peers runner peer priority ∧ ¬state.Dispatches runner action)
      start laterEvents later ∧
    ∀ psp, later.Peers runner peer priority →
      (pendSvHandler later.kernel psp).halted = none →
      ¬later.KeepsTurn runner peer priority (.pendSv psp) →
      ∃ target, (pendSvHandler later.kernel psp).currentTask = some (.user target) ∧
        (target = runner ∨ rotationRank later.kernel.taskCount target runner <
          rotationRank later.kernel.taskCount target peer) := by
  suffices both : Rotating cfg runner peer priority later ∧
      (forge cfg).RunFrom (fun state action =>
        state.Peers runner peer priority ∧ ¬state.Dispatches runner action)
        start laterEvents later by
    obtain ⟨⟨⟨_, reached⟩, runner_lt, _, _⟩, quiet⟩ := both
    exact ⟨quiet, fun psp peers => (Core.of_run reached).sets_back runner_lt peers⟩
  induction further with
  | refl => exact ⟨.ticked run distinct runs ticked, .refl⟩
  | tail _ permitted stepped inductionHypothesis =>
      obtain ⟨rotating, quiet⟩ := inductionHypothesis
      obtain ⟨next, undispatched⟩ := rotating.step distinct permitted.1 permitted.2 stepped
      exact ⟨next, quiet.tail ⟨permitted.1, undispatched⟩ stepped⟩

/-! ## Two programs -/

instance endsInterruptionDecidable (kernel : Kernel) (priority current : Nat) :
    Decidable (kernel.EndsInterruption priority current) :=
  inferInstanceAs (Decidable (_ ∧ _ ∧ _ ∧ _))

instance betweenDecidable (kernel : Kernel) (runner peer task : Nat) :
    Decidable (kernel.Between runner peer task) :=
  inferInstanceAs (Decidable (_ < _))

instance skipsDecidable (kernel : Kernel) (runner priority current : Nat) :
    Decidable (kernel.Skips runner priority current) :=
  inferInstanceAs (Decidable (∀ task < kernel.taskCount, _))

instance keepsTurnDecidable (system : System) (runner peer priority : Nat) :
    (action : Action) → Decidable (system.KeepsTurn runner peer priority action)
  | .pendSv _ => inferInstanceAs (Decidable (∀ current < system.kernel.taskCount, _))
  | .sysTick | .invoke _ | .advance | .storeByte _ _ | .storeWord _ _ | .setMasks _ _ _ =>
      .isTrue trivial

/-- A task of priority 5 in the first slot sleeps until the next tick, so that the first of
its two peers of priority 1 runs. -/
def outerSleeperProgram : List Action :=
  Action.bootProgram [] [5, 1, 1] ++
    ([.invoke (.taskSleep 1), .advance, .switchFrom 0] : List Action)

/-- The same with the sleeper between its peers. -/
def innerSleeperProgram : List Action :=
  Action.bootProgram [] [1, 5, 1] ++
    ([.invoke (.taskSleep 2), .advance, .switchFrom 1, .sysTick, .switchFrom 2] : List Action)

/-- From the tick on: the sleeper preempts `runner` and goes to sleep again. -/
def interruption (runner sleeper : Nat) : List Action :=
  [.switchFrom runner, .advance, .invoke (.taskSleep 1), .advance, .switchFrom sleeper]

/-- Take a tick, run on, and check the two ends of what follows. -/
def checkAfterTick
    (allowed : System → Action → Prop) [∀ state action, Decidable (allowed state action)]
    (after : List Action) (check : System → System → Bool) (system : System) : Bool :=
  ((forge Config.default).step system .sysTick).any fun ticked =>
    decide (ticked.2 = []) &&
      ((forge Config.default).execFrom allowed ticked.1 after).any fun finished =>
        check system finished.1

theorem exists_after_tick
    (program after : List Action) (allowed : System → Action → Prop)
    [∀ state action, Decidable (allowed state action)] (check : System → System → Bool)
    (checked : ((forge Config.default).execFrom Machine.anyStep System.boot program).any
      (fun reached => checkAfterTick allowed after check reached.1) = true) :
    ∃ events system start laterEvents later,
      Run Config.default events system ∧
      (forge Config.default).step system .sysTick = some (start, []) ∧
      (forge Config.default).RunFrom allowed start laterEvents later ∧
      check system later = true := by
  obtain ⟨events, system, run, checked⟩ :=
    Machine.RunFrom.exists_of_execFrom (forge Config.default) Machine.anyStep System.boot
      program (fun _ system => checkAfterTick allowed after check system) checked
  unfold checkAfterTick at checked
  obtain ⟨⟨start, emitted⟩, ticked, checked⟩ := (Option.any_eq_true _ _).mp checked
  rw [Bool.and_eq_true, decide_eq_true_eq] at checked
  obtain ⟨rfl, checked⟩ := checked
  obtain ⟨laterEvents, later, further, checked⟩ :=
    Machine.RunFrom.exists_of_execFrom (forge Config.default) allowed start after
      (fun _ later => check system later) checked
  exact ⟨events, system, start, laterEvents, later, run, ticked, further, checked⟩

/-- The sleeper sits between the two peers: the second one is dispatched after it. -/
theorem interrupted_rotation :
    ∃ events system start laterEvents later,
      Run Config.default events system ∧
      (forge Config.default).step system .sysTick = some (start, []) ∧
      (forge Config.default).RunFrom (fun state action =>
        state.Peers 0 2 1 ∧ state.KeepsTurn 0 2 1 action) start laterEvents later ∧
      later.kernel.currentTask = some (.user 2) ∧
      (forge Config.default).RunFrom (fun state action =>
        state.Peers 0 2 1 ∧ ¬state.Dispatches 0 action) start laterEvents later := by
  obtain ⟨events, system, start, laterEvents, later, run, ticked, further, checked⟩ :=
    exists_after_tick innerSleeperProgram (interruption 0 1)
      (fun state action => state.Peers 0 2 1 ∧ state.KeepsTurn 0 2 1 action)
      (fun system later => decide (system.kernel.currentTask = some (.user 0) ∧
        system.kernel.running = true ∧ (system.kernel.tasks 0).state = .running ∧
        later.kernel.currentTask = some (.user 2)))
      (by decide +kernel)
  rw [decide_eq_true_eq] at checked
  obtain ⟨present, running, state, resumed⟩ := checked
  exact ⟨events, system, start, laterEvents, later, run, ticked, further, resumed,
    (round_robin_through_interruptions run (by decide) ⟨present, running, state⟩ ticked further).1⟩

/-- The sleeper sits behind the second peer and before the first: the first one is
dispatched again. -/
theorem interruption_repeats_runner :
    ∃ events system start laterEvents later psp,
      Run Config.default events system ∧ system.kernel.Runs 1 ∧
      (forge Config.default).step system .sysTick = some (start, []) ∧
      (forge Config.default).RunFrom (fun state _ => state.Peers 1 2 1) start laterEvents later ∧
      later.Peers 1 2 1 ∧ later.Dispatches 1 (.pendSv psp) := by
  obtain ⟨events, system, start, laterEvents, later, run, ticked, further, checked⟩ :=
    exists_after_tick outerSleeperProgram (interruption 1 0).dropLast
      (fun state _ => state.Peers 1 2 1)
      (fun system later => decide (system.kernel.currentTask = some (.user 1) ∧
        system.kernel.running = true ∧ (system.kernel.tasks 1).state = .running ∧
        later.Peers 1 2 1 ∧
        (pendSvHandler later.kernel (Action.stackOf 0 + 64)).halted = none ∧
        (pendSvHandler later.kernel (Action.stackOf 0 + 64)).currentTask = some (.user 1)))
      (by decide +kernel)
  rw [decide_eq_true_eq] at checked
  obtain ⟨present, running, state, peers, completes, resumed⟩ := checked
  exact ⟨events, system, start, laterEvents, later, Action.stackOf 0 + 64, run,
    ⟨present, running, state⟩, ticked, further, peers, completes, resumed⟩

end ForgeKernel
