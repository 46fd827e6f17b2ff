import ForgeKernel.Property.SelfCheck

/-!
# Tasks created while the scheduler runs

`fr_task_create` is the only way to become ready outside the wait engine.  Its publishing section
does not ask for a context switch, so a new task of higher priority waits until something else
does.  Between its two sections the slot is registered but not ready, and the self-check reports
it.
-/

namespace ForgeKernel

open Machines

/-! ## Preempting the creator -/

/-- What a new task is owed when `fr_task_create` returns to its creator: if it outranks the
creator, a switch is pending or it has been dispatched. -/
def Kernel.PreemptsCreator (kernel : Kernel) (creator index priority : Nat) : Prop :=
  (kernel.tasks creator).priority < priority →
    kernel.pendSv = true ∨ kernel.currentTask = some (.user index)

/-- A successful return of `fr_task_create` comes from its publishing section. -/
theorem Stepped.published
    {cfg : Config} {system after : System} {action : Action} {emitted : List Event}
    {thread : Thread} {outTask : Bool} {config : Option TaskConfig} {index : Nat}
    (step : Stepped cfg system action after emitted)
    (returned : Event.returned thread (.taskCreate outTask config)
      (.taskStatus .ok (some index)) ∈ emitted) :
    ∃ initialSp, system.activeThread = some thread ∧
      (system.frames thread).reserves = some index ∧
      after.kernel = taskCreatePublish system.kernel index initialSp := by
  obtain ⟨point, result, active, inCall, stepped, outcome, rfl, _⟩ := step.returned returned
  cases taskCreateStep_cases stepped with
  | refuses error =>
      obtain ⟨rfl, _⟩ := Reply.taskStatus.inj (Outcome.reply.inj outcome)
      exact absurd rfl error
  | reserves => cases outcome
  | builds => cases outcome
  | @publishes _ slot initialSp =>
      obtain ⟨_, same⟩ := Reply.taskStatus.inj (Outcome.reply.inj outcome)
      obtain rfl := Option.some.inj same
      exact ⟨initialSp, active, by rw [inCall]; rfl, rfl⟩

/-- When `fr_task_create` returns to a task, the new task is ready; it is given the processor
exactly when it does not outrank its creator or a switch was pending before it was published. -/
theorem created_task_preempts_iff
    {cfg : Config} {events emitted : List Event} {system after : System} {action : Action}
    {caller index : Nat} {outTask : Bool} {config : TaskConfig}
    (run : Run cfg events system)
    (step : system.step cfg action = some (after, emitted))
    (returned : Event.returned (.task caller) (.taskCreate outTask (some config))
      (.taskStatus .ok (some index)) ∈ emitted) :
    (after.kernel.tasks index).state = .ready ∧
      (after.kernel.PreemptsCreator caller index config.priority ↔
        config.priority ≤ (system.kernel.tasks caller).priority ∨
          system.kernel.pendSv = true) := by
  have core := Core.of_run run
  obtain ⟨initialSp, active, reserves, published⟩ := (System.stepped step).published returned
  have runs := core.active_current active
  obtain ⟨_, created⟩ := core.reserved _ _ reserves
  have other : caller ≠ index := by
    rintro rfl
    rw [runs.state] at created
    cases created
  obtain ⟨control, pendSv, tasks⟩ := taskCreatePublish_facts system.kernel index initialSp
  rw [← published] at control pendSv tasks
  have elsewhere : after.kernel.currentTask ≠ some (.user index) := by
    rw [control.currentTask, runs.currentTask]
    exact fun same => other (TaskRef.user.inj (Option.some.inj same))
  refine ⟨by rw [tasks, Function.update_self]; rfl, ?_⟩
  unfold Kernel.PreemptsCreator
  rw [tasks, Function.update_of_ne other, pendSv, or_iff_left elsewhere, ← not_lt]
  exact imp_iff_not_or

/-- A task of priority 1 creates one of priority 5. -/
def createsHigher : List Action :=
  Action.bootProgram [] [1] ++
    ([.invoke (.taskCreate true (some ⟨0x08001001#32, 0, Action.stackOf 1, 32, 5⟩)), .advance,
       .advance] : List Action)

/-- The creator goes on, with no switch pending, while the higher task is ready. -/
theorem created_task_left_waiting :
    ∃ (events emitted : List Event) (system after : System), Run Config.default events system ∧
      system.step Config.default .advance = some (after, emitted) ∧
      Event.returned (.task 0) (.taskCreate true (some ⟨0x08001001#32, 0, Action.stackOf 1, 32, 5⟩))
        (.taskStatus .ok (some 1)) ∈ emitted ∧
      (after.kernel.tasks 1).state = .ready ∧ after.activeThread = some (.task 0) ∧
      ¬after.kernel.PreemptsCreator 0 1 5 := by
  obtain ⟨events, system, run, checked⟩ :=
    Machine.RunFrom.exists_of_execFrom (forge Config.default) Machine.anyStep System.boot
      createsHigher (fun _ system =>
        (system.step Config.default .advance).any fun next : System × List Event =>
        decide (Event.returned (.task 0)
            (.taskCreate true (some ⟨0x08001001#32, 0, Action.stackOf 1, 32, 5⟩))
            (.taskStatus .ok (some 1)) ∈ next.2 ∧
          (next.1.kernel.tasks 1).state = .ready ∧ next.1.activeThread = some (.task 0) ∧
          (next.1.kernel.tasks 0).priority = 1 ∧ next.1.kernel.pendSv = false ∧
          next.1.kernel.currentTask = some (.user 0)))
      (by decide +kernel)
  rw [Option.any_eq_true] at checked
  obtain ⟨⟨after, emitted⟩, stepped, facts⟩ := checked
  rw [decide_eq_true_eq] at facts
  obtain ⟨returned, ready, active, priority, pendSv, current⟩ := facts
  refine ⟨events, emitted, system, after, run, stepped, returned, ready, active, ?_⟩
  intro preempts
  have owed := preempts (by rw [priority]; decide)
  rw [pendSv, current] at owed
  exact absurd owed (by decide)

/-- The creator has masked PendSV, and a tick has asked for a rotation. -/
def createsWhilePending : List Action :=
  Action.bootProgram [] [1, 1] ++
    ([.setMasks false false 0xF0#32, .sysTick,
       .invoke (.taskCreate true (some ⟨0x08001001#32, 0, Action.stackOf 2, 32, 5⟩)), .advance,
       .advance] : List Action)

theorem created_task_preempts_when_pending :
    ∃ after : System, (after.kernel.tasks 2).state = .ready ∧
      after.kernel.PreemptsCreator 0 2 5 := by
  obtain ⟨events, system, run, checked⟩ :=
    Machine.RunFrom.exists_of_execFrom (forge Config.default) Machine.anyStep System.boot
      createsWhilePending (fun _ system => system.kernel.pendSv &&
        (system.step Config.default .advance).any fun next : System × List Event =>
          decide (Event.returned (.task 0)
            (.taskCreate true (some ⟨0x08001001#32, 0, Action.stackOf 2, 32, 5⟩))
            (.taskStatus .ok (some 2)) ∈ next.2))
      (by decide +kernel)
  rw [Bool.and_eq_true, Option.any_eq_true] at checked
  obtain ⟨pending, ⟨after, emitted⟩, stepped, returned⟩ := checked
  obtain ⟨ready, condition⟩ := created_task_preempts_iff run stepped (decide_eq_true_eq.mp returned)
  exact ⟨after, ready, condition.mpr (Or.inr pending)⟩

/-! ## The self-check during a creation -/

/-- The check raises no alarm when no creation is unfinished.  A creation that is preempted between
its two sections makes it report exactly the state and the missing stack pointer of the slot. -/
theorem self_check_reports_creations
    {cfg : Config} {events : List Event} {system : System} {caller : Nat}
    (run : Run cfg events system)
    (active : system.activeThread = some (.task caller))
    (calls : system.frames (.task caller) = .inCall (.kernelCheckInvariants true) .entry) :
    ∃ after report value, system.step cfg .advance = some (after,
        [.returned (.task caller) (.kernelCheckInvariants true)
          (.report (some (report, value)))]) ∧
      (∀ creator slot, (system.frames creator).reserves = some slot →
        value = false ∧
          report.violationMask = Violation.taskState.bit ||| Violation.savedSp.bit) ∧
      ((∀ creator, (system.frames creator).reserves = none) →
        value = true ∧ report.violationMask = 0) := by
  have core := Core.of_run run
  obtain ⟨after, scan, stepped, scanned⟩ := checked_of_run run active calls
  refine ⟨after, scan.report, _, stepped, ?_, ?_⟩
  · intro creator slot reserves
    obtain ⟨small, created⟩ := core.reserved creator slot reserves
    have alarmed := scanned.alarmed slot small created
    refine ⟨?_, alarmed⟩
    rw [alarmed]
    decide
  · intro finished
    have silent : scan.report.violationMask = 0 := by
      refine scanned.silent fun index _ created => ?_
      obtain ⟨creator, reserves⟩ := core.created index created
      rw [finished creator] at reserves
      cases reserves
    exact ⟨decide_eq_true silent, silent⟩

/-- The first task has reserved a slot when the second one preempts it and runs the check. -/
def checkedDuringCreation : List Action :=
  Action.bootProgram [] [1, 2] ++
    ([.invoke (.taskSleep 1), .advance, .switchFrom 1,
       .invoke (.taskCreate true (some ⟨0x08001001#32, 0, Action.stackOf 2, 32, 1⟩)), .advance,
       .sysTick, .switchFrom 0, .advance, .invoke (.kernelCheckInvariants true)] : List Action)

theorem self_check_reports_reserved_slot :
    ∃ (system after : System) (report : InvariantReport),
      (system.frames (.task 0)).reserves = some 2 ∧
      system.step Config.default .advance = some (after, [.returned (.task 1)
        (.kernelCheckInvariants true) (.report (some (report, false)))]) ∧
      report.violationMask = 0x50 := by
  obtain ⟨events, system, run, checked⟩ :=
    Machine.RunFrom.exists_of_execFrom (forge Config.default) Machine.anyStep System.boot
      checkedDuringCreation (fun _ system => decide (
        (system.frames (.task 0)).reserves = some 2 ∧ system.activeThread = some (.task 1) ∧
        system.frames (.task 1) = .inCall (.kernelCheckInvariants true) .entry))
      (by decide +kernel)
  rw [decide_eq_true_eq] at checked
  obtain ⟨reserves, active, calls⟩ := checked
  obtain ⟨after, report, value, stepped, alarmed, _⟩ :=
    self_check_reports_creations run active calls
  obtain ⟨rfl, mask⟩ := alarmed (.task 0) 2 reserves
  exact ⟨system, after, report, reserves, stepped, mask⟩

/-- A creation has reserved its slot, and the check that preempts it alarms. -/
theorem self_check_not_clean_during_creation :
    ∃ (events : List Event) (system after : System) (report : InvariantReport)
        (config : TaskConfig),
      Run Config.default events system ∧
      system.frames (.task 0) = .inCall (.taskCreate true (some config)) (.reserved 2) ∧
      system.activeThread = some (.task 1) ∧
      system.step Config.default .advance = some (after, [.returned (.task 1)
        (.kernelCheckInvariants true) (.report (some (report, false)))]) ∧
      report.violationMask ≠ 0 := by
  obtain ⟨events, system, run, checked⟩ :=
    Machine.RunFrom.exists_of_execFrom (forge Config.default) Machine.anyStep System.boot
      checkedDuringCreation (fun _ system => decide (
        system.frames (.task 0) = .inCall (.taskCreate true (some
          ⟨0x08001001#32, 0, Action.stackOf 2, 32, 1⟩)) (.reserved 2) ∧
        system.activeThread = some (.task 1) ∧
        (system.step Config.default .advance).map Prod.snd = some [.returned (.task 1)
          (.kernelCheckInvariants true) (.report (some
            (⟨3, 1, 1, 1, 0, 0, 2, 0x50, 3, true⟩, false)))]))
      (by decide +kernel)
  rw [decide_eq_true_eq] at checked
  obtain ⟨reserved, active, stepped⟩ := checked
  obtain ⟨⟨after, emitted⟩, stepped, rfl⟩ := Option.map_eq_some_iff.mp stepped
  exact ⟨events, system, after, _, _, run, reserved, active, stepped, by decide⟩

end ForgeKernel
