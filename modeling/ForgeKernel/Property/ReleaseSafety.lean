import ForgeKernel.Invariant.ReleaseSchedule

/-!
# The release image boots and never stops

Boot code reaches `fr_scheduler_start`, the three tasks are registered as the
image configures them, no assertion fails and no trap is reached, and whoever may
run has a next step.
-/

namespace ForgeKernel

open Machines

/-- The register save of each switch leaves a process stack pointer inside the stack
of the task that was running. -/
def soundSwitches (release : Release) : ReleaseAction → Prop
  | .pendSv psp => soundPsp release.system (.pendSv psp)
  | _ => True

instance soundSwitchesDecidable (release : Release) :
    (action : ReleaseAction) → Decidable (soundSwitches release action)
  | .pendSv psp => inferInstanceAs (Decidable (soundPsp release.system (.pendSv psp)))
  | .sysTick | .run _ => .isTrue trivial

/-! ## Nothing stops the machine -/

theorem schedulerStart_unescalated
    {cfg : Config} {kernel after : Kernel} (live : kernel.halted = none)
    (started : schedulerStart cfg .unmasked kernel = some after) :
    after.halted ≠ some .svcEscalated := by
  unfold schedulerStart at started
  split at started
  · cases started
  · have idle : (schedulerInitializeIdle cfg kernel).halted ≠ some .svcEscalated := by
      unfold schedulerInitializeIdle
      dsimp only
      split
      · exact live ▸ nofun
      · exact nofun
    generalize schedulerInitializeIdle cfg kernel = prepared at started idle
    dsimp only at started
    generalize taskOrIdle (schedulerSelectHighestReady prepared) = first at started
    split at started
    · obtain rfl := Option.some.inj started
      exact idle
    · split at started
      · obtain rfl := Option.some.inj started
        unfold portStartFirstTask
        rw [if_neg (by decide)]
        split
        · exact nofun
        · rw [show (schedulerStartFirst prepared first).halted = prepared.halted by
            cases first <;> rfl]
          exact idle
      · obtain rfl := Option.some.inj started
        exact nofun

/-- Only a masked `svc` escalates. -/
theorem Call.step_unescalated
    {cfg : Config} {cpu : Cpu} {kernel : Kernel} {memory : Memory} {self : Nat} {call : Call}
    {point : Point} {result : StepResult} (unmasked : cpu = .unmasked)
    (live : kernel.halted = none)
    (stepped : call.step cfg cpu kernel memory self point = some result) :
    result.kernel.halted ≠ some .svcEscalated := by
  cases plain : call.isPlain with
  | true =>
      rw [(Call.step_updates plain stepped).framed.halted.trans live]
      exact nofun
  | false =>
      cases call with
      | taskCreate outTask config =>
          cases taskCreateStep_cases stepped with
          | refuses => exact live ▸ nofun
          | reserves _ reserved =>
              obtain ⟨_, rfl⟩ := taskCreateReserve_some reserved
              exact live ▸ nofun
          | builds =>
              change (taskCreateBuild _ _ _).1.halted ≠ _
              unfold taskCreateBuild
              dsimp only
              split
              · exact live ▸ nofun
              · exact nofun
          | publishes =>
              change (taskCreatePublish _ _ _).halted ≠ _
              unfold taskCreatePublish
              dsimp only
              split
              · exact live ▸ nofun
              · exact nofun
      | taskYield =>
          cases point with
          | entry =>
              simp only [Call.step, taskYieldStep] at stepped
              split at stepped <;> obtain rfl := Option.some.inj stepped <;> exact live ▸ nofun
          | svc =>
              subst unmasked
              obtain rfl := Option.some.inj stepped
              exact live ▸ nofun
          | _ => cases stepped
      | schedulerStart =>
          cases point with
          | entry =>
              subst unmasked
              simp only [Call.step, schedulerStartStep] at stepped
              split at stepped
              · rename_i started
                obtain rfl := Option.some.inj stepped
                exact schedulerStart_unescalated live started
              · obtain rfl := Option.some.inj stepped
                exact live ▸ nofun
          | _ => cases stepped
      | _ => cases plain

/-- With nothing masked and sound stack pointers no step stops the machine. -/
theorem StacksOk.step_unhalted
    {cfg : Config} {system after : System} {action : Action} {events : List Event}
    (stacksOk : StacksOk cfg system) (core : Core system) (unmasked : system.cpu = .unmasked)
    (sound : soundPsp system action)
    (step : system.step cfg action = some (after, events)) : after.kernel.halted = none := by
  rcases stacksOk.step_live core sound step with live | escalated
  · exact live
  · cases System.stepped step with
    | sysTick live => exact (sysTickHandler_updates system.kernel).framed.halted.trans live
    | @pendSv psp live due =>
        have running := stacksOk.kernel.pending ((Bool.and_eq_true _ _).mp due).1
        obtain ⟨current, present⟩ := core.control.started running
        have valid := (stacksOk.kernel.psp_valid_iff core.control running present).mpr
          (sound current present)
        obtain ⟨_, _, done⟩ := stacksOk.kernel.switches core.control running present valid
        exact (congrArg Kernel.halted (done.handler live).1).trans (done.control.2.trans live)
    | invoke active => exact (core.active_cases active).1
    | advance active _ stepped =>
        exact absurd escalated
          (Call.step_unescalated unmasked (core.active_cases active).1 stepped)
    | user active => exact (core.active_cases active).1

/-! ## Nobody is stuck -/

theorem StepResult.ofProgress_goto
    {memory : Memory} {waiting next : Point} {ended : Kernel × Progress Bool}
    (outcome : (StepResult.ofProgress memory waiting ended).outcome = .goto next) :
    next = waiting := by
  obtain ⟨kernel, progress⟩ := ended
  cases progress with
  | returned => cases outcome
  | waiting => exact (Outcome.goto.inj outcome).symm

/-- The points at which the tasks of an image stand in their calls. -/
def Call.visits : Call → Point → Bool
  | .queueSendWait .., .entry | .queueSendWait .., .armed _ | .queueSendWait .., .suspended _
  | .queueSendWait .., .signaled _ => true
  | .queueReceiveWait .., .entry | .queueReceiveWait .., .armed _
  | .queueReceiveWait .., .suspended _ | .queueReceiveWait .., .signaled _ => true
  | .taskSleep _, .entry | .taskSleep _, .asleep => true
  | .kernelCheckInvariants _, .entry => true
  | _, _ => false

namespace TaskRequest

variable {cfg : Config} {image : ReleaseImage cfg} {place : TaskPoint} {call : Call} {cpu : Cpu}
  {kernel : Kernel} {memory : Memory} {self : Nat} {point next : Point}

theorem enters (asked : TaskRequest image place call) : call.visits .entry = true := by
  cases asked <;> rfl

/-- There is a step at each of these points. -/
theorem continues (asked : TaskRequest image place call) (visits : call.visits point = true) :
    ∃ result, call.step cfg cpu kernel memory self point = some result := by
  cases asked with
  | sends | receives => cases point <;> first | exact ⟨_, rfl⟩ | cases visits
  | rests | pauses => cases point <;> first | exact ⟨_, rfl⟩ | cases visits
  | checks => cases point <;> first | exact ⟨_, rfl⟩ | cases visits

/-- It leads to another of them or out of the call. -/
theorem advances
    {result : StepResult} (asked : TaskRequest image place call)
    (stepped : call.step cfg cpu kernel memory self point = some result)
    (outcome : result.outcome = .goto next) : call.visits next = true := by
  cases asked with
  | checks =>
      cases point with
      | entry =>
          obtain rfl := Option.some.inj stepped
          cases outcome
      | _ => cases stepped
  | rests | pauses =>
      cases point with
      | entry =>
          obtain rfl := Option.some.inj stepped
          rw [StepResult.ofProgress_goto outcome]
          rfl
      | asleep =>
          obtain rfl := Option.some.inj stepped
          cases outcome
      | _ => cases stepped
  | sends | receives =>
      simp only [Call.step, queueSendStep, queueReceiveStep] at stepped
      cases point <;> grind [queueEntryStep, StepResult.arm, queueResumeStep, StepResult.reply,
        StepResult.goto, StepResult.ofProgress_goto, Call.visits]

end TaskRequest

/-- Every task stands at a point of its call. -/
def Release.Standing (release : Release) : Prop :=
  ∀ index call point, release.system.frames (.task index) = .inCall call point →
    call.visits point = true

theorem Release.Standing.step
    {cfg : Config} {image : ReleaseImage cfg} {release next : Release} {past : List Event}
    {action : ReleaseAction} {events : List ReleaseEvent}
    (standing : release.Standing) (ok : ReleaseOk image release) (run : Run cfg past release.system)
    (step : ReleaseStepped image release action next events) : next.Standing := by
  have core := Core.of_run run
  intro index call point frame
  have others : ∀ {taken system during thread}, release.system.activeThread = some thread →
      thread ≠ .task index → release.system.step cfg taken = some (system, during) →
      system.frames (.task index) = release.system.frames (.task index) :=
    fun active other moved => core.frame_of_other moved fun same =>
      other (Option.some.inj (active.symm.trans same))
  cases step with
  | exception exceptional moved =>
      have same := System.step_exception
        (exceptional.imp And.right fun ⟨psp, _, same⟩ => ⟨psp, same⟩) moved
      exact standing index call point ((congrFun same.1 _).symm.trans frame)
  | @invokes _ thread _ _ _ active requested moved =>
      by_cases own : thread = .task index
      · subst own
        obtain ⟨rfl, _⟩ := System.invoke_result active moved
        rw [Release.settle_system, System.setFrame_frames_self] at frame
        obtain ⟨rfl, rfl⟩ := Frame.inCall.inj frame
        exact (Release.taskRequest requested).enters
      · exact standing index call point ((others active own moved).symm.trans frame)
  | @advances _ thread _ _ _ _ _ _ active inCall stepped outcome moved =>
      by_cases own : thread = .task index
      · subst own
        have asked := ok.request_of_frame (core.active_current active).running inCall
        rw [Release.settle_system, (System.advance_result active inCall stepped moved).1,
          System.setFrame_frames_self, outcome] at frame
        obtain ⟨rfl, rfl⟩ := Frame.inCall.inj frame
        exact asked.advances stepped outcome
      · exact standing index call point ((others active own moved).symm.trans frame)
  | @returns _ thread _ _ _ _ _ _ active inCall stepped outcome moved =>
      rw [Release.resume_system, Release.settle_system] at frame
      by_cases own : thread = .task index
      · subst own
        rw [(System.advance_result active inCall stepped moved).1,
          System.setFrame_frames_self, outcome] at frame
        cases frame
      · exact standing index call point ((others active own moved).symm.trans frame)
  | acts active user _ acted =>
      have same := (Release.act_run active user acted).2.2
      exact standing index call point ((congrFun same _).symm.trans frame)

/-- The kernel goes on with a call of the running thread. -/
theorem ReleaseOk.continues
    {cfg : Config} {image : ReleaseImage cfg} {release : Release} {past : List Event}
    {thread : Thread} {call : Call} {point : Point} (ok : ReleaseOk image release)
    (standing : release.Standing) (run : Run cfg past release.system)
    (active : release.system.activeThread = some thread)
    (inCall : release.system.frames thread = .inCall call point) :
    ∃ result, call.step cfg release.system.cpu release.system.kernel release.system.memory
      thread.slot point = some result := by
  have core := Core.of_run run
  cases thread with
  | task index =>
      have asked := ok.request_of_frame (core.active_current active).running inCall
      exact asked.continues (standing index call point inCall)
  | boot =>
      cases (ok.booting (core.stopped_of_boot active)).frame with
      | user frame =>
          rw [inCall] at frame
          cases frame
      | enters requested frame =>
          obtain ⟨rfl, rfl⟩ := Frame.inCall.inj (inCall.symm.trans frame)
          have asked := bootRequest_cases requested
          generalize release.boot = boot at asked
          cases asked with
          | traces | queues => exact ⟨_, rfl⟩
          | creates =>
              simp only [Call.step, taskCreateStep, image.config_checked]
              split <;> exact ⟨_, rfl⟩
          | starts =>
              simp only [Call.step, schedulerStartStep]
              split <;> exact ⟨_, rfl⟩
      | reserves _ frame | builds _ frame =>
          obtain ⟨rfl, rfl⟩ := Frame.inCall.inj (inCall.symm.trans frame)
          exact ⟨_, rfl⟩
      | stopped halted =>
          rw [(core.active_cases active).1] at halted
          cases halted

/-- Every task of the image enters one of its functions. -/
theorem ReleaseImage.enter_isSome {cfg : Config} (image : ReleaseImage cfg) (index : Nat) :
    (Release.enter image (image.config index).entry).isSome = true := by
  unfold Release.enter
  match index with
  | 0 =>
      rw [if_pos (show (image.config 0).entry = image.producerEntry from rfl)]
      rfl
  | 1 =>
      split
      · rfl
      · rw [if_pos (show (image.config 1).entry = image.consumerEntry from rfl)]
        rfl
  | position + 2 =>
      split
      · rfl
      · split
        · rfl
        · rw [if_pos (show (image.config (position + 2)).entry = image.monitorEntry from rfl)]
          rfl

/-- Program steps are defined wherever no kernel call is due. -/
theorem Release.act_isSome
    {cfg : Config} {image : ReleaseImage cfg} {release : Release} {thread : Thread}
    (requested : release.request image thread = none) (input : UsartInput)
    (entered : ∀ index, thread = .task index → release.tasks index = .start →
      (Release.enter image (release.system.kernel.tasks index).entry).isSome = true) :
    (release.act image input thread).isSome = true := by
  cases thread with
  | boot =>
      simp only [Release.act, Option.isSome_map]
      simp only [Release.request] at requested
      generalize release.boot = boot at *
      cases boot with
      | trace | queue | producer | consumer | monitor | start => cases requested
      | asserts | status | halted => rfl
      | demoTasks =>
          simp only [Release.bootAct]
          split <;> rfl
      | _ =>
          simp only [Release.bootAct]
          split <;> rfl
  | task index =>
      simp only [Release.request] at requested
      simp only [Release.act]
      cases place : release.tasks index with
      | start =>
          rw [Option.isSome_map]
          exact entered index rfl place
      | producer point =>
          rw [place] at requested
          cases point with
          | sending | sleeping => cases requested
          | _ => rfl
      | consumer point =>
          rw [place] at requested
          cases point with
          | receiving => cases requested
          | _ => rfl
      | monitor point =>
          rw [place] at requested
          cases point with
          | checking | sleeping => cases requested
          | polling =>
              simp only [Release.monitorAct]
              split <;> rfl
          | readingTrace =>
              simp only [Release.monitorAct]
              split <;> rfl
          | tracing =>
              simp only [Release.monitorAct]
              split <;> rfl
          | _ => rfl

/-- Whoever may run has a next step. -/
theorem ReleaseOk.proceeds
    {cfg : Config} {image : ReleaseImage cfg} {release : Release} {past : List Event}
    {thread : Thread} (ok : ReleaseOk image release) (standing : release.Standing)
    (run : Run cfg past release.system) (active : release.system.activeThread = some thread)
    (input : UsartInput) : (release.step image (.run input)).isSome = true := by
  have core := Core.of_run run
  simp only [Release.step, active]
  cases frame : release.system.frames thread with
  | inCall call point =>
      obtain ⟨result, stepped⟩ := ok.continues standing run active frame
      simp only [Release.kernelStep, Option.isSome_map, System.step, active, Option.bind_some,
        System.advance, frame, stepped, Option.isSome_some]
  | user =>
      cases requested : release.request image thread with
      | some call =>
          simp only [Release.kernelStep, Option.isSome_map, System.step, active, frame, if_true,
            Option.isSome_some]
      | none =>
          refine Release.act_isSome requested input fun index same _ => ?_
          subst same
          have registered := core.current_lt (core.active_current active).currentTask
          rw [(ok.hosts index registered).entry]
          exact image.enter_isSome index

/-! ## Every run -/

/-- The records of assertions and faults are as the reset handler left them. -/
def Release.Unrecorded (release : Release) : Prop :=
  release.assertCount = 0 ∧ release.faultMagic = 0

theorem Release.Unrecorded.acts
    {cfg : Config} {image : ReleaseImage cfg} {release next : Release} {input : UsartInput}
    {thread : Thread} {events : List ReleaseEvent} (unrecorded : release.Unrecorded)
    (acted : release.act image input thread = some (next, events)) : next.Unrecorded := by
  cases thread with
  | boot =>
      obtain ⟨booted, moved, same⟩ := Option.map_eq_some_iff.mp acted
      obtain ⟨rfl, _⟩ := Prod.mk.inj same
      generalize release.boot = boot at moved
      cases boot <;> grind [Release.bootAct, Unrecorded]
  | task index =>
      simp only [Release.act] at acted
      split at acted
      · obtain ⟨point, _, same⟩ := Option.map_eq_some_iff.mp acted
        obtain ⟨rfl, _⟩ := Prod.mk.inj same
        exact unrecorded
      · rename_i point _
        obtain ⟨moved, produced, same⟩ := Option.map_eq_some_iff.mp acted
        obtain ⟨rfl, _⟩ := Prod.mk.inj same
        cases point <;> grind [Release.producerAct, Release.setPoint, Release.withMemory,
          Unrecorded]
      · rename_i point _
        obtain ⟨moved, consumed, same⟩ := Option.map_eq_some_iff.mp acted
        obtain ⟨rfl, _⟩ := Prod.mk.inj same
        cases point <;> grind [Release.consumerAct, Release.setPoint, Unrecorded]
      · rename_i point _
        cases point with
        | writing text place following =>
            cases place <;> grind [Release.monitorAct, Release.writeAct, Release.setPoint,
              Unrecorded]
        | polling => grind [Release.monitorAct, Release.setPoint, Unrecorded]
        | _ => grind [Release.monitorAct, Release.writeLine, Release.setPoint, Unrecorded]

theorem Release.Unrecorded.step
    {cfg : Config} {image : ReleaseImage cfg} {release next : Release}
    {action : ReleaseAction} {events : List ReleaseEvent}
    (unrecorded : release.Unrecorded) (live : next.system.kernel.halted = none)
    (step : ReleaseStepped image release action next events) : next.Unrecorded := by
  have settles : ∀ {system : System}, system.kernel.halted = none →
      (release.settle system).Unrecorded := by
    intro system alive
    simp only [Unrecorded, settle, alive]
    exact unrecorded
  cases step with
  | exception => exact settles live
  | invokes => exact settles live
  | advances => exact settles live
  | @returns _ thread _ _ _ reply system =>
      rw [Release.resume_system] at live
      have settled := settles live
      cases thread with
      | task => exact settled
      | boot =>
          simp only [Release.resume, Release.resumeBoot]
          split <;> exact settled
  | acts _ _ _ acted => exact unrecorded.acts acted

/-- What holds of the image when each switch saves a sound stack pointer. -/
structure ReleaseSound {cfg : Config} (image : ReleaseImage cfg) (release : Release) : Prop where
  ok : ReleaseOk image release
  standing : release.Standing
  live : release.system.kernel.halted = none
  unrecorded : release.Unrecorded

namespace ReleaseSound

variable {cfg : Config} {image : ReleaseImage cfg} {release : Release}
  {events : List ReleaseEvent}

theorem of_run (run : (releaseMachine image).Run soundSwitches events release) :
    ReleaseSound image release := by
  have projects : Machine.Projects (releaseMachine image) (forge cfg) soundSwitches
      Machine.anyStep Release.system ReleaseEvent.shown :=
    release_projects (fun _ _ _ _ => trivial) fun _ _ _ => trivial
  refine projects.invariant (motive := fun _ release => ReleaseSound image release) run
    ⟨.initial image, fun _ _ _ frame => (nomatch frame), rfl, rfl, rfl⟩ ?_
  rintro past emitted middle next action reached ⟨ok, standing, live, unrecorded⟩ sound stepped
  have step := Release.stepped stepped
  have core := Core.of_run reached
  have goesOn : ∀ {taken system during}, middle.system.step cfg taken = some (system, during) →
      soundPsp middle.system taken → system.kernel.halted = none :=
    fun moved soundTaken =>
      (StacksOk.of_run reached).step_unhalted core ok.cpu soundTaken moved
  have lives : next.system.kernel.halted = none := by
    cases step with
    | exception exceptional moved =>
        rcases exceptional with ⟨rfl, rfl⟩ | ⟨psp, rfl, rfl⟩
        · exact goesOn moved trivial
        · exact goesOn moved sound
    | invokes _ _ moved => exact goesOn moved trivial
    | advances _ _ _ _ moved => exact goesOn moved trivial
    | returns _ _ _ _ moved =>
        rw [Release.resume_system]
        exact goesOn moved trivial
    | acts active user _ acted =>
        rw [(Release.act_run active user acted).2.1]
        exact live
  exact ⟨ok.step reached step, standing.step ok reached step, lives, unrecorded.step lives step⟩

end ReleaseSound

/-- The image boots, its tasks stay as configured, nothing is ever recorded as failed, and
some step is always possible. -/
theorem release_never_stops
    {cfg : Config} {image : ReleaseImage cfg} {events : List ReleaseEvent} {release : Release}
    (run : (releaseMachine image).Run soundSwitches events release) :
    release.system.kernel.halted = none ∧ release.boot ≠ .halted ∧
    release.assertCount = 0 ∧ release.faultMagic = 0 ∧
    (release.system.kernel.running = true →
      release.boot = .start ∧ release.system.kernel.taskCount = 3 ∧
      ∀ index < 3, (release.system.kernel.tasks index).id = index + 1 ∧
        (release.system.kernel.tasks index).entry = (image.config index).entry ∧
        (release.system.kernel.tasks index).priority = (image.config index).priority ∧
        (release.system.kernel.tasks index).basePriority = (image.config index).priority) ∧
    (∀ psp, release.system.pendSvDue = true →
      (release.step image (.pendSv psp)).isSome = true) ∧
    (∀ thread input, release.system.activeThread = some thread →
      (release.step image (.run input)).isSome = true) ∧
    (release.system.kernel.running = true → (release.step image .sysTick).isSome = true) := by
  obtain ⟨ok, standing, live, unasserted, unfaulted⟩ := ReleaseSound.of_run run
  have kernelRun := (release_projects (fun _ _ _ _ => trivial) fun _ _ _ => trivial).run run
  have unmasked := ok.cpu
  refine ⟨live, fun halted => ?_, unasserted, unfaulted, fun running => ?_, fun psp due => ?_,
    fun thread input active => ok.proceeds standing kernelRun active input, fun running => ?_⟩
  · cases running : release.system.kernel.running with
    | false => exact (ok.booting running).proceeds halted
    | true => exact absurd ((ok.deployed running).boot.symm.trans halted) nofun
  · have deployed := ok.deployed running
    refine ⟨deployed.boot, deployed.taskCount, fun index small => ?_⟩
    have hosts := ok.hosts index (deployed.taskCount.symm ▸ small)
    exact ⟨hosts.id, hosts.entry, (ok.priority_eq kernelRun index).trans hosts.basePriority,
      hosts.basePriority⟩
  · simp only [Release.step, Release.kernelStep, System.step, live, due, Option.isSome_none,
      Bool.not_true, Bool.or_self, Bool.false_eq_true, if_false, Option.map_some,
      Option.isSome_some]
  · simp only [Release.step, (ok.deployed running).ticking, if_true, Release.kernelStep,
      System.step, live, unmasked, Cpu.unmasked, Cpu.sysTickMasked, Option.isSome_none]
    rfl

/-- The opening of a run, up to the monitor. -/
theorem opening_goes_on :
    ∃ events release, (releaseMachine ReleaseImage.default).Run soundSwitches events release ∧
      release.system.kernel.running = true ∧
      (release.step ReleaseImage.default .sysTick).isSome = true := by
  obtain ⟨events, release, run, running⟩ :=
    Machine.RunFrom.exists_of_execFrom (releaseMachine ReleaseImage.default) soundSwitches
      Release.reset ReleaseImage.default.opening
      (fun _ release => decide (release.system.kernel.running = true)) (by decide +kernel)
  have started := of_decide_eq_true running
  obtain ⟨_, _, _, _, _, _, _, ticks⟩ := release_never_stops run
  exact ⟨events, release, run, started, ticks started⟩

end ForgeKernel
