import ForgeKernel.Model.Release
import ForgeKernel.Invariant.Steps
import ForgeKernel.Property.Preemption

/-!
# Steps of the release image

What one step of the image does, and the run of the kernel behind every run of
the image.
-/

namespace ForgeKernel

open Machines

/-! ## Inversion -/

/-- The kinds of steps of an image. -/
inductive ReleaseStepped
    {cfg : Config} (image : ReleaseImage cfg) (release : Release) :
    ReleaseAction → Release → List ReleaseEvent → Prop
  | exception {action : ReleaseAction} {taken : Action} {system : System} {events : List Event}
      (exceptional : (action = .sysTick ∧ taken = .sysTick) ∨
        ∃ psp, action = .pendSv psp ∧ taken = .pendSv psp)
      (moved : release.system.step cfg taken = some (system, events)) :
      ReleaseStepped image release action (release.settle system) (events.map .kernel)
  | invokes {input : UsartInput} {thread : Thread} {call : Call} {system : System}
      {events : List Event}
      (active : release.system.activeThread = some thread)
      (requested : release.request image thread = some call)
      (moved : release.system.step cfg (.invoke call) = some (system, events)) :
      ReleaseStepped image release (.run input) (release.settle system) (events.map .kernel)
  | advances {input : UsartInput} {thread : Thread} {call : Call} {point next : Point}
      {result : StepResult} {system : System} {events : List Event}
      (active : release.system.activeThread = some thread)
      (inCall : release.system.frames thread = .inCall call point)
      (stepped : call.step cfg release.system.cpu release.system.kernel release.system.memory
        thread.slot point = some result)
      (outcome : result.outcome = .goto next)
      (moved : release.system.step cfg .advance = some (system, events)) :
      ReleaseStepped image release (.run input) (release.settle system) (events.map .kernel)
  | returns {input : UsartInput} {thread : Thread} {call : Call} {point : Point}
      {result : StepResult} {reply : Reply} {system : System} {events : List Event}
      (active : release.system.activeThread = some thread)
      (inCall : release.system.frames thread = .inCall call point)
      (stepped : call.step cfg release.system.cpu release.system.kernel release.system.memory
        thread.slot point = some result)
      (outcome : result.outcome = .reply reply)
      (moved : release.system.step cfg .advance = some (system, events)) :
      ReleaseStepped image release (.run input) ((release.settle system).resume reply thread)
        (events.map .kernel)
  | acts {input : UsartInput} {thread : Thread} {next : Release} {events : List ReleaseEvent}
      (active : release.system.activeThread = some thread)
      (user : release.system.frames thread = .user)
      (requested : release.request image thread = none)
      (acted : release.act image input thread = some (next, events)) :
      ReleaseStepped image release (.run input) next events

theorem findSome?_reply_observe
    (system : System) (thread : Thread) (call : Call) (point : Point) (result : StepResult)
    (rest : List Event) :
    (observe system thread call point result ++ rest).findSome? Event.reply =
      rest.findSome? Event.reply := by
  rw [List.findSome?_append]
  have silent : (observe system thread call point result).findSome? Event.reply = none := by
    rw [List.findSome?_eq_none_iff]
    intro event present
    cases event with
    | returned => exact absurd present returned_notMem_observe
    | _ => rfl
  rw [silent, Option.none_or]

/-- A kernel step of the image is a step of the kernel. -/
theorem Release.kernelStep_some
    {cfg : Config} {release next : Release} {action : Action} {events : List Event}
    (taken : release.kernelStep cfg action = some (next, events)) :
    ∃ system, release.system.step cfg action = some (system, events) ∧
      next = release.settle system := by
  obtain ⟨⟨system, emitted⟩, moved, same⟩ := Option.map_eq_some_iff.mp taken
  obtain ⟨rfl, rfl⟩ := Prod.mk.inj same
  exact ⟨system, moved, rfl⟩

/-- Every step of the image is one of these. -/
theorem Release.stepped
    {cfg : Config} {image : ReleaseImage cfg} {release next : Release} {action : ReleaseAction}
    {events : List ReleaseEvent}
    (step : release.step image action = some (next, events)) :
    ReleaseStepped image release action next events := by
  cases action with
  | sysTick =>
      simp only [Release.step] at step
      split at step
      · obtain ⟨⟨settled, emitted⟩, taken, same⟩ := Option.map_eq_some_iff.mp step
        obtain ⟨system, moved, rfl⟩ := Release.kernelStep_some taken
        obtain ⟨rfl, rfl⟩ := Prod.mk.inj same
        exact .exception (Or.inl ⟨rfl, rfl⟩) moved
      · cases step
  | pendSv psp =>
      simp only [Release.step] at step
      obtain ⟨⟨settled, emitted⟩, taken, same⟩ := Option.map_eq_some_iff.mp step
      obtain ⟨system, moved, rfl⟩ := Release.kernelStep_some taken
      obtain ⟨rfl, rfl⟩ := Prod.mk.inj same
      exact .exception (Or.inr ⟨psp, rfl, rfl⟩) moved
  | run input =>
      simp only [Release.step] at step
      split at step
      · cases step
      · rename_i thread active
        split at step
        · rename_i call point _ inCall
          obtain ⟨⟨settled, emitted⟩, taken, same⟩ := Option.map_eq_some_iff.mp step
          obtain ⟨system, moved, rfl⟩ := Release.kernelStep_some taken
          cases System.stepped moved with
          | @advance caller called from_ result nowActive entered stepped =>
              obtain rfl := Option.some.inj (active.symm.trans nowActive)
              obtain ⟨rfl, rfl⟩ := Frame.inCall.inj (entered.symm.trans inCall)
              rw [findSome?_reply_observe] at same
              obtain ⟨rfl, rfl⟩ := Prod.mk.inj same
              cases outcome : result.outcome with
              | goto next =>
                  simp only [Outcome.returns, List.findSome?_nil]
                  exact .advances active inCall stepped outcome (by rw [moved, outcome]; rfl)
              | reply value =>
                  exact .returns active inCall stepped outcome (by rw [moved, outcome])
          | user nowActive user =>
              obtain rfl := Option.some.inj (active.symm.trans nowActive)
              rw [inCall] at user
              cases user
        · rename_i requested
          obtain ⟨⟨settled, emitted⟩, taken, same⟩ := Option.map_eq_some_iff.mp step
          obtain ⟨system, moved, rfl⟩ := Release.kernelStep_some taken
          obtain ⟨rfl, rfl⟩ := Prod.mk.inj same
          exact .invokes active requested moved
        · rename_i user requested
          exact .acts active user requested step

/-! ## The run of the kernel -/

@[simp] theorem Release.settle_system (release : Release) (system : System) :
    (release.settle system).system = system := rfl

@[simp] theorem Release.resume_system (release : Release) (reply : Reply) (thread : Thread) :
    (release.resume reply thread).system = release.system := by
  cases thread with
  | boot =>
      simp only [Release.resume, Release.resumeBoot]
      split <;> rfl
  | task index => rfl

/-- One step is a run. -/
theorem System.step_run
    {cfg : Config} {allowed : System → Action → Prop} {system after : System} {action : Action}
    {events : List Event}
    (permitted : allowed system action)
    (moved : system.step cfg action = some (after, events)) :
    (forge cfg).RunFrom allowed system events after :=
  .single permitted moved

/-- User code stores a block byte by byte. -/
theorem System.storeBytes_run
    {cfg : Config} {allowed : System → Action → Prop} {system : System} {thread : Thread}
    (stores : ∀ state address value, allowed state (.storeByte address value))
    (active : system.activeThread = some thread) (user : system.frames thread = .user)
    (address : Nat) (bytes : List Byte) :
    (forge cfg).RunFrom allowed system []
      { system with memory := storeBytes system.memory address bytes } := by
  induction bytes generalizing system address with
  | nil => exact .refl
  | cons byte bytes inductionHypothesis =>
      let written := { system with memory := Function.update system.memory address byte }
      have stored : (forge cfg).RunFrom allowed system [] written := by
        refine .single (stores system address byte) ?_
        simp only [forge, System.step, System.userStep, active, user, if_true, written]
      have activeStill : written.activeThread = some thread := active
      exact stored.trans (inductionHypothesis activeStill user (address + 1))

/-- Boot code between its calls leaves the kernel alone. -/
theorem Release.bootAct_system
    {release next : Release} {point : BootPoint} (acted : release.bootAct point = some next) :
    next.system = release.system := by
  cases point <;> grind [Release.bootAct]

/-- So does the consumer. -/
theorem Release.consumerAct_system
    {cfg : Config} {image : ReleaseImage cfg} {release next : Release} {index : Nat}
    {point : ConsumerPoint} (acted : release.consumerAct image index point = some next) :
    next.system = release.system := by
  cases point <;> grind [Release.consumerAct, Release.setPoint]

/-- So does the monitor, and what it does is no kernel event. -/
theorem Release.monitorAct_system
    {release next : Release} {input : UsartInput} {index : Nat} {point : MonitorPoint}
    {events : List ReleaseEvent}
    (acted : release.monitorAct input index point = some (next, events)) :
    next.system = release.system ∧ events.flatMap ReleaseEvent.shown = [] := by
  cases point with
  | writing text place following =>
      cases place <;> grind [Release.monitorAct, Release.writeAct, Release.setPoint,
        ReleaseEvent.shown]
  | polling => grind [Release.monitorAct, Release.setPoint, ReleaseEvent.shown]
  | _ => grind [Release.monitorAct, Release.writeLine, Release.setPoint]

/-- The producer stores its message at most. -/
theorem Release.producerAct_system
    {cfg : Config} {image : ReleaseImage cfg} {release next : Release} {index : Nat}
    {point : ProducerPoint} (acted : release.producerAct image index point = some next) :
    next.system = release.system ∨ ∃ bytes, next.system = { release.system with
      memory := storeBytes release.system.memory image.producerMessage.toNat bytes } := by
  cases point <;> grind [Release.producerAct, Release.setPoint, Release.withMemory]

/-- No thread changes kernel data between its calls. -/
theorem Release.act_system
    {cfg : Config} {image : ReleaseImage cfg} {release next : Release} {input : UsartInput}
    {thread : Thread} {events : List ReleaseEvent}
    (acted : release.act image input thread = some (next, events)) :
    events.flatMap ReleaseEvent.shown = [] ∧ (next.system = release.system ∨
      ∃ bytes, next.system = { release.system with
        memory := storeBytes release.system.memory image.producerMessage.toNat bytes }) := by
  cases thread with
  | boot =>
      obtain ⟨booted, moved, same⟩ := Option.map_eq_some_iff.mp acted
      obtain ⟨rfl, rfl⟩ := Prod.mk.inj same
      exact ⟨rfl, Or.inl (Release.bootAct_system moved)⟩
  | task index =>
      simp only [Release.act] at acted
      split at acted
      · obtain ⟨point, _, same⟩ := Option.map_eq_some_iff.mp acted
        obtain ⟨rfl, rfl⟩ := Prod.mk.inj same
        exact ⟨rfl, Or.inl rfl⟩
      · obtain ⟨moved, produced, same⟩ := Option.map_eq_some_iff.mp acted
        obtain ⟨rfl, rfl⟩ := Prod.mk.inj same
        exact ⟨rfl, Release.producerAct_system produced⟩
      · obtain ⟨moved, consumed, same⟩ := Option.map_eq_some_iff.mp acted
        obtain ⟨rfl, rfl⟩ := Prod.mk.inj same
        exact ⟨rfl, Or.inl (Release.consumerAct_system consumed)⟩
      · obtain ⟨same, silent⟩ := Release.monitorAct_system acted
        exact ⟨silent, Or.inl same⟩

/-- A program step as a run of the kernel. -/
theorem Release.act_runFrom
    {cfg : Config} {image : ReleaseImage cfg} {release next : Release} {input : UsartInput}
    {thread : Thread} {events : List ReleaseEvent} {allowed : System → Action → Prop}
    (stores : ∀ state address value, allowed state (.storeByte address value))
    (active : release.system.activeThread = some thread)
    (user : release.system.frames thread = .user)
    (acted : release.act image input thread = some (next, events)) :
    (forge cfg).RunFrom allowed release.system [] next.system := by
  obtain ⟨_, same | ⟨bytes, same⟩⟩ := Release.act_system acted
  · rw [same]
    exact .refl
  · rw [same]
    exact System.storeBytes_run stores active user _ bytes

/-- A program step keeps all but the user memory. -/
theorem Release.act_run
    {cfg : Config} {image : ReleaseImage cfg} {release next : Release} {input : UsartInput}
    {thread : Thread} {events : List ReleaseEvent}
    (active : release.system.activeThread = some thread)
    (user : release.system.frames thread = .user)
    (acted : release.act image input thread = some (next, events)) :
    (forge cfg).RunFrom Machine.anyStep release.system [] next.system ∧
      next.system.kernel = release.system.kernel ∧ next.system.frames = release.system.frames := by
  refine ⟨Release.act_runFrom (fun _ _ _ => trivial) active user acted, ?_⟩
  obtain ⟨_, same | ⟨bytes, same⟩⟩ := Release.act_system acted
  · rw [same]
    exact ⟨rfl, rfl⟩
  · rw [same]
    exact ⟨rfl, rfl⟩

/-- A step of the image is a step of the kernel or leaves the kernel's data alone. -/
theorem ReleaseStepped.kernel
    {cfg : Config} {image : ReleaseImage cfg} {release next : Release} {action : ReleaseAction}
    {events : List ReleaseEvent} (step : ReleaseStepped image release action next events) :
    (∃ taken during, (∀ primask faultmask basepri, taken ≠ .setMasks primask faultmask basepri) ∧
        release.system.step cfg taken = some (next.system, during)) ∨
      (next.system.kernel = release.system.kernel ∧ next.system.cpu = release.system.cpu ∧
        next.system.frames = release.system.frames) := by
  cases step with
  | exception exceptional moved =>
      refine Or.inl ⟨_, _, fun _ _ _ same => ?_, moved⟩
      rcases exceptional with ⟨_, rfl⟩ | ⟨_, _, rfl⟩ <;> cases same
  | invokes _ _ moved => exact Or.inl ⟨_, _, fun _ _ _ same => Action.noConfusion same, moved⟩
  | advances _ _ _ _ moved => exact Or.inl ⟨_, _, fun _ _ _ same => Action.noConfusion same, moved⟩
  | @returns _ _ _ _ _ _ _ during _ _ _ _ moved =>
      refine Or.inl ⟨.advance, during, nofun, ?_⟩
      rw [Release.resume_system]
      exact moved
  | acts _ _ _ acted =>
      right
      obtain ⟨_, same | ⟨bytes, same⟩⟩ := Release.act_system acted
      · rw [same]
        exact ⟨rfl, rfl, rfl⟩
      · rw [same]
        exact ⟨rfl, rfl, rfl⟩

/-- Kernel events are shown as they are. -/
theorem ReleaseEvent.shown_kernel (events : List Event) :
    (events.map ReleaseEvent.kernel).flatMap ReleaseEvent.shown = events := by
  induction events with
  | nil => rfl
  | cons event events inductionHypothesis =>
      rw [List.map_cons, List.flatMap_cons, inductionHypothesis]
      rfl

/-- The kernel calls of the tasks. -/
inductive TaskRequest {cfg : Config} (image : ReleaseImage cfg) : TaskPoint → Call → Prop
  | sends (sequence : Word) :
      TaskRequest image (.producer (.sending sequence))
        (.queueSendWait (some 0) image.producerMessage waitForever)
  | rests (sequence : Word) :
      TaskRequest image (.producer (.sleeping sequence)) (.taskSleep demoProducerPeriodTicks)
  | receives (expectedSequence : Word) :
      TaskRequest image (.consumer (.receiving expectedSequence))
        (.queueReceiveWait (some 0) image.consumerMessage waitForever)
  | checks : TaskRequest image (.monitor .checking) (.kernelCheckInvariants true)
  | pauses : TaskRequest image (.monitor .sleeping) (.taskSleep monitorPollTicks)

/-- The kernel calls of the tasks are these. -/
theorem Release.taskRequest
    {cfg : Config} {image : ReleaseImage cfg} {release : Release} {index : Nat} {call : Call}
    (requested : release.request image (.task index) = some call) :
    TaskRequest image (release.tasks index) call := by
  simp only [Release.request] at requested
  cases place : release.tasks index with
  | start =>
      rw [place] at requested
      cases requested
  | producer point =>
      rw [place] at requested
      cases point with
      | sending | sleeping =>
          cases requested
          constructor
      | _ => cases requested
  | consumer point =>
      rw [place] at requested
      cases point with
      | receiving =>
          cases requested
          constructor
      | _ => cases requested
  | monitor point =>
      rw [place] at requested
      cases point with
      | checking | sleeping =>
          cases requested
          constructor
      | _ => cases requested

/-- Only boot code creates tasks. -/
theorem Release.request_creates
    {cfg : Config} {image : ReleaseImage cfg} {release : Release} {thread : Thread} {call : Call}
    (active : release.system.activeThread = some thread)
    (requested : release.request image thread = some call) :
    createsBeforeStart release.system (.invoke call) := by
  cases thread with
  | boot =>
      intro _
      unfold System.activeThread at active
      split at active
      · cases active
      · split at active
        · obtain ⟨index, _, other⟩ := Option.map_eq_some_iff.mp active
          cases other
        · rename_i stopped
          exact Bool.not_eq_true _ ▸ stopped
  | task index =>
      intro creates
      have asked := Release.taskRequest requested
      generalize release.tasks index = place at asked
      cases asked <;> cases creates

/-- Behind every run of the image is a run of the kernel with the same kernel events. -/
theorem release_projects
    {cfg : Config} {image : ReleaseImage cfg}
    {lowerAllowed : Release → ReleaseAction → Prop} {upperAllowed : System → Action → Prop}
    (plain : ∀ system action, (∀ psp, action ≠ .pendSv psp) →
      createsBeforeStart system action → upperAllowed system action)
    (switches : ∀ release psp, lowerAllowed release (.pendSv psp) →
      upperAllowed release.system (.pendSv psp)) :
    Machine.Projects (releaseMachine image) (forge cfg) lowerAllowed upperAllowed
      Release.system ReleaseEvent.shown where
  initial := rfl
  step := by
    intro release next action events permitted step
    cases Release.stepped step with
    | exception exceptional moved =>
        rw [ReleaseEvent.shown_kernel]
        refine System.step_run ?_ moved
        rcases exceptional with ⟨rfl, rfl⟩ | ⟨psp, rfl, rfl⟩
        · exact plain _ _ (by simp) (by simp [createsBeforeStart, Action.createsTask])
        · exact switches release psp permitted
    | invokes active requested moved =>
        rw [ReleaseEvent.shown_kernel]
        exact System.step_run
          (plain _ _ (by simp) (Release.request_creates active requested)) moved
    | advances _ _ _ _ moved =>
        rw [ReleaseEvent.shown_kernel]
        exact System.step_run
          (plain _ _ (by simp) (by simp [createsBeforeStart, Action.createsTask])) moved
    | returns _ _ _ _ moved =>
        rw [ReleaseEvent.shown_kernel, Release.resume_system]
        exact System.step_run
          (plain _ _ (by simp) (by simp [createsBeforeStart, Action.createsTask])) moved
    | acts active user _ acted =>
        rw [(Release.act_system acted).1]
        exact Release.act_runFrom (fun state address value => plain _ _ (by simp)
          (by simp [createsBeforeStart, Action.createsTask])) active user acted

end ForgeKernel
