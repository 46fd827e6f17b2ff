import ForgeKernel.Invariant.ReleaseSteps
import ForgeKernel.Invariant.Stacks
import ForgeKernel.Property.EndlessWaits

/-!
# The threads of the release image

The invariant that ties the program point of every thread to its kernel frame, for
the boot code and for the three tasks, and the calls that the tasks are in.
-/

namespace ForgeKernel

open Machines

/-! ## Steps that create no task -/

/-- A step outside `fr_task_create` registers no task. -/
theorem Core.step_taskCount
    {cfg : Config} {system after : System} {action : Action} {events : List Event}
    (core : Core system)
    (uncreated : ∀ thread outTask config point, system.activeThread = some thread →
      system.frames thread ≠ .inCall (.taskCreate outTask config) point)
    (step : system.step cfg action = some (after, events)) :
    after.kernel.taskCount = system.kernel.taskCount := by
  cases System.stepped step with
  | sysTick =>
      cases running : system.kernel.running with
      | false => rw [sysTickHandler_stopped running]; rfl
      | true => exact (sysTickHandler_expired core.waitsNamed running).1.woken.taskCount
  | @pendSv psp live =>
      rcases pendSvHandler_outcome psp core.control live with stopped | resumed
      · exact stopped.taskCount
      · exact resumed.taskCount
  | invoke => rfl
  | advance active inCall stepped =>
      refine (core.advance_sameSlots (fun outTask config same => ?_) stepped).taskCount
      exact uncreated _ outTask config _ active (same ▸ inCall)
  | user => rfl

/-- Exceptions leave the frames and the memory alone. -/
theorem System.step_exception
    {cfg : Config} {system after : System} {action : Action} {events : List Event}
    (exceptional : action = .sysTick ∨ ∃ psp, action = .pendSv psp)
    (step : system.step cfg action = some (after, events)) :
    after.frames = system.frames ∧ after.memory = system.memory ∧ events = [] := by
  rcases exceptional with rfl | ⟨psp, rfl⟩
  all_goals
    simp only [System.step] at step
    split at step
    · cases step
    · obtain ⟨rfl, rfl⟩ := Prod.mk.inj (Option.some.inj step)
      exact ⟨rfl, rfl, rfl⟩

@[simp] theorem System.setFrame_frames_self (system : System) (thread : Thread) (frame : Frame) :
    (system.setFrame thread frame).frames thread = frame :=
  Function.update_self ..

theorem System.setFrame_frames_of_ne
    (system : System) {thread other : Thread} (frame : Frame) (ne : other ≠ thread) :
    (system.setFrame thread frame).frames other = system.frames other :=
  Function.update_of_ne ne ..

/-- A thread that makes a call. -/
theorem System.invoke_result
    {cfg : Config} {system after : System} {thread : Thread} {call : Call} {events : List Event}
    (active : system.activeThread = some thread)
    (moved : system.step cfg (.invoke call) = some (after, events)) :
    after = system.setFrame thread (.inCall call .entry) ∧
      system.frames thread = .user ∧ events = [.called thread call] := by
  simp only [System.step, active] at moved
  split at moved
  · rename_i user
    obtain ⟨rfl, rfl⟩ := Prod.mk.inj (Option.some.inj moved)
    exact ⟨rfl, user, rfl⟩
  · cases moved

/-- The step that a thread in a call makes, as a function of the call's step. -/
theorem System.advance_result
    {cfg : Config} {system after : System} {thread : Thread} {call : Call} {point : Point}
    {result : StepResult} {events : List Event}
    (active : system.activeThread = some thread)
    (inCall : system.frames thread = .inCall call point)
    (stepped : call.step cfg system.cpu system.kernel system.memory thread.slot point =
      some result)
    (moved : system.step cfg .advance = some (after, events)) :
    after = { system with
        kernel := result.kernel
        memory := result.memory }.setFrame thread (result.outcome.frame call) ∧
      events = observe system thread call point result ++ result.outcome.returns thread call := by
  cases System.stepped moved with
  | advance nowActive entered decided =>
      obtain rfl := Option.some.inj (active.symm.trans nowActive)
      obtain ⟨rfl, rfl⟩ := Frame.inCall.inj (entered.symm.trans inCall)
      obtain rfl := Option.some.inj (decided.symm.trans stepped)
      exact ⟨rfl, rfl⟩
  | user nowActive user =>
      obtain rfl := Option.some.inj (active.symm.trans nowActive)
      rw [inCall] at user
      cases user

section Others

variable {cfg : Config} {system after : System} {action : Action} {events : List Event}
  {index : Nat}

/-- A step returns from calls of the active thread only. -/
theorem System.unreturned
    (step : system.step cfg action = some (after, events))
    (other : system.activeThread ≠ some (.task index)) (call : Call) (reply : Reply) :
    Event.returned (.task index) call reply ∉ events := by
  intro present
  obtain ⟨_, _, active, _⟩ := (System.stepped step).returned present
  exact other active

/-- A step moves the active thread only. -/
theorem Core.frame_of_other
    (core : Core system) (step : system.step cfg action = some (after, events))
    (other : system.activeThread ≠ some (.task index)) :
    after.frames (.task index) = system.frames (.task index) := by
  cases core.taskStep step index with
  | invokes active => exact absurd active other
  | advances active => exact absurd active other
  | watches frame => exact frame

end Others

/-- Boot code is active before the start only. -/
theorem Core.stopped_of_boot
    {system : System} (core : Core system) (active : system.activeThread = some .boot) :
    system.kernel.running = false := by
  rcases (core.active_cases active).2 with ⟨_, stopped⟩ | ⟨_, other, _⟩
  · exact stopped
  · cases other

/-! ## The tasks -/

namespace ReleaseImage

variable {cfg : Config} (image : ReleaseImage cfg)

/-- The configurations in the order of creation. -/
def config : Nat → TaskConfig
  | 0 => image.producerConfig
  | 1 => image.consumerConfig
  | _ => image.monitorConfig

/-- The slot holds the image's task of this index. -/
def Hosts (kernel : Kernel) (index : Nat) : Prop :=
  (kernel.tasks index).identity = (Task.zero.reserve index (image.config index)).identity

variable {image}

theorem Hosts.entry {kernel : Kernel} {index : Nat} (hosts : image.Hosts kernel index) :
    (kernel.tasks index).entry = (image.config index).entry :=
  congrArg TaskIdentity.entry hosts

theorem Hosts.basePriority {kernel : Kernel} {index : Nat} (hosts : image.Hosts kernel index) :
    (kernel.tasks index).basePriority = (image.config index).priority :=
  congrArg TaskIdentity.basePriority hosts

theorem Hosts.id {kernel : Kernel} {index : Nat} (hosts : image.Hosts kernel index) :
    (kernel.tasks index).id = index + 1 :=
  congrArg TaskIdentity.id hosts

end ReleaseImage

/-- The functions run by the three tasks. -/
def TaskPoint.fits : TaskPoint → Nat → Prop
  | .start, _ => True
  | .producer _, index => index = 0
  | .consumer _, index => index = 1
  | .monitor _, index => index = 2

/-- The frame of a task agrees with its program point. -/
inductive TaskOk {cfg : Config} (image : ReleaseImage cfg) (release : Release) (index : Nat) :
    Prop
  | user (frame : release.system.frames (.task index) = .user)
  | waits {call : Call}
      (requested : release.request image (.task index) = some call)
      (endless : call.endless = true)
      (enduring : Enduring index call release.system)
  | checks
      (requested : release.request image (.task index) = some (.kernelCheckInvariants true))
      (frame : release.system.frames (.task index) =
        .inCall (.kernelCheckInvariants true) .entry)

/-- The queue of the demo, as `fr_release_demo_init` configures it. -/
structure DemoQueue (queue : Queue) : Prop where
  magic : queue.magic = queueMagic
  capacity : queue.capacity = demoQueueCapacity
  itemSize : queue.itemSize = demoMessageSize

/-- The image once its scheduler runs. -/
structure Deployed {cfg : Config} (image : ReleaseImage cfg) (release : Release) : Prop where
  boot : release.boot = .start
  taskCount : release.system.kernel.taskCount = 3
  queue : DemoQueue (release.system.kernel.queues 0)
  uart : release.uart.initialized = true
  ticking : release.ticking = true
  fits : ∀ index, (release.tasks index).fits index
  tasks : ∀ index, TaskOk image release index

/-- The tasks of the image wait forever or only look. -/
theorem TaskRequest.endless_or_checks
    {cfg : Config} {image : ReleaseImage cfg} {point : TaskPoint} {call : Call}
    (asked : TaskRequest image point call) :
    call.endless = true ∨ call = .kernelCheckInvariants true := by
  cases asked with
  | sends => exact Or.inl (decide_eq_true ⟨image.messages_ne_null.1, rfl⟩)
  | rests => exact Or.inl (by decide)
  | receives => exact Or.inl (decide_eq_true ⟨image.messages_ne_null.2, rfl⟩)
  | checks => exact Or.inr rfl
  | pauses => exact Or.inl (by decide)

/-- The only object they name is the demo queue. -/
theorem TaskRequest.object
    {cfg : Config} {image : ReleaseImage cfg} {point : TaskPoint} {call : Call} {object : ObjectRef}
    (asked : TaskRequest image point call) (named : call.object = some object) :
    object = .queue 0 := by
  cases asked <;> cases named <;> rfl

namespace TaskOk

variable {cfg : Config} {image : ReleaseImage cfg} {release next : Release} {index : Nat}
  {events emitted : List Event} {system : System} {action : Action}

/-- A task that does not move. -/
theorem bystands
    (ok : TaskOk image release index) (run : Run cfg events release.system)
    (moved : (forge cfg).RunFrom Machine.anyStep release.system emitted next.system)
    (frame : next.system.frames (.task index) = release.system.frames (.task index))
    (unreturned : ∀ call reply, Event.returned (.task index) call reply ∉ emitted)
    (point : next.tasks index = release.tasks index) : TaskOk image next index := by
  have request : next.request image (.task index) = release.request image (.task index) := by
    simp only [Release.request, point]
  cases ok with
  | user same => exact .user (frame.trans same)
  | waits requested endless enduring =>
      exact .waits (request.trans requested) endless
        (enduring.kept endless run moved unreturned)
  | checks requested same => exact .checks (request.trans requested) (frame.trans same)

/-- A task that makes its call. -/
theorem of_invoke
    {call : Call} (core : Core release.system)
    (unmasked : release.system.cpu = .unmasked)
    (queue : DemoQueue (release.system.kernel.queues 0))
    (active : release.system.activeThread = some (.task index))
    (requested : release.request image (.task index) = some call)
    (moved : release.system.step cfg (.invoke call) = some (system, emitted)) :
    TaskOk image (release.settle system) index := by
  have asked := Release.taskRequest requested
  rcases asked.endless_or_checks with endless | rfl
  · refine .waits requested endless (Enduring.of_invoke core active moved ?_ ?_)
    · rw [unmasked]
      decide
    · intro object named
      rw [asked.object named]
      exact queue.magic
  · obtain ⟨rfl, _⟩ := System.invoke_result active moved
    exact .checks requested (Function.update_self _ _ release.system.frames)

/-- A task that goes on inside its call. -/
theorem advances
    {call : Call} {point following : Point} {result : StepResult}
    (ok : TaskOk image release index) (run : Run cfg events release.system)
    (inCall : release.system.frames (.task index) = .inCall call point)
    (stepped : call.step cfg release.system.cpu release.system.kernel release.system.memory
      index point = some result)
    (outcome : result.outcome = .goto following)
    (moved : release.system.step cfg .advance = some (system, emitted)) :
    TaskOk image (release.settle system) index := by
  cases ok with
  | user same =>
      rw [inCall] at same
      cases same
  | @waits own requested endless enduring =>
      refine .waits requested endless (enduring.step endless run moved fun other reply => ?_)
      intro present
      obtain ⟨place, ended, _, entered, decided, replied, _⟩ :=
        (System.stepped moved).returned present
      obtain ⟨rfl, rfl⟩ := Frame.inCall.inj (entered.symm.trans inCall)
      obtain rfl := Option.some.inj (decided.symm.trans stepped)
      rw [outcome] at replied
      cases replied
  | checks requested same =>
      obtain ⟨rfl, rfl⟩ := Frame.inCall.inj (same.symm.trans inCall)
      obtain rfl := Option.some.inj stepped
      cases outcome

end TaskOk

/-! ## Steps of the deployed image -/

theorem Release.setPoint_tasks_of_ne
    (release : Release) {index other : Nat} (point : TaskPoint) (ne : other ≠ index) :
    (release.setPoint index point).tasks other = release.tasks other :=
  Function.update_of_ne ne _ _

theorem Release.setPoint_tasks_self (release : Release) (index : Nat) (point : TaskPoint) :
    (release.setPoint index point).tasks index = point :=
  Function.update_self ..

/-- A task starts in the function of its own configuration. -/
theorem ReleaseImage.enter_fits
    {cfg : Config} {image : ReleaseImage cfg} {kernel : Kernel} {index : Nat} {point : TaskPoint}
    (hosts : image.Hosts kernel index) (registered : index < 3)
    (entered : Release.enter image (kernel.tasks index).entry = some point) :
    point.fits index := by
  obtain ⟨producerNe, monitorNe, consumerNe⟩ := image.entries_ne
  rw [hosts.entry] at entered
  unfold Release.enter at entered
  match index with
  | 0 =>
      rw [if_pos (show (image.config 0).entry = image.producerEntry from rfl)] at entered
      obtain rfl := Option.some.inj entered
      rfl
  | 1 =>
      rw [if_neg (show (image.config 1).entry ≠ image.producerEntry from producerNe.symm),
        if_pos (show (image.config 1).entry = image.consumerEntry from rfl)] at entered
      obtain rfl := Option.some.inj entered
      rfl
  | 2 =>
      rw [if_neg (show (image.config 2).entry ≠ image.producerEntry from monitorNe.symm),
        if_neg (show (image.config 2).entry ≠ image.consumerEntry from consumerNe.symm),
        if_pos (show (image.config 2).entry = image.monitorEntry from rfl)] at entered
      obtain rfl := Option.some.inj entered
      rfl

/-- A program step of one task moves that task and no other thread. -/
structure Release.Moved (release : Release) (task : Nat) (next : Release) : Prop where
  tasks : ∃ point : TaskPoint, next.tasks = Function.update release.tasks task point ∧
    point.fits task
  boot : next.boot = release.boot
  uart : next.uart.initialized = release.uart.initialized
  ticking : next.ticking = release.ticking

namespace Release.Moved

variable {cfg : Config} {image : ReleaseImage cfg} {release next : Release} {input : UsartInput}
  {task : Nat} {events : List ReleaseEvent}

/-- A step that moves nothing. -/
theorem still (fits : (release.tasks task).fits task) : release.Moved task release :=
  ⟨⟨release.tasks task, (Function.update_eq_self ..).symm, fits⟩, rfl, rfl, rfl⟩

/-- A step that moves one task to a point of its own function. -/
theorem setPoint
    {base : Release} {point : TaskPoint} (tasks : base.tasks = release.tasks)
    (boot : base.boot = release.boot)
    (uart : base.uart.initialized = release.uart.initialized)
    (ticking : base.ticking = release.ticking) (fits : point.fits task) :
    release.Moved task (base.setPoint task point) :=
  ⟨⟨point, by rw [← tasks]; rfl, fits⟩, boot, uart, ticking⟩

/-- Only one task moves. -/
theorem of_ne (moved : release.Moved task next) {index : Nat} (other : index ≠ task) :
    next.tasks index = release.tasks index := by
  obtain ⟨point, tasks, _⟩ := moved.tasks
  rw [tasks, Function.update_of_ne other]

/-- Every task stays in its own function. -/
theorem fits
    (moved : release.Moved task next) (fits : ∀ index, (release.tasks index).fits index)
    (index : Nat) : (next.tasks index).fits index := by
  obtain ⟨point, tasks, fit⟩ := moved.tasks
  rw [tasks]
  by_cases own : index = task
  · rw [own, Function.update_self]
    exact fit
  · rw [Function.update_of_ne own]
    exact fits index

/-- A step of the producer. -/
theorem produces
    {point : ProducerPoint} (zero : task = 0)
    (acted : release.producerAct image task point = some next) : release.Moved task next := by
  cases point with
  | sending | sleeping => cases acted
  | _ =>
      obtain rfl := Option.some.inj acted
      exact .setPoint rfl rfl rfl rfl zero

/-- A step of the consumer. -/
theorem consumes
    {point : ConsumerPoint} (one : task = 1)
    (acted : release.consumerAct image task point = some next) : release.Moved task next := by
  cases point with
  | receiving => cases acted
  | _ =>
      obtain rfl := Option.some.inj acted
      exact .setPoint rfl rfl rfl rfl one

/-- A step of `fr_uart_write`. -/
theorem writes
    {place : WritePlace} {text : List Char} {following : AfterWrite}
    (two : task = 2) (fits : (release.tasks task).fits task)
    (acted : release.writeAct input task text following place = (next, events)) :
    release.Moved task next := by
  cases place with
  | checks =>
      obtain ⟨rfl, rfl⟩ := Prod.mk.inj acted
      exact .setPoint rfl rfl rfl rfl two
  | byte position =>
      simp only [Release.writeAct] at acted
      split at acted
      · obtain ⟨rfl, rfl⟩ := Prod.mk.inj acted
        exact still fits
      · rename_i uart transmitted
        obtain ⟨rfl, rfl⟩ := Prod.mk.inj acted
        refine .setPoint rfl rfl ?_ rfl two
        grind [uartTransmit]
  | draining =>
      simp only [Release.writeAct] at acted
      split at acted
      · obtain ⟨rfl, rfl⟩ := Prod.mk.inj acted
        exact .setPoint rfl rfl rfl rfl two
      · obtain ⟨rfl, rfl⟩ := Prod.mk.inj acted
        exact still fits

/-- A step of the monitor. -/
theorem monitors
    {point : MonitorPoint} (two : task = 2) (fits : (release.tasks task).fits task)
    (acted : release.monitorAct input task point = some (next, events)) :
    release.Moved task next := by
  cases point with
  | checking | sleeping => cases acted
  | writing text place following => exact writes two fits (Option.some.inj acted)
  | polling =>
      have uart : (uartTryRead release.system.cpu release.uart input).1.initialized =
          release.uart.initialized := by
        grind [uartTryRead]
      simp only [Release.monitorAct] at acted
      split at acted <;>
      · rename_i read
        obtain ⟨rfl, rfl⟩ := Prod.mk.inj (Option.some.inj acted)
        rw [read] at uart
        exact .setPoint rfl rfl uart rfl two
  | tracing position count =>
      simp only [Release.monitorAct] at acted
      split at acted <;>
      · obtain ⟨rfl, rfl⟩ := Prod.mk.inj (Option.some.inj acted)
        exact .setPoint rfl rfl rfl rfl two
  | _ =>
      obtain ⟨rfl, rfl⟩ := Prod.mk.inj (Option.some.inj acted)
      exact .setPoint rfl rfl rfl rfl two

/-- A step of any task moves that task only, inside its own function. -/
theorem acts
    (fits : ∀ index, (release.tasks index).fits index)
    (hosts : image.Hosts release.system.kernel task) (registered : task < 3)
    (acted : release.act image input (.task task) = some (next, events)) :
    release.Moved task next := by
  have fit := fits task
  simp only [Release.act] at acted
  split at acted
  · obtain ⟨point, entered, same⟩ := Option.map_eq_some_iff.mp acted
    obtain ⟨rfl, rfl⟩ := Prod.mk.inj same
    exact .setPoint rfl rfl rfl rfl (ReleaseImage.enter_fits hosts registered entered)
  · rename_i point place
    obtain ⟨moved, produced, same⟩ := Option.map_eq_some_iff.mp acted
    obtain ⟨rfl, rfl⟩ := Prod.mk.inj same
    rw [place] at fit
    exact produces fit produced
  · rename_i point place
    obtain ⟨moved, consumed, same⟩ := Option.map_eq_some_iff.mp acted
    obtain ⟨rfl, rfl⟩ := Prod.mk.inj same
    rw [place] at fit
    exact consumes fit consumed
  · rename_i point place
    have two : task = 2 := by
      rw [place] at fit
      exact fit
    exact monitors two fit acted

end Release.Moved

/-- No step changes the configuration of the demo queue. -/
theorem QueueMove.demoQueue
    {before after : System} {events : List Event} (move : QueueMove 0 before after events)
    (running : before.kernel.running = true) (queue : DemoQueue (before.kernel.queues 0)) :
    DemoQueue (after.kernel.queues 0) := by
  cases move with
  | keeps same =>
      rw [same]
      exact queue
  | configures stopped =>
      rw [running] at stopped
      cases stopped
  | sends _ _ _ _ same =>
      rw [same]
      exact ⟨queue.magic, queue.capacity, queue.itemSize⟩
  | receives _ _ _ _ same =>
      rw [same]
      exact ⟨queue.magic, queue.capacity, queue.itemSize⟩

namespace Deployed

variable {cfg : Config} {image : ReleaseImage cfg} {release next : Release}
  {events : List Event} {emitted : List ReleaseEvent} {action : ReleaseAction}

/-- No task is inside `fr_task_create`. -/
theorem uncreated
    (deployed : Deployed image release) (core : Core release.system)
    (running : release.system.kernel.running = true)
    {thread : Thread} (active : release.system.activeThread = some thread)
    (outTask : Bool) (config : Option TaskConfig) (point : Point) :
    release.system.frames thread ≠ .inCall (.taskCreate outTask config) point := by
  obtain ⟨index, rfl⟩ := core.task_of_running active running
  intro inCall
  cases deployed.tasks index with
  | user frame =>
      rw [inCall] at frame
      cases frame
  | @waits call requested endless enduring =>
      obtain ⟨place, frame⟩ := enduring.frame
      obtain ⟨rfl, _⟩ := Frame.inCall.inj (inCall.symm.trans frame)
      cases endless
  | checks requested frame =>
      rw [inCall] at frame
      cases frame

/-- The parts that the program steps of the image leave alone. -/
theorem of_kernel
    {system : System} {taken : Action} {during : List Event}
    (deployed : Deployed image release) (core : Core release.system)
    (running : release.system.kernel.running = true)
    (moved : release.system.step cfg taken = some (system, during)) :
    system.kernel.taskCount = 3 ∧ DemoQueue (system.kernel.queues 0) :=
  ⟨(core.step_taskCount (fun _ outTask config point active =>
      deployed.uncreated core running active outTask config point) moved).trans
        deployed.taskCount,
    (core.queueMove moved 0).demoQueue running deployed.queue⟩

/-- A task that returns from a call stays in its own function. -/
theorem resume_fits
    {reply : Reply} {point : TaskPoint} {index : Nat} (fits : point.fits index) :
    (Release.resumeTask reply point).fits index := by
  cases point <;> exact fits

/-- Every step keeps the image deployed. -/
theorem step
    (deployed : Deployed image release) (run : Run cfg events release.system)
    (unmasked : release.system.cpu = .unmasked)
    (hosts : ∀ index < 3, image.Hosts release.system.kernel index)
    (running : release.system.kernel.running = true)
    (step : ReleaseStepped image release action next emitted) : Deployed image next := by
  have core := Core.of_run run
  have thread_eq : ∀ {thread}, release.system.activeThread = some thread →
      ∃ index, thread = .task index ∧ index < 3 := by
    intro thread active
    obtain ⟨index, rfl⟩ := core.task_of_running active running
    have current_lt := core.current_lt (core.active_current active).currentTask
    exact ⟨index, rfl, deployed.taskCount ▸ current_lt⟩
  cases step with
  | @exception _ taken system during exceptional moved =>
      obtain ⟨taskCount, queue⟩ := deployed.of_kernel core running moved
      have taken : taken = .sysTick ∨ ∃ psp, taken = .pendSv psp :=
        exceptional.imp And.right fun ⟨psp, _, same⟩ => ⟨psp, same⟩
      obtain ⟨frames, _, rfl⟩ := System.step_exception taken moved
      refine ⟨deployed.boot, taskCount, queue, deployed.uart, deployed.ticking, deployed.fits,
        fun index => ?_⟩
      exact (deployed.tasks index).bystands run (System.step_run trivial moved)
        (congrFun frames _) (fun _ _ => by simp) rfl
  | @invokes _ thread call system during active requested moved =>
      obtain ⟨taskCount, queue⟩ := deployed.of_kernel core running moved
      obtain ⟨caller, rfl, _⟩ := thread_eq active
      refine ⟨deployed.boot, taskCount, queue, deployed.uart, deployed.ticking, deployed.fits,
        fun index => ?_⟩
      by_cases own : index = caller
      · subst own
        exact TaskOk.of_invoke core unmasked deployed.queue active requested moved
      · have other : release.system.activeThread ≠ some (.task index) := by
          rw [active]
          simpa using Ne.symm own
        exact (deployed.tasks index).bystands run (System.step_run trivial moved)
          (core.frame_of_other moved other) (System.unreturned moved other) rfl
  | @advances _ thread call point following result system during active inCall stepped outcome
      moved =>
      obtain ⟨taskCount, queue⟩ := deployed.of_kernel core running moved
      obtain ⟨caller, rfl, _⟩ := thread_eq active
      refine ⟨deployed.boot, taskCount, queue, deployed.uart, deployed.ticking, deployed.fits,
        fun index => ?_⟩
      by_cases own : index = caller
      · subst own
        exact (deployed.tasks index).advances run inCall stepped outcome moved
      · have other : release.system.activeThread ≠ some (.task index) := by
          rw [active]
          simpa using Ne.symm own
        exact (deployed.tasks index).bystands run (System.step_run trivial moved)
          (core.frame_of_other moved other) (System.unreturned moved other) rfl
  | @returns _ thread call point result reply system during active inCall stepped outcome moved =>
      obtain ⟨taskCount, queue⟩ := deployed.of_kernel core running moved
      obtain ⟨caller, rfl, _⟩ := thread_eq active
      refine ⟨deployed.boot, taskCount, queue, deployed.uart, deployed.ticking, fun index => ?_,
        fun index => ?_⟩
      · by_cases own : index = caller
        · subst own
          rw [Release.resume, Release.setPoint_tasks_self]
          exact resume_fits (deployed.fits index)
        · rw [Release.resume, Release.setPoint_tasks_of_ne _ _ own]
          exact deployed.fits index
      · by_cases own : index = caller
        · subst own
          refine .user ?_
          rw [Release.resume_system, Release.settle_system,
            (System.advance_result active inCall stepped moved).1, outcome]
          exact Function.update_self ..
        · have other : release.system.activeThread ≠ some (.task index) := by
            rw [active]
            simpa using Ne.symm own
          exact (deployed.tasks index).bystands run
            (System.step_run trivial (by rw [Release.resume_system]; exact moved))
            (by
              rw [Release.resume_system]
              exact core.frame_of_other moved other)
            (System.unreturned moved other) (Release.setPoint_tasks_of_ne _ _ own)
  | @acts _ thread _ _ active user requested acted =>
      obtain ⟨task, rfl, registered⟩ := thread_eq active
      have changed := Release.Moved.acts deployed.fits (hosts task registered) registered acted
      obtain ⟨further, kernel, frames⟩ := Release.act_run active user acted
      refine ⟨changed.boot.trans deployed.boot, ?_, ?_, changed.uart.trans deployed.uart,
        changed.ticking.trans deployed.ticking, changed.fits deployed.fits, fun index => ?_⟩
      · rw [kernel]
        exact deployed.taskCount
      · rw [kernel]
        exact deployed.queue
      · by_cases own : index = task
        · subst own
          exact .user ((congrFun frames _).trans user)
        · exact (deployed.tasks index).bystands run further (congrFun frames _)
            (fun _ _ => by simp) (changed.of_ne own)

end Deployed

end ForgeKernel
