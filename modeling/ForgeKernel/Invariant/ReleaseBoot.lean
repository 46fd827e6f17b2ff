import ForgeKernel.Invariant.ReleaseTasks
import ForgeKernel.Property.FatalPaths

/-!
# The boot code of the release image

Up to the start of the scheduler only `fr_release_bootstrap_entry` runs.  The point
that it has reached decides which of the image's data are set up, how many tasks
exist and what its kernel frame is; none of its calls can fail.
-/

namespace ForgeKernel

open Machines

namespace BootPoint

/-- The place of a point in the boot sequence. -/
def rank : BootPoint → Nat
  | .asserts => 0
  | .uart => 1
  | .systick => 2
  | .trace => 3
  | .queue => 4
  | .status => 5
  | .demoTasks => 6
  | .producer => 7
  | .consumer => 8
  | .producerInfo => 9
  | .consumerInfo => 10
  | .monitor => 11
  | .start => 12
  | .halted => 13

/-- The tasks that exist when the boot code comes to a point. -/
def created : BootPoint → Nat
  | .consumer => 1
  | .producerInfo | .consumerInfo | .monitor => 2
  | .start => 3
  | _ => 0

/-- The demo's status at a point. -/
def demo (point : BootPoint) : DemoStatus :=
  { DemoStatus.zero with
    initialized := decide (5 < point.rank)
    producerTaskId := if 9 < point.rank then 1 else 0
    consumerTaskId := if 10 < point.rank then 2 else 0 }

end BootPoint

/-- The frame of the boot code agrees with its program point. -/
inductive BootFrame {cfg : Config} (image : ReleaseImage cfg) (release : Release) : Prop
  | user (frame : release.system.frames .boot = .user)
      (taskCount : release.system.kernel.taskCount = release.boot.created)
  | enters {call : Call}
      (requested : Release.bootRequest image release.boot = some call)
      (frame : release.system.frames .boot = .inCall call .entry)
      (taskCount : release.system.kernel.taskCount = release.boot.created)
  | reserves
      (requested : Release.bootRequest image release.boot =
        some (.taskCreate true (some (image.config release.boot.created))))
      (frame : release.system.frames .boot =
        .inCall (.taskCreate true (some (image.config release.boot.created)))
          (.reserved release.boot.created))
      (taskCount : release.system.kernel.taskCount = release.boot.created + 1)
  | builds {initialSp : Word}
      (requested : Release.bootRequest image release.boot =
        some (.taskCreate true (some (image.config release.boot.created))))
      (frame : release.system.frames .boot =
        .inCall (.taskCreate true (some (image.config release.boot.created)))
          (.built release.boot.created initialSp))
      (taskCount : release.system.kernel.taskCount = release.boot.created + 1)
  | stopped (halted : release.system.kernel.halted.isSome = true)

/-- Between its calls boot code has created as many tasks as its place says. -/
theorem BootFrame.taskCount_of_user
    {cfg : Config} {image : ReleaseImage cfg} {release : Release}
    (frame : BootFrame image release) (live : release.system.kernel.halted = none)
    (user : release.system.frames .boot = .user) :
    release.system.kernel.taskCount = release.boot.created := by
  cases frame with
  | user _ taskCount => exact taskCount
  | enters _ frame | reserves _ frame | builds _ frame =>
      rw [user] at frame
      cases frame
  | stopped halted =>
      rw [live] at halted
      cases halted

/-- The image before its scheduler runs. -/
structure Booting {cfg : Config} (image : ReleaseImage cfg) (release : Release) : Prop where
  frame : BootFrame image release
  proceeds : release.boot ≠ .halted
  unentered : ∀ index, release.tasks index = .start
  uart : release.uart.initialized = decide (1 < release.boot.rank)
  ticking : release.ticking = decide (2 < release.boot.rank)
  demo : release.demo = release.boot.demo
  producerTask : release.producerTask = if 7 < release.boot.rank then some 0 else none
  consumerTask : release.consumerTask = if 8 < release.boot.rank then some 1 else none
  queue : 4 < release.boot.rank → DemoQueue (release.system.kernel.queues 0)

/-- The image in every state that it reaches. -/
structure ReleaseOk {cfg : Config} (image : ReleaseImage cfg) (release : Release) : Prop where
  cpu : release.system.cpu = .unmasked
  hosts : ∀ index < release.system.kernel.taskCount, image.Hosts release.system.kernel index
  booting : release.system.kernel.running = false → Booting image release
  deployed : release.system.kernel.running = true → Deployed image release

/-! ## Calls of the boot code -/

/-- A configuration of the image passes the checks of `fr_task_create`. -/
theorem releaseTaskConfig_checked
    {cfg : Config} {entry stackMemory : Word} {priority : Nat} (entry_ne : entry ≠ 0)
    (priority_le : priority ≤ cfg.maxTaskPriority)
    (stack : taskStackIsValid cfg (releaseTaskConfig entry stackMemory priority) = true) :
    taskCreateCheck cfg (releaseTaskConfig entry stackMemory priority) = .ok := by
  have nonnull : (releaseTaskConfig entry stackMemory priority).entry ≠ 0 := entry_ne
  have low : ¬ cfg.maxTaskPriority < (releaseTaskConfig entry stackMemory priority).priority :=
    Nat.not_lt.mpr priority_le
  unfold taskCreateCheck
  rw [if_neg nonnull, if_neg low, stack, if_neg (by decide)]

namespace ReleaseImage

variable {cfg : Config} (image : ReleaseImage cfg)

/-- Every configuration of the image passes the checks of `fr_task_create`. -/
theorem config_checked (index : Nat) : taskCreateCheck cfg (image.config index) = .ok := by
  have room := image.priorities_le
  obtain ⟨producer, consumer, monitor⟩ := image.entries_ne_null
  match index with
  | 0 => exact releaseTaskConfig_checked producer (by omega) image.producerStack_valid
  | 1 => exact releaseTaskConfig_checked consumer room image.consumerStack_valid
  | _ + 2 => exact releaseTaskConfig_checked monitor (by omega) image.monitorStack_valid

end ReleaseImage

section Requests

variable {cfg : Config} {image : ReleaseImage cfg}

/-- The kernel calls of the boot code. -/
inductive BootRequest (image : ReleaseImage cfg) : BootPoint → Call → Prop
  | traces : BootRequest image .trace .traceInit
  | queues : BootRequest image .queue
      (.queueInit (some 0) image.queueStorage demoQueueCapacity demoMessageSize)
  | creates {point : BootPoint} (place : point = .producer ∨ point = .consumer ∨ point = .monitor) :
      BootRequest image point (.taskCreate true (some (image.config point.created)))
  | starts : BootRequest image .start .schedulerStart

/-- The kernel calls of the boot code are these. -/
theorem bootRequest_cases
    {point : BootPoint} {call : Call} (requested : Release.bootRequest image point = some call) :
    BootRequest image point call := by
  cases point with
  | trace => cases requested; exact .traces
  | queue => cases requested; exact .queues
  | producer => cases requested; exact .creates (Or.inl rfl)
  | consumer => cases requested; exact .creates (Or.inr (Or.inl rfl))
  | monitor => cases requested; exact .creates (Or.inr (Or.inr rfl))
  | start => cases requested; exact .starts
  | _ => cases requested

end Requests

/-! ## Steps of the boot code -/

theorem taskCreateBuild_queues (cfg : Config) (kernel : Kernel) (index : Nat) :
    (taskCreateBuild cfg kernel index).1.queues = kernel.queues := by
  unfold taskCreateBuild
  dsimp only
  split <;> rfl

theorem taskCreatePublish_queues (kernel : Kernel) (index : Nat) (initialSp : Word) :
    (taskCreatePublish kernel index initialSp).queues = kernel.queues := by
  unfold taskCreatePublish
  dsimp only
  split <;> rfl

/-- Before the scheduler runs an exception can only count a tick. -/
theorem System.exception_stopped
    {cfg : Config} {system after : System} {action : Action} {past events : List Event}
    (run : Run cfg past system) (stopped : system.kernel.running = false)
    (exceptional : action = .sysTick ∨ ∃ psp, action = .pendSv psp)
    (moved : system.step cfg action = some (after, events)) :
    after = { system with
      kernel := system.kernel.ticked
      time := system.time + 1 } := by
  rcases exceptional with rfl | ⟨psp, rfl⟩
  · cases System.stepped moved with
    | sysTick => rw [sysTickHandler_stopped stopped]
    | user _ _ _ plain => exact absurd rfl plain
  · simp only [System.step] at moved
    split at moved
    · cases moved
    · rename_i due
      have pending : system.kernel.pendSv = true := by
        simp only [System.pendSvDue, Bool.or_eq_true, Bool.not_eq_true', not_or,
          Bool.not_eq_false, Bool.and_eq_true] at due
        exact due.2.1
      have running := (StacksOk.of_run run).kernel.pending pending
      exact absurd (stopped.symm.trans running) Bool.false_ne_true

namespace Booting

variable {cfg : Config} {image : ReleaseImage cfg} {release next : Release}
  {system : System} {emitted : List Event} {events : List ReleaseEvent}

/-- A kernel step that leaves the program points alone. -/
theorem settled
    (booting : Booting image release) (frame : BootFrame image (release.settle system))
    (queue : 4 < release.boot.rank → DemoQueue (system.kernel.queues 0)) :
    Booting image (release.settle system) :=
  ⟨frame, booting.proceeds, booting.unentered, booting.uart, booting.ticking, booting.demo,
    booting.producerTask, booting.consumerTask, queue⟩

/-- Boot code makes a call. -/
theorem invokes
    {call : Call} (booting : Booting image release) (live : release.system.kernel.halted = none)
    (active : release.system.activeThread = some .boot)
    (requested : Release.bootRequest image release.boot = some call)
    (moved : release.system.step cfg (.invoke call) = some (system, emitted)) :
    Booting image (release.settle system) := by
  obtain ⟨rfl, user, _⟩ := System.invoke_result active moved
  exact booting.settled (.enters requested (System.setFrame_frames_self ..)
    (booting.frame.taskCount_of_user live user)) booting.queue

/-- What a step inside a call of the boot code does. -/
inductive Advanced (image : ReleaseImage cfg) (release : Release) :
    Call → StepResult → Prop
  | traces (place : release.boot = .trace)
      (taskCount : release.system.kernel.taskCount = 0) {memory : Memory} :
      Advanced image release .traceInit (.reply
        { release.system.kernel with trace := ForgeKernel.traceInit release.system.kernel.trace }
        memory (.bool true))
  | queues (place : release.boot = .queue)
      (taskCount : release.system.kernel.taskCount = 0) {kernel : Kernel} {memory : Memory}
      (inits : ForgeKernel.queueInit release.system.kernel 0 image.queueStorage demoQueueCapacity
        demoMessageSize = (kernel, true)) :
      Advanced image release
        (.queueInit (some 0) image.queueStorage demoQueueCapacity demoMessageSize)
        (.reply kernel memory (.bool true))
  | reserves
      (requested : Release.bootRequest image release.boot =
        some (.taskCreate true (some (image.config release.boot.created))))
      (taskCount : release.system.kernel.taskCount = release.boot.created)
      {kernel : Kernel} {memory : Memory}
      (reserved : taskCreateReserve cfg release.system.kernel
        (image.config release.boot.created) = some kernel) :
      Advanced image release (.taskCreate true (some (image.config release.boot.created)))
        (.goto kernel memory (.reserved release.boot.created))
  | builds
      (requested : Release.bootRequest image release.boot =
        some (.taskCreate true (some (image.config release.boot.created))))
      (taskCount : release.system.kernel.taskCount = release.boot.created + 1)
      {memory : Memory} :
      Advanced image release (.taskCreate true (some (image.config release.boot.created))) (.goto
        (taskCreateBuild cfg release.system.kernel release.boot.created).1 memory
        (.built release.boot.created
          (taskCreateBuild cfg release.system.kernel release.boot.created).2))
  | publishes
      (requested : Release.bootRequest image release.boot =
        some (.taskCreate true (some (image.config release.boot.created))))
      (taskCount : release.system.kernel.taskCount = release.boot.created + 1)
      {initialSp : Word} {memory : Memory} :
      Advanced image release (.taskCreate true (some (image.config release.boot.created))) (.reply
        (taskCreatePublish release.system.kernel release.boot.created initialSp) memory
        (.taskStatus .ok (some release.boot.created)))
  | starts (place : release.boot = .start)
      (taskCount : release.system.kernel.taskCount = 3) {kernel : Kernel} {memory : Memory}
      (started : schedulerStart cfg release.system.cpu release.system.kernel = some kernel) :
      Advanced image release .schedulerStart (.goto kernel memory .departed)

/-- A step of a call of the boot code keeps its invariant. -/
theorem advanced
    {call : Call} {point : Point} {result : StepResult}
    (booting : Booting image release) (stopped : release.system.kernel.running = false)
    (live : release.system.kernel.halted = none)
    (inCall : release.system.frames .boot = .inCall call point)
    (stepped : call.step cfg release.system.cpu release.system.kernel release.system.memory
      Thread.boot.slot point = some result) :
    Advanced image release call result := by
  cases booting.frame with
  | user frame =>
      rw [inCall] at frame
      cases frame
  | enters requested frame taskCount =>
      obtain ⟨rfl, rfl⟩ := Frame.inCall.inj (inCall.symm.trans frame)
      have asked := bootRequest_cases requested
      generalize place : release.boot = boot at asked
      cases asked with
      | traces =>
          obtain rfl := Option.some.inj stepped
          rw [place] at taskCount
          exact .traces place taskCount
      | queues =>
          obtain rfl := Option.some.inj stepped
          have inits : (ForgeKernel.queueInit release.system.kernel 0 image.queueStorage
              demoQueueCapacity demoMessageSize).2 = true := by
            have nonnull : image.queueStorage ≠ 0#32 := image.queueStorage_ne_null
            unfold ForgeKernel.queueInit
            rw [if_neg]
            simp [stopped, nonnull, demoQueueCapacity, demoMessageSize]
          rw [Option.elim_some]
          change Advanced image release _ (.reply _ _ (.bool (ForgeKernel.queueInit _ _ _ _ _).2))
          rw [inits]
          rw [place] at taskCount
          exact .queues place taskCount (Prod.ext rfl inits)
      | creates creation =>
          rw [← place] at requested stepped creation ⊢
          simp only [Call.step, taskCreateStep, image.config_checked] at stepped
          split at stepped
          · rename_i reserved
            obtain rfl := Option.some.inj stepped
            rw [taskCount]
            exact .reserves requested taskCount reserved
          · rename_i full
            have room := image.tasks_le
            unfold taskCreateReserve at full
            split at full
            · rename_i exceeds
              rw [taskCount] at exceeds
              rcases creation with same | same | same <;> rw [same] at exceeds <;>
                simp only [BootPoint.created] at exceeds <;> omega
            · cases full
      | starts =>
          rw [place] at taskCount
          simp only [Call.step, schedulerStartStep] at stepped
          split at stepped
          · rename_i started
            obtain rfl := Option.some.inj stepped
            exact .starts place taskCount started
          · rename_i refused
            have outcome := schedulerStart_outcome cfg release.system.cpu release.system.kernel
            rw [refused] at outcome
            cases outcome with
            | refused running =>
                rw [stopped] at running
                cases running
  | reserves requested frame taskCount =>
      obtain ⟨rfl, rfl⟩ := Frame.inCall.inj (inCall.symm.trans frame)
      obtain rfl := Option.some.inj stepped
      exact .builds requested taskCount
  | builds requested frame taskCount =>
      obtain ⟨rfl, rfl⟩ := Frame.inCall.inj (inCall.symm.trans frame)
      obtain rfl := Option.some.inj stepped
      exact .publishes requested taskCount
  | stopped halted =>
      rw [live] at halted
      cases halted

end Booting

/-- Registered tasks keep the configuration of the image. -/
theorem ReleaseImage.Hosts.kept
    {cfg : Config} {image : ReleaseImage cfg} {before after : Kernel}
    (hosts : ∀ index < before.taskCount, image.Hosts before index)
    (keeps : KeepsIdentities before after) {index : Nat} (small : index < before.taskCount) :
    image.Hosts after index :=
  (keeps.identities index small).trans (hosts index small)

/-- `fr_task_get_info` finds a task of the image. -/
theorem ReleaseImage.Hosts.getInfo
    {cfg : Config} {image : ReleaseImage cfg} {kernel : Kernel} {index : Nat}
    (hosts : image.Hosts kernel index) (registered : index < kernel.taskCount) :
    ∃ info, taskGetInfo kernel (some index) true = some info ∧ info.id = index + 1 := by
  have valid : taskHandleIsValid kernel (some index) = true :=
    decide_eq_true ⟨registered, by rw [hosts.id]; omega⟩
  unfold taskGetInfo
  rw [if_neg (by decide), valid, if_neg (by decide)]
  exact ⟨_, rfl, hosts.id⟩

namespace ReleaseOk

variable {cfg : Config} {image : ReleaseImage cfg} {release next : Release}
  {system : System} {emitted : List Event} {events : List ReleaseEvent}

/-- The invariant holds after reset. -/
theorem initial (image : ReleaseImage cfg) : ReleaseOk image .reset where
  cpu := rfl
  hosts := fun index small => absurd small (Nat.not_lt_zero index)
  booting := fun _ =>
    ⟨.user rfl rfl, by decide, fun _ => rfl, rfl, rfl, rfl, rfl, rfl,
      fun later => absurd later (by decide)⟩
  deployed := fun running => absurd running (by decide)

/-- A step between the kernel calls of the boot code. -/
theorem bootActs
    (ok : ReleaseOk image release) (stopped : release.system.kernel.running = false)
    (live : release.system.kernel.halted = none)
    (user : release.system.frames .boot = .user)
    (acted : release.bootAct release.boot = some next) : ReleaseOk image next := by
  have same := Release.bootAct_system acted
  refine ⟨by rw [same]; exact ok.cpu, by rw [same]; exact ok.hosts, fun _ => ?_, fun running => ?_⟩
  · obtain ⟨frame, proceeds, unentered, uart, ticking, demo, producerTask, consumerTask, queue⟩ :=
      ok.booting stopped
    have taskCount := frame.taskCount_of_user live user
    generalize place : release.boot = boot at *
    cases boot with
    | asserts =>
        obtain rfl := Option.some.inj acted
        exact ⟨.user user taskCount, (by rintro ⟨⟩), unentered, uart, ticking, demo, producerTask,
          consumerTask, by simp [BootPoint.rank]⟩
    | uart =>
        have divisor : uartCalculateBrr boardResetCoreClockHz releaseUartBaudRate ≠ 0 := by decide
        have closed : release.uart.initialized = false := uart
        simp only [Release.bootAct, uartInit, closed, divisor, Bool.false_eq_true, if_false]
          at acted
        obtain rfl := Option.some.inj acted
        exact ⟨.user user taskCount, (by rintro ⟨⟩), unentered, rfl, ticking, demo, producerTask,
          consumerTask, by simp [BootPoint.rank]⟩
    | systick =>
        have reload : systickInit boardResetCoreClockHz releaseTickHz = some 15999 := by decide
        simp only [Release.bootAct, reload] at acted
        obtain rfl := Option.some.inj acted
        exact ⟨.user user taskCount, (by rintro ⟨⟩), unentered, uart, rfl, demo, producerTask,
          consumerTask, by simp [BootPoint.rank]⟩
    | status =>
        obtain rfl := Option.some.inj acted
        refine ⟨.user user taskCount, (by rintro ⟨⟩), unentered, uart, ticking, ?_, producerTask,
          consumerTask, fun _ => queue (by decide)⟩
        rw [demo]
        rfl
    | demoTasks =>
        rw [Release.bootAct, demo, if_pos (by decide)] at acted
        obtain rfl := Option.some.inj acted
        exact ⟨.user user taskCount, (by rintro ⟨⟩), unentered, uart, ticking, rfl, producerTask,
          consumerTask, fun _ => queue (by decide)⟩
    | producerInfo =>
        obtain ⟨info, found, id⟩ := (ok.hosts 0 (taskCount ▸ by decide)).getInfo
          (taskCount ▸ by decide)
        have handle : release.producerTask = some 0 := producerTask
        simp only [Release.bootAct, handle, found] at acted
        obtain rfl := Option.some.inj acted
        refine ⟨.user user taskCount, (by rintro ⟨⟩), unentered, uart, ticking, ?_, rfl,
          consumerTask, fun _ => queue (by decide)⟩
        rw [demo, id]
        rfl
    | consumerInfo =>
        obtain ⟨info, found, id⟩ := (ok.hosts 1 (taskCount ▸ by decide)).getInfo
          (taskCount ▸ by decide)
        have handle : release.consumerTask = some 1 := consumerTask
        simp only [Release.bootAct, handle, found] at acted
        obtain rfl := Option.some.inj acted
        refine ⟨.user user taskCount, (by rintro ⟨⟩), unentered, uart, ticking, ?_, producerTask,
          rfl, fun _ => queue (by decide)⟩
        rw [demo, id]
        rfl
    | halted => exact absurd rfl proceeds
    | _ => cases acted
  · rw [same, stopped] at running
    cases running

/-- A step of the boot code inside a call that does not return yet. -/
theorem bootAdvances
    {call : Call} {point following : Point} {result : StepResult}
    (ok : ReleaseOk image release) (core : Core release.system)
    (stopped : release.system.kernel.running = false)
    (active : release.system.activeThread = some .boot)
    (inCall : release.system.frames .boot = .inCall call point)
    (stepped : call.step cfg release.system.cpu release.system.kernel release.system.memory
      Thread.boot.slot point = some result)
    (outcome : result.outcome = .goto following)
    (moved : release.system.step cfg .advance = some (system, emitted)) :
    ReleaseOk image (release.settle system) := by
  have booting := ok.booting stopped
  have keeps := core.step_keepsIdentities moved
  have cpu : system.cpu = .unmasked := (System.step_keeps_cpu moved nofun).trans ok.cpu
  obtain ⟨rfl, _⟩ := System.advance_result active inCall stepped moved
  cases booting.advanced stopped (core.active_cases active).1 inCall stepped with
  | traces | queues | publishes => cases outcome
  | reserves requested taskCount reserved =>
      obtain ⟨_, rfl⟩ := taskCreateReserve_some reserved
      refine ⟨cpu, fun index small => ?_, fun _ => ?_, fun running => ?_⟩
      · rcases Nat.lt_succ_iff_lt_or_eq.mp small with old | rfl
        · exact ReleaseImage.Hosts.kept ok.hosts keeps old
        · change (Function.update release.system.kernel.tasks _ _ _).identity = _
          rw [Function.update_self, taskCount]
          rfl
      · exact booting.settled (.reserves requested (System.setFrame_frames_self ..)
          (congrArg (· + 1) taskCount)) booting.queue
      · exact absurd (stopped.symm.trans running) Bool.false_ne_true
  | builds requested taskCount =>
      obtain ⟨control, _⟩ :=
        taskCreateBuild_facts cfg release.system.kernel release.boot.created
      refine ⟨cpu, fun index small => ?_, fun _ => ?_, fun running => ?_⟩
      · exact ReleaseImage.Hosts.kept ok.hosts keeps (control.taskCount ▸ small)
      · refine booting.settled (.builds requested (System.setFrame_frames_self ..)
          (control.taskCount.trans taskCount)) fun later => ?_
        change DemoQueue ((taskCreateBuild cfg release.system.kernel _).1.queues 0)
        rw [taskCreateBuild_queues]
        exact booting.queue later
      · exact absurd (stopped.symm.trans (control.running.symm.trans running)) Bool.false_ne_true
  | @starts place taskCount kernel memory started =>
      have outcome := schedulerStart_outcome cfg release.system.cpu release.system.kernel
      rw [started] at outcome
      have count := (outcome.facts core.control stopped).1
      have placed : 4 < release.boot.rank := place ▸ by decide
      refine ⟨cpu, fun index small => ?_, fun idle => ?_, fun running => ?_⟩
      · exact ReleaseImage.Hosts.kept ok.hosts keeps (count ▸ small)
      · cases outcome with
        | stopped objects _ _ _ _ _ halted =>
            refine booting.settled (.stopped halted) fun later => ?_
            change DemoQueue (kernel.queues 0)
            rw [objects.queues]
            exact booting.queue later
        | started launched => exact absurd (launched.running.symm.trans idle) nofun
      · cases outcome with
        | stopped _ _ _ _ _ idle => exact absurd (running.symm.trans idle) nofun
        | started launched =>
            refine ⟨place, count.trans taskCount, ?_, ?_, ?_, fun index => ?_,
              fun index => .user ?_⟩
            · change DemoQueue (kernel.queues 0)
              rw [launched.objects.queues]
              exact booting.queue placed
            · exact booting.uart.trans (decide_eq_true (place ▸ by decide))
            · exact booting.ticking.trans (decide_eq_true (place ▸ by decide))
            · change (release.tasks index).fits index
              rw [booting.unentered]
              trivial
            · have apart : Thread.task index ≠ .boot := by simp
              exact (System.setFrame_frames_of_ne _ _ apart).trans (core.dormant stopped index)

/-- A step of the boot code that ends a call. -/
theorem bootReturns
    {call : Call} {point : Point} {result : StepResult} {reply : Reply}
    (ok : ReleaseOk image release) (core : Core release.system)
    (stopped : release.system.kernel.running = false)
    (active : release.system.activeThread = some .boot)
    (inCall : release.system.frames .boot = .inCall call point)
    (stepped : call.step cfg release.system.cpu release.system.kernel release.system.memory
      Thread.boot.slot point = some result)
    (outcome : result.outcome = .reply reply)
    (moved : release.system.step cfg .advance = some (system, emitted)) :
    ReleaseOk image ((release.settle system).resume reply .boot) := by
  have booting := ok.booting stopped
  have keeps := core.step_keepsIdentities moved
  have cpu : system.cpu = .unmasked := (System.step_keeps_cpu moved nofun).trans ok.cpu
  obtain ⟨rfl, _⟩ := System.advance_result active inCall stepped moved
  cases booting.advanced stopped (core.active_cases active).1 inCall stepped with
  | reserves | builds | starts => cases outcome
  | traces place taskCount =>
      obtain rfl := Outcome.reply.inj outcome
      refine ⟨(by rw [Release.resume_system]; exact cpu),
        (by rw [Release.resume_system]; exact ok.hosts), fun _ => ?_, fun running => ?_⟩
      · simp only [Release.resume, Release.resumeBoot, Release.settle, place]
        obtain ⟨_, _, unentered, uart, ticking, demo, producerTask, consumerTask, _⟩ := booting
        rw [place] at uart ticking demo producerTask consumerTask
        exact ⟨.user (System.setFrame_frames_self ..) taskCount, (by rintro ⟨⟩), unentered, uart,
          ticking, demo, producerTask, consumerTask, by simp [BootPoint.rank]⟩
      · rw [Release.resume_system] at running
        exact absurd (stopped.symm.trans running) Bool.false_ne_true
  | queues place taskCount inits =>
      obtain rfl := Outcome.reply.inj outcome
      unfold ForgeKernel.queueInit at inits
      split at inits
      · cases inits
      · obtain ⟨rfl, _⟩ := Prod.mk.inj inits
        refine ⟨(by rw [Release.resume_system]; exact cpu),
          (by rw [Release.resume_system]; exact ok.hosts), fun _ => ?_, fun running => ?_⟩
        · simp only [Release.resume, Release.resumeBoot, Release.settle, place]
          obtain ⟨_, _, unentered, uart, ticking, demo, producerTask, consumerTask, _⟩ := booting
          rw [place] at uart ticking demo producerTask consumerTask
          refine ⟨.user (System.setFrame_frames_self ..) taskCount, (by rintro ⟨⟩), unentered, uart,
            ticking, demo, producerTask, consumerTask, fun _ => ?_⟩
          change DemoQueue (Function.update release.system.kernel.queues 0 _ 0)
          rw [Function.update_self]
          exact ⟨rfl, rfl, rfl⟩
        · rw [Release.resume_system] at running
          exact absurd (stopped.symm.trans running) Bool.false_ne_true
  | @publishes requested taskCount initialSp memory =>
      obtain rfl := Outcome.reply.inj outcome
      obtain ⟨control, _⟩ :=
        taskCreatePublish_facts release.system.kernel release.boot.created initialSp
      refine ⟨(by rw [Release.resume_system]; exact cpu), fun index small => ?_, fun _ => ?_,
        fun running => ?_⟩
      · rw [Release.resume_system] at small ⊢
        exact ReleaseImage.Hosts.kept ok.hosts keeps (control.taskCount ▸ small)
      · have queued : 4 < release.boot.rank →
            DemoQueue ((taskCreatePublish release.system.kernel release.boot.created
              initialSp).queues 0) := by
          rw [taskCreatePublish_queues]
          exact booting.queue
        have counted := control.taskCount.trans taskCount
        obtain ⟨_, _, unentered, uart, ticking, demo, producerTask, consumerTask, _⟩ := booting
        cases place : release.boot with
        | producer =>
            rw [place] at uart ticking demo producerTask consumerTask queued counted
            simp only [Release.resume, Release.resumeBoot, Release.settle, place]
            exact ⟨.user (System.setFrame_frames_self ..) counted, (by rintro ⟨⟩), unentered, uart,
              ticking, demo, rfl, consumerTask, fun _ => queued (by decide)⟩
        | consumer =>
            rw [place] at uart ticking demo producerTask consumerTask queued counted
            simp only [Release.resume, Release.resumeBoot, Release.settle, place]
            exact ⟨.user (System.setFrame_frames_self ..) counted, (by rintro ⟨⟩), unentered, uart,
              ticking, demo, producerTask, rfl, fun _ => queued (by decide)⟩
        | monitor =>
            rw [place] at uart ticking demo producerTask consumerTask queued counted
            simp only [Release.resume, Release.resumeBoot, Release.settle, place]
            exact ⟨.user (System.setFrame_frames_self ..) counted, (by rintro ⟨⟩), unentered, uart,
              ticking, demo, producerTask, consumerTask, fun _ => queued (by decide)⟩
        | _ =>
            rw [place] at requested
            cases requested
      · rw [Release.resume_system] at running
        exact absurd (stopped.symm.trans (control.running.symm.trans running)) Bool.false_ne_true

/-- An exception before the scheduler runs. -/
theorem bootInterrupted
    {taken : Action} {past : List Event}
    (ok : ReleaseOk image release) (run : Run cfg past release.system)
    (stopped : release.system.kernel.running = false)
    (exceptional : taken = .sysTick ∨ ∃ psp, taken = .pendSv psp)
    (moved : release.system.step cfg taken = some (system, emitted)) :
    ReleaseOk image (release.settle system) := by
  have keeps := (Core.of_run run).step_keepsIdentities moved
  have booting := ok.booting stopped
  obtain rfl := System.exception_stopped run stopped exceptional moved
  refine ⟨ok.cpu, fun index small => ReleaseImage.Hosts.kept ok.hosts keeps small,
    fun _ => booting.settled ?_ booting.queue, fun running => ?_⟩
  · cases booting.frame with
    | user frame taskCount => exact .user frame taskCount
    | enters requested frame taskCount => exact .enters requested frame taskCount
    | reserves requested frame taskCount => exact .reserves requested frame taskCount
    | builds requested frame taskCount => exact .builds requested frame taskCount
    | stopped halted => exact .stopped halted
  · exact absurd (stopped.symm.trans running) Bool.false_ne_true

/-- Every step of the image keeps it. -/
theorem step
    {action : ReleaseAction} {past : List Event}
    (ok : ReleaseOk image release) (run : Run cfg past release.system)
    (step : ReleaseStepped image release action next events) : ReleaseOk image next := by
  have core := Core.of_run run
  cases running : release.system.kernel.running with
  | true =>
      have deployed := ok.deployed running
      have hosts : ∀ index < 3, image.Hosts release.system.kernel index :=
        fun index small => ok.hosts index (deployed.taskCount.symm ▸ small)
      have after := deployed.step run ok.cpu hosts running step
      rcases step.kernel with ⟨taken, during, unmasked, moved⟩ | ⟨kernel, cpu, _⟩
      · have keeps := core.step_keepsIdentities moved
        refine ⟨(System.step_keeps_cpu moved unmasked).trans ok.cpu, fun index small => ?_,
          fun stopped => ?_, fun _ => after⟩
        · rw [after.taskCount, ← deployed.taskCount] at small
          exact ReleaseImage.Hosts.kept ok.hosts keeps small
        · exact absurd (stopped.symm.trans (core.running_step moved running)) Bool.false_ne_true
      · refine ⟨cpu.trans ok.cpu, by rw [kernel]; exact ok.hosts, fun stopped => ?_, fun _ => after⟩
        rw [kernel, running] at stopped
        cases stopped
  | false =>
      have boots : ∀ {thread}, release.system.activeThread = some thread → thread = .boot := by
        intro thread active
        rcases (core.active_cases active).2 with ⟨boot, _⟩ | ⟨current, _, runs, _⟩
        · exact boot
        · exact absurd (running.symm.trans runs.running) Bool.false_ne_true
      cases step with
      | exception exceptional moved =>
          exact ok.bootInterrupted run running
            (exceptional.imp And.right fun ⟨psp, _, same⟩ => ⟨psp, same⟩) moved
      | invokes active requested moved =>
          obtain rfl := boots active
          have invoked := (ok.booting running).invokes (core.active_cases active).1 active
            requested moved
          obtain ⟨rfl, _⟩ := System.invoke_result active moved
          exact ⟨ok.cpu, ok.hosts, fun _ => invoked,
            fun started => absurd (running.symm.trans started) Bool.false_ne_true⟩
      | advances active inCall stepped outcome moved =>
          obtain rfl := boots active
          exact ok.bootAdvances core running active inCall stepped outcome moved
      | returns active inCall stepped outcome moved =>
          obtain rfl := boots active
          exact ok.bootReturns core running active inCall stepped outcome moved
      | acts active user requested acted =>
          obtain rfl := boots active
          obtain ⟨booted, moved, same⟩ := Option.map_eq_some_iff.mp acted
          obtain ⟨rfl, rfl⟩ := Prod.mk.inj same
          exact ok.bootActs running (core.active_cases active).1 user moved

/-- The image is in order in every state that it reaches. -/
theorem of_run
    {allowed : Release → ReleaseAction → Prop}
    (run : (releaseMachine image).Run allowed events release) : ReleaseOk image release :=
  (release_projects (fun _ _ _ _ => trivial) fun _ _ _ => trivial).invariant
    (motive := fun _ release => ReleaseOk image release)
    run (initial image)
    fun _ _ _ _ _ reached ok _ stepped => ok.step reached (Release.stepped stepped)

end ReleaseOk

end ForgeKernel
