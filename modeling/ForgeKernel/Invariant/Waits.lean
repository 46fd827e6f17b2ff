import ForgeKernel.Invariant.CoreSteps

/-!
# What a step does to the waits

Seen from one kernel object a task is idle, waits in some call on the object, or
has been signaled out of its wait and has not acted on it yet.  A step that is
not part of a call on the object can only end waits by timeout.  The properties
of each kind of object are proved from this and from its own calls.
-/

namespace ForgeKernel

open Machines

/-- The wait fields of a control block. -/
structure WaitPart where
  deadline : Word
  object : Option ObjectRef
  reason : WaitReason
  result : WaitResult
  hasDeadline : Bool
  mask : Word
  flagsResult : Word
  all : Bool
  clearOnExit : Bool
  deriving DecidableEq, Repr

/-- The wait fields of a task. -/
def Task.waitPart (task : Task) : WaitPart :=
  ⟨task.waitDeadline, task.waitObject, task.waitReason, task.waitResult, task.waitHasDeadline,
    task.waitFlagsMask, task.waitFlagsResult, task.waitFlagsAll, task.waitFlagsClearOnExit⟩

/-- Why a wait may end while its task is off the CPU. -/
inductive Waker
  | nobody
  | tick (now : Word)
  | call (call : Call)

/-- What a step may do to the control block of a task that does not take it. -/
inductive WaitMove (waker : Waker) (before after : Task) : Prop
  | stays
      (blocked : after.state = .blocked ↔ before.state = .blocked)
      (wait : after.waitPart = before.waitPart)
  | fresh
      (created : before.state = .created)
      (free : after.state ≠ .blocked)
  | expires {now : Word}
      (tick : waker = .tick now)
      (due : before.dueAt now = true)
      (free : after.state ≠ .blocked)
      (result : after.waitResult = .timeout)
  | signaled {call : Call} {reason : WaitReason} {object : ObjectRef}
      (caller : waker = .call call)
      (signals : call.signals = some (reason, object))
      (waits : Task.waitsOn reason object before = true)
      (free : after.state ≠ .blocked)
      (result : after.waitResult = .signaled)

theorem WaitMove.refl (waker : Waker) (task : Task) : WaitMove waker task task :=
  .stays Iff.rfl rfl

/-! ## Moves of single tasks -/

/-- An expired wait, seen from its task. -/
theorem TaskMove.waitMove_tick
    {now : Word} {kernel : Kernel} {index : Nat} {after : Task}
    (move : TaskMove (.expiry now) kernel index after) :
    WaitMove (.tick now) (kernel.tasks index) after := by
  rcases move with ⟨same⟩ | ⟨_, ⟨rfl, due⟩, ended⟩
  · rw [same]
    exact .stays Iff.rfl rfl
  · rw [ended]
    exact .expires rfl due (kernel.wakeState_ne_blocked index) rfl

/-- A signalled wait, seen from its task. -/
theorem TaskMove.waitMove_call
    {call : Call} {reason : WaitReason} {object : ObjectRef} {kernel : Kernel} {index : Nat}
    {after : Task}
    (signals : call.signals = some (reason, object))
    (move : TaskMove (.signal reason object) kernel index after) :
    WaitMove (.call call) (kernel.tasks index) after := by
  rcases move with ⟨same⟩ | ⟨_, ⟨rfl, waits⟩, ended⟩
  · rw [same]
    exact .stays Iff.rfl rfl
  · rw [ended]
    exact .signaled rfl signals waits (kernel.wakeState_ne_blocked index) rfl

/-- Bystanders of a step inside a call. -/
theorem Core.advance_waitMove
    {cfg : Config} {system : System} {thread : Thread} {call : Call} {point : Point}
    {result : StepResult} {index : Nat}
    (core : Core system)
    (active : system.activeThread = some thread)
    (inCall : system.frames thread = .inCall call point)
    (step : Advance cfg system.cpu system.kernel system.memory thread.slot call point result)
    (other : thread ≠ .task index) :
    WaitMove (.call call) (system.kernel.tasks index) (result.kernel.tasks index) := by
  have notCurrent : ∀ current, system.kernel.currentTask = some (.user current) →
      index ≠ current := by
    rintro current present rfl
    obtain ⟨_, ⟨_, stopped⟩ | ⟨running, rfl, runs, _⟩⟩ := core.active_cases active
    · rw [(core.control.stopped stopped).1] at present
      exact absurd present (by simp)
    · obtain rfl : running = index := by simpa [runs.currentTask] using present
      exact other rfl
  obtain ⟨effect, _, _, _⟩ := step
  generalize result.outcome = outcome at effect
  generalize result.kernel = after at *
  cases effect with
  | passes _ _ tasks =>
      rw [tasks]
      exact .refl _ _
  | resets present same =>
      subst same
      rw [Kernel.setTask_tasks_of_ne _ _ (notCurrent _ present)]
      exact .refl _ _
  | wakes _ signals woken => exact (woken.tasks index).waitMove_call signals
  | waits runs _ _ _ blocked =>
      subst blocked
      change WaitMove _ _ ((system.kernel.waiting call _ _ _ _ _ _).tasks index)
      rw [Kernel.waiting_of_ne _ _ _ _ _ _ _ (notCurrent _ runs.currentTask)]
      exact .stays Iff.rfl rfl
  | reserves _ _ reserved =>
      obtain ⟨_, rfl⟩ := taskCreateReserve_some reserved
      change WaitMove _ _ ((system.kernel.setTask _ _).tasks index)
      by_cases new : index = system.kernel.taskCount
      · subst new
        obtain ⟨⟨priority, zero⟩, _⟩ := core.unregistered system.kernel.taskCount le_rfl
        rw [Kernel.setTask_tasks_self, zero]
        exact .stays (by simp [Task.reserve, Task.zero]) rfl
      · rw [Kernel.setTask_tasks_of_ne _ _ new]
        exact .refl _ _
  | @builds position _ built =>
      obtain ⟨_, _, tasks⟩ := taskCreateBuild_facts cfg system.kernel position
      rw [built, tasks]
      exact .refl _ _
  | @publishes position initialSp _ started published =>
      obtain ⟨_, _, tasks⟩ := taskCreatePublish_facts system.kernel position initialSp
      rw [published, tasks]
      by_cases new : index = position
      · subst new
        have holds : (system.frames thread).reserves = some index := by
          rw [inCall, started]
          rfl
        rw [Function.update_self]
        exact .fresh (core.reserved thread index holds).2 (by simp [Task.publish])
      · rw [Function.update_of_ne new]
        exact .refl _ _
  | starts _ started =>
      have stopped := schedulerStart_stopped started
      have outcome := schedulerStart_outcome cfg system.cpu system.kernel
      rw [started] at outcome
      obtain ⟨_, _, _, tasks, _⟩ := outcome.facts core.control stopped
      obtain ⟨state, same, awake⟩ := tasks index
      have calm := ((core.control.stopped stopped).2 index).2
      rw [same]
      exact .stays ⟨fun blocked => absurd blocked awake, fun blocked => absurd blocked calm⟩ rfl

/-- Every task during a tick. -/
theorem Core.sysTick_waitMove
    {system : System} (core : Core system) (index : Nat) :
    WaitMove (.tick (system.kernel.tickCount + 1)) (system.kernel.tasks index)
      ((sysTickHandler system.kernel).tasks index) := by
  cases running : system.kernel.running with
  | false =>
      rw [sysTickHandler_stopped running]
      exact .refl _ _
  | true =>
      obtain ⟨expired, _⟩ := sysTickHandler_expired core.waitsNamed running
      exact (expired.woken.tasks index).waitMove_tick

/-- Every task during a switch. -/
theorem Core.pendSv_waitMove
    {system : System} (core : Core system) (psp : Word) (live : system.kernel.halted = none)
    (index : Nat) :
    WaitMove .nobody (system.kernel.tasks index)
      ((pendSvHandler system.kernel psp).tasks index) := by
  rcases pendSvHandler_outcome psp core.control live with stopped | resumed
  · obtain ⟨savedSp, same⟩ := stopped.tasks index
    rw [same]
    exact .stays Iff.rfl rfl
  · refine .stays (resumed.blocked_iff index) ?_
    rw [resumed.tasks]
    rfl

/-- A step seen from one task: the task makes a call or moves inside one, or it
watches. -/
inductive TaskStep (cfg : Config) (index : Nat) (system : System) :
    Action → System → List Event → Prop
  | invokes {call : Call}
      (active : system.activeThread = some (.task index))
      (user : system.frames (.task index) = .user) :
      TaskStep cfg index system (.invoke call)
        (system.setFrame (.task index) (.inCall call .entry)) [.called (.task index) call]
  | advances {call : Call} {point : Point} {result : StepResult}
      (active : system.activeThread = some (.task index))
      (inCall : system.frames (.task index) = .inCall call point)
      (stepped : call.step cfg system.cpu system.kernel system.memory index point =
        some result) :
      TaskStep cfg index system .advance
        ({ system with
          kernel := result.kernel
          memory := result.memory }.setFrame (.task index) (result.outcome.frame call))
        (observe system (.task index) call point result ++
          result.outcome.returns (.task index) call)
  | watches {action : Action} {after : System} {events : List Event} {waker : Waker}
      (frame : after.frames (.task index) = system.frames (.task index))
      (ticks : ∀ now, waker = .tick now →
        action = .sysTick ∧ now = system.kernel.tickCount + 1)
      (move : WaitMove waker (system.kernel.tasks index) (after.kernel.tasks index)) :
      TaskStep cfg index system action after events

/-- A step of a task inside one of its calls. -/
inductive OwnStep (cfg : Config) (task : Nat) (call : Call) (system : System) :
    System → List Event → Prop
  | mk {point : Point} {result : StepResult}
      (active : system.activeThread = some (.task task))
      (inCall : system.frames (.task task) = .inCall call point)
      (stepped : call.step cfg system.cpu system.kernel system.memory task point =
        some result) :
      OwnStep cfg task call system
        ({ system with
          kernel := result.kernel
          memory := result.memory }.setFrame (.task task) (result.outcome.frame call))
        (observe system (.task task) call point result ++
          result.outcome.returns (.task task) call)

/-- Every step of the system, seen from one task. -/
theorem Core.taskStep
    {cfg : Config} {system after : System} {action : Action} {events : List Event}
    (core : Core system) (step : system.step cfg action = some (after, events))
    (index : Nat) : TaskStep cfg index system action after events := by
  cases System.stepped step with
  | sysTick =>
      refine .watches rfl ?_ (core.sysTick_waitMove index)
      intro now same
      exact ⟨rfl, (Waker.tick.inj same).symm⟩
  | pendSv live => exact .watches rfl (by simp) (core.pendSv_waitMove _ live index)
  | @invoke thread call active user =>
      by_cases own : thread = .task index
      · subst own
        exact .invokes active user
      · refine .watches ?_ (by simp) (.refl .nobody _)
        simp [System.setFrame, Ne.symm own]
  | @advance thread call point result active inCall stepped =>
      by_cases own : thread = .task index
      · subst own
        exact .advances active inCall stepped
      · refine .watches ?_ (by simp)
          (core.advance_waitMove active inCall (Call.step_advance stepped) own)
        simp [System.setFrame, Ne.symm own]
  | user => exact .watches rfl (by simp) (.refl .nobody _)

/-! ## Views -/

/-- How a task stands towards the wait of its call. -/
inductive WaitView
  | idle
  | waiting (call : Call)
  | flying (call : Call)
  deriving DecidableEq, Repr

/-- The view of a task in a given frame.  A signaled task flies until it executes
the step that follows its wait. -/
def waitView (task : Task) : Frame → WaitView
  | .inCall call (.suspended _) | .inCall call .asleep =>
      if task.state = .blocked then .waiting call
      else if task.waitResult = .signaled then .flying call
      else .idle
  | .inCall call (.signaled _) => .flying call
  | _ => .idle

/-- The view of a registry slot. -/
def System.view (system : System) (index : Nat) : WaitView :=
  waitView (system.kernel.tasks index) (system.frames (.task index))

namespace SlotOk

variable {frame : Frame} {task : Task}

/-- Blocked tasks are waiting, in the call that their wait belongs to. -/
theorem view_of_blocked (slot : SlotOk frame task) (blocked : task.state = .blocked) :
    ∃ call, waitView task frame = .waiting call ∧
      call.wait = some (task.waitReason, task.waitObject) := by
  obtain ⟨call, point, rfl, waiting, wait⟩ := slot.suspended blocked
  cases point <;> simp_all [Point.isWaiting, waitView]

/-- A task that is seen waiting is blocked. -/
theorem blocked_of_view {call : Call} (view : waitView task frame = .waiting call) :
    task.state = .blocked := by
  unfold waitView at view
  split at view
  · split at view
    · assumption
    · split at view <;> exact absurd view (by simp)
  · split at view
    · assumption
    · split at view <;> exact absurd view (by simp)
  · exact absurd view (by simp)
  · exact absurd view (by simp)

/-- It waits as its call says. -/
theorem wait_of_view
    (slot : SlotOk frame task) {call : Call} (view : waitView task frame = .waiting call) :
    call.wait = some (task.waitReason, task.waitObject) := by
  obtain ⟨other, same, wait⟩ := slot.view_of_blocked (blocked_of_view view)
  rw [view] at same
  obtain rfl := WaitView.waiting.inj same
  exact wait

/-- A signaled waiter flies in the call in which it waited. -/
theorem view_signaled
    {reason : WaitReason} {object : ObjectRef} {after : Task}
    (slot : SlotOk frame task) (waits : Task.waitsOn reason object task = true)
    (free : after.state ≠ .blocked) (result : after.waitResult = .signaled) :
    ∃ call, waitView task frame = .waiting call ∧ call.wait = some (reason, some object) ∧
      waitView after frame = .flying call := by
  obtain ⟨blocked, sameReason, _, sameObject⟩ := Task.waitsOn_iff.mp waits
  obtain ⟨call, point, rfl, waiting, wait⟩ := slot.suspended blocked
  rw [sameReason, sameObject] at wait
  refine ⟨call, ?_⟩
  cases point <;> simp_all [Point.isWaiting, waitView]

end SlotOk

/-- Wait data and the state decide the view. -/
theorem waitView_of_part
    {frame : Frame} {before after : Task}
    (blocked : after.state = .blocked ↔ before.state = .blocked)
    (part : after.waitPart = before.waitPart) :
    waitView after frame = waitView before frame := by
  have result : after.waitResult = before.waitResult := congrArg WaitPart.result part
  unfold waitView
  split <;> simp only [blocked, result]

/-- A task flies in the call in which it stands. -/
theorem waitView_flying
    {task : Task} {other call : Call} {point : Point}
    (flies : waitView task (.inCall other point) = .flying call) : other = call := by
  cases point with
  | signaled timeout => exact WaitView.flying.inj flies
  | suspended timeout =>
      simp only [waitView] at flies
      split at flies
      · exact absurd flies (by simp)
      · split at flies
        · exact WaitView.flying.inj flies
        · exact absurd flies (by simp)
  | asleep =>
      simp only [waitView] at flies
      split at flies
      · exact absurd flies (by simp)
      · split at flies
        · exact WaitView.flying.inj flies
        · exact absurd flies (by simp)
  | _ => exact absurd flies (by simp [waitView])

/-- The view of a bystander stays, ends by timeout, or takes off on a signal for its
wait. -/
theorem WaitMove.view
    {waker : Waker} {frame : Frame} {before after : Task}
    (slot : SlotOk frame before) (unborn : before.state = .created → frame = .user)
    (move : WaitMove waker before after) :
    (waitView after frame = waitView before frame ∧
        (waitView after frame ≠ .idle → after.waitPart = before.waitPart)) ∨
      (∃ call now, waker = .tick now ∧ before.dueAt now = true ∧
        waitView before frame = .waiting call ∧ waitView after frame = .idle) ∨
      (∃ call caller reason object, waker = .call caller ∧
        caller.signals = some (reason, object) ∧ Task.waitsOn reason object before = true ∧
        waitView before frame = .waiting call ∧ call.wait = some (reason, some object) ∧
        waitView after frame = .flying call) := by
  cases move with
  | stays blocked wait => exact Or.inl ⟨waitView_of_part blocked wait, fun _ => wait⟩
  | fresh created _ =>
      rw [unborn created]
      exact Or.inl ⟨rfl, fun busy => absurd rfl busy⟩
  | expires tick due free result =>
      obtain ⟨call, point, rfl, waiting, _⟩ := slot.suspended (Task.dueAt_iff.mp due).1
      refine Or.inr (Or.inl ⟨call, _, tick, due, ?_⟩)
      have blocked := (Task.dueAt_iff.mp due).1
      cases point <;> simp_all [Point.isWaiting, waitView]
  | signaled caller signals waits free result =>
      obtain ⟨call, waiting, wait, flying⟩ := slot.view_signaled waits free result
      exact Or.inr (Or.inr ⟨call, _, _, _, caller, signals, waits, waiting, wait, flying⟩)

/-- Calls that signal nobody leave the views of bystanders alone. -/
theorem WaitMove.view_quiet
    {call : Call} {frame : Frame} {before after : Task}
    (slot : SlotOk frame before) (unborn : before.state = .created → frame = .user)
    (move : WaitMove (.call call) before after) (quiet : call.signals = none) :
    waitView after frame = waitView before frame := by
  rcases move.view slot unborn with ⟨same, _⟩ | ⟨_, _, tick, _⟩ |
    ⟨_, caller, _, _, calls, signals, _⟩
  · exact same
  · exact absurd tick (by simp)
  · obtain rfl := Waker.call.inj calls
    rw [quiet] at signals
    exact absurd signals (by simp)

/-- The view of the thread that has just moved. -/
theorem System.view_setFrame_self (system : System) (index : Nat) (frame : Frame) :
    (system.setFrame (.task index) frame).view index =
      waitView (system.kernel.tasks index) frame := by
  simp [System.view, System.setFrame]

/-- Frames of other tasks. -/
theorem System.setFrame_of_ne
    (system : System) {self index : Nat} (frame : Frame) (other : index ≠ self) :
    (system.setFrame (.task self) frame).frames (.task index) = system.frames (.task index) := by
  simp [System.setFrame, other]

/-- The view of any other task. -/
theorem System.view_setFrame_of_ne
    (system : System) {thread : Thread} {index : Nat} (frame : Frame)
    (other : thread ≠ .task index) :
    (system.setFrame thread frame).view index = system.view index := by
  simp [System.view, System.setFrame, Ne.symm other]

/-- A step that leaves the control blocks alone and keeps the view of its own thread. -/
theorem System.view_setFrame_still
    {system : System} {kernel : Kernel} {memory : Memory} {thread : Thread} {frame : Frame}
    (tasks : kernel.tasks = system.kernel.tasks)
    (own : ∀ self, thread = .task self →
      waitView (system.kernel.tasks self) frame = system.view self)
    (index : Nat) :
    ({ system with
      kernel := kernel
      memory := memory }.setFrame thread frame).view index = system.view index := by
  by_cases mine : thread = .task index
  · subst mine
    rw [System.view_setFrame_self, ← own index rfl]
    simp only [tasks]
  · rw [System.view_setFrame_of_ne _ _ mine]
    simp only [System.view, tasks]

theorem System.view_congr
    {system after : System} {index : Nat}
    (frame : after.frames (.task index) = system.frames (.task index))
    (task : after.kernel.tasks index = system.kernel.tasks index) :
    after.view index = system.view index := by
  rw [System.view, System.view, frame, task]

/-- The waiter that the running thread signals takes off. -/
theorem Core.view_woken
    {system after : System} {self waiter : Nat} {reason : WaitReason} {object : ObjectRef}
    {state : TaskState}
    (core : Core system) (active : system.activeThread = some (.task self))
    (waits : Task.waitsOn reason object (system.kernel.tasks waiter) = true)
    (frames : ∀ other, other ≠ self → after.frames (.task other) = system.frames (.task other))
    (woken : after.kernel.tasks waiter = (system.kernel.tasks waiter).endWait .signaled state)
    (free : state ≠ .blocked) :
    ∃ call, system.view waiter = .waiting call ∧ call.wait = some (reason, some object) ∧
      after.view waiter = .flying call := by
  have different : waiter ≠ self := by
    rintro rfl
    have blocked := (Task.waitsOn_iff.mp waits).1
    rw [core.active_awake active] at blocked
    exact absurd blocked (by decide)
  unfold System.view
  rw [frames waiter different, woken]
  exact (core.slots waiter).view_signaled waits free rfl

/-- The scheduler never stops. -/
theorem Core.running_step
    {cfg : Config} {system after : System} {action : Action} {events : List Event}
    (core : Core system) (step : system.step cfg action = some (after, events))
    (running : system.kernel.running = true) : after.kernel.running = true := by
  cases System.stepped step with
  | sysTick =>
      obtain ⟨expired, _⟩ := sysTickHandler_expired core.waitsNamed running
      exact expired.woken.running.trans running
  | @pendSv psp live =>
      rcases pendSvHandler_outcome psp core.control live with stopped | resumed
      · exact stopped.running.trans running
      · exact resumed.running.trans running
  | invoke => exact running
  | @advance thread call point result active inCall stepped =>
      obtain ⟨effect, _, _, _⟩ := Call.step_advance stepped
      change result.kernel.running = true
      generalize result.outcome = outcome at effect
      generalize result.kernel = kernel at effect ⊢
      cases effect with
      | passes control => exact control.running.trans running
      | resets _ same =>
          rw [same]
          exact running
      | wakes _ _ woken => exact woken.running.trans running
      | waits _ _ _ _ blocked =>
          rw [blocked]
          exact running
      | reserves _ _ reserved =>
          rw [(taskCreateReserve_some reserved).2]
          exact running
      | @builds position _ built =>
          rw [built]
          exact (taskCreateBuild_facts cfg system.kernel position).1.running.trans running
      | @publishes position initialSp _ _ published =>
          rw [published]
          exact (taskCreatePublish_facts system.kernel position initialSp).1.running.trans
            running
      | starts _ started =>
          rw [schedulerStart_stopped started] at running
          exact absurd running Bool.false_ne_true
  | user => exact running

/-- Only its own step ends the flight of a signaled task. -/
theorem Core.flying_step
    {cfg : Config} {system after : System} {action : Action} {events : List Event}
    {task : Nat} {call : Call}
    (core : Core system) (step : system.step cfg action = some (after, events))
    (flies : system.view task = .flying call) :
    after.view task = .flying call ∨ OwnStep cfg task call system after events := by
  cases core.taskStep step task with
  | invokes active user =>
      rw [System.view, user] at flies
      exact absurd flies (by simp [waitView])
  | @advances other point result active inCall stepped =>
      have same : other = call := by
        rw [System.view, inCall] at flies
        exact waitView_flying flies
      subst same
      exact Or.inr (.mk active inCall stepped)
  | watches frame _ move =>
      left
      rw [System.view, frame]
      rcases move.view (core.slots task) (core.fresh task) with ⟨same, _⟩ |
        ⟨_, _, _, _, waiting, _⟩ | ⟨_, _, _, _, _, _, _, waiting, _⟩
      · exact same.trans flies
      · exact absurd (flies.symm.trans waiting) (by simp)
      · exact absurd (flies.symm.trans waiting) (by simp)

/-! ## One object -/

/-- The view as far as it concerns one object. -/
def WaitView.on (object : ObjectRef) : WaitView → WaitView
  | .idle => .idle
  | .waiting call => if call.object = some object then .waiting call else .idle
  | .flying call => if call.object = some object then .flying call else .idle

theorem WaitView.on_eq_flying {object : ObjectRef} {view : WaitView} {call : Call} :
    view.on object = .flying call ↔ view = .flying call ∧ call.object = some object := by
  cases view with
  | idle => simp [WaitView.on]
  | waiting other =>
      simp only [WaitView.on]
      split <;> simp
  | flying other =>
      simp only [WaitView.on]
      split
      · rename_i mine
        simp only [WaitView.flying.injEq]
        exact ⟨fun same => ⟨same, same ▸ mine⟩, fun both => both.1⟩
      · rename_i foreign
        simp only [reduceCtorEq, WaitView.flying.injEq, false_iff]
        exact fun both => foreign (both.1 ▸ both.2)

theorem WaitView.on_eq_waiting {object : ObjectRef} {view : WaitView} {call : Call} :
    view.on object = .waiting call ↔ view = .waiting call ∧ call.object = some object := by
  cases view with
  | idle => simp [WaitView.on]
  | flying other =>
      simp only [WaitView.on]
      split <;> simp
  | waiting other =>
      simp only [WaitView.on]
      split
      · rename_i mine
        simp only [WaitView.waiting.injEq]
        exact ⟨fun same => ⟨same, same ▸ mine⟩, fun both => both.1⟩
      · rename_i foreign
        simp only [reduceCtorEq, WaitView.waiting.injEq, false_iff]
        exact fun both => foreign (both.1 ▸ both.2)

/-- Events of calls on one object. -/
def Event.about (object : ObjectRef) : Event → Bool
  | .called _ _ => false
  | .returned _ call _ => call.object = some object
  | .sent _ queue _ | .received _ queue _ => object = .queue queue
  | .evaluated _ flags _ => object = .eventFlags flags

/-- The transfers of a step concern the object of its call only. -/
theorem observe_about
    {system : System} {thread : Thread} {call : Call} {point : Point} {result : StepResult}
    {event : Event} {object : ObjectRef}
    (present : event ∈ observe system thread call point result)
    (about : event.about object = true) : call.object = some object := by
  unfold observe at present
  split at present
  · obtain rfl := List.mem_singleton.mp present
    simpa [Event.about, Call.object, eq_comm] using about
  · obtain rfl := List.mem_singleton.mp present
    simpa [Event.about, Call.object, eq_comm] using about
  · obtain rfl := List.mem_singleton.mp present
    simpa [Event.about, Call.object, eq_comm] using about
  · split at present
    · obtain rfl := List.mem_singleton.mp present
      simpa [Event.about, Call.object, eq_comm] using about
    · exact absurd present List.not_mem_nil
  · exact absurd present List.not_mem_nil

/-- A step that is not part of a call on `object`. -/
structure Untouched (object : ObjectRef) (before after : System) (events : List Event) :
    Prop where
  data : before.kernel.SameObject after.kernel object
  events : ∀ event ∈ events, event.about object = false
  /-- Views stay, or waits end by timeout. -/
  views : ∀ index, (after.view index).on object = (before.view index).on object ∨
    ∃ call, (before.view index).on object = .waiting call ∧
      (after.view index).on object = .idle
  parts : ∀ index, (after.view index).on object ≠ .idle →
    (after.kernel.tasks index).waitPart = (before.kernel.tasks index).waitPart

namespace Untouched

variable {object : ObjectRef} {before after : System} {events : List Event} {call : Call}
  {index : Nat}

/-- A step that is not about the object moves no signalled task of it. -/
theorem flying_iff
    (same : Untouched object before after events) (mine : call.object = some object) :
    after.view index = .flying call ↔ before.view index = .flying call := by
  have onObject : ∀ view : WaitView, view = .flying call ↔ view.on object = .flying call :=
    fun view => (WaitView.on_eq_flying.trans (and_iff_left mine)).symm
  rw [onObject (after.view index), onObject (before.view index)]
  rcases same.views index with view | ⟨other, waiting, idle⟩
  · rw [view]
  · rw [waiting, idle]
    simp

/-- Waits are not begun, and keep their fields while they last. -/
theorem waiting
    (same : Untouched object before after events) (mine : call.object = some object)
    (waits : after.view index = .waiting call) :
    before.view index = .waiting call ∧
      (after.kernel.tasks index).waitPart = (before.kernel.tasks index).waitPart := by
  have onObject := WaitView.on_eq_waiting.mpr ⟨waits, mine⟩
  refine ⟨?_, same.parts index (by rw [onObject]; simp)⟩
  rcases same.views index with view | ⟨other, _, idle⟩
  · rw [view] at onObject
    exact (WaitView.on_eq_waiting.mp onObject).1
  · rw [idle] at onObject
    exact absurd onObject (by simp)

end Untouched

/-- Signals for a wait on another object do not concern this one. -/
theorem WaitMove.view_on
    {waker : Waker} {frame : Frame} {before after : Task} {object : ObjectRef}
    (slot : SlotOk frame before) (unborn : before.state = .created → frame = .user)
    (move : WaitMove waker before after)
    (other : ∀ call, waker = .call call → call.object ≠ some object) :
    ((waitView after frame).on object = (waitView before frame).on object ∨
      ∃ call, (waitView before frame).on object = .waiting call ∧
        (waitView after frame).on object = .idle) ∧
    ((waitView after frame).on object ≠ .idle → after.waitPart = before.waitPart) := by
  rcases move.view slot unborn with ⟨same, part⟩ | ⟨call, now, _, _, waiting, idle⟩ |
    ⟨call, caller, reason, target, calls, signals, _, waiting, wait, flying⟩
  · refine ⟨Or.inl (congrArg _ same), fun busy => part ?_⟩
    intro idle
    rw [idle] at busy
    exact busy rfl
  · rw [waiting, idle]
    refine ⟨?_, fun busy => absurd rfl busy⟩
    by_cases mine : call.object = some object
    · exact Or.inr ⟨call, by simp [WaitView.on, mine], rfl⟩
    · exact Or.inl (by simp [WaitView.on, mine])
  · have different : call.object ≠ some object := by
      rw [Call.object_of_wait wait]
      intro same
      exact other caller calls ((Call.object_of_signals signals).trans same)
    rw [waiting, flying]
    simp [WaitView.on, different]

/-- A call on another object does not concern this one. -/
theorem waitView_on_own
    {task : Task} {call : Call} {object : ObjectRef} (other : call.object ≠ some object)
    (point : Point) : (waitView task (.inCall call point)).on object = .idle := by
  unfold waitView
  split
  · rename_i same
    obtain ⟨rfl, _⟩ := Frame.inCall.inj same
    split
    · simp [WaitView.on, other]
    · split <;> simp [WaitView.on, other]
  · rename_i same
    obtain ⟨rfl, _⟩ := Frame.inCall.inj same
    split
    · simp [WaitView.on, other]
    · split <;> simp [WaitView.on, other]
  · rename_i same
    obtain ⟨rfl, _⟩ := Frame.inCall.inj same
    simp [WaitView.on, other]
  · rfl

/-- What a step must leave alone to be none of a call on the object. -/
theorem Core.untouched_of
    {system after : System} {events : List Event} {object : ObjectRef} (waker : Waker)
    (core : Core system)
    (data : system.kernel.SameObject after.kernel object)
    (silent : ∀ event ∈ events, event.about object = false)
    (other : ∀ call, waker = .call call → call.object ≠ some object)
    (each : ∀ index,
      (after.frames (.task index) = system.frames (.task index) ∧
        WaitMove waker (system.kernel.tasks index) (after.kernel.tasks index)) ∨
      ((system.view index).on object = .idle ∧ (after.view index).on object = .idle)) :
    Untouched object system after events := by
  have moved : ∀ index, ((after.view index).on object = (system.view index).on object ∨
      ∃ call, (system.view index).on object = .waiting call ∧
        (after.view index).on object = .idle) ∧
      ((after.view index).on object ≠ .idle →
        (after.kernel.tasks index).waitPart = (system.kernel.tasks index).waitPart) := by
    intro index
    rcases each index with ⟨frame, move⟩ | ⟨before, idle⟩
    · unfold System.view
      rw [frame]
      exact move.view_on (core.slots index) (core.fresh index) other
    · exact ⟨Or.inl (idle.trans before.symm), fun busy => absurd idle busy⟩
  exact ⟨data, silent, fun index => (moved index).1, fun index => (moved index).2⟩

theorem Kernel.SameObject.refl (kernel : Kernel) (object : ObjectRef) :
    kernel.SameObject kernel object :=
  (SameObjects.refl kernel).sameObject object

/-- The tick writes no object. -/
theorem sysTickHandler_sameObjects
    {kernel : Kernel} (named : kernel.WaitsNamed) :
    kernel.SameObjects (sysTickHandler kernel) := by
  cases running : kernel.running with
  | false =>
      rw [sysTickHandler_stopped running]
      exact ⟨rfl, rfl, rfl, rfl, rfl⟩
  | true =>
      obtain ⟨expired, _⟩ := sysTickHandler_expired named running
      have ticked : kernel.SameObjects kernel.ticked := ⟨rfl, rfl, rfl, rfl, rfl⟩
      exact ticked.trans expired.objects

/-- Neither does a switch. -/
theorem pendSvHandler_sameObjects
    {kernel : Kernel} (psp : Word) (control : ControlOk kernel) (live : kernel.halted = none) :
    kernel.SameObjects (pendSvHandler kernel psp) := by
  rcases pendSvHandler_outcome psp control live with stopped | resumed
  · exact stopped.objects
  · exact resumed.objects

/-- Every step is part of a call on the object or leaves it untouched. -/
theorem Core.untouched
    {cfg : Config} {system after : System} {action : Action} {events : List Event}
    (core : Core system) (step : Stepped cfg system action after events) (object : ObjectRef)
    (unrelated : ∀ thread call point, action = .advance → system.activeThread = some thread →
      system.frames thread = .inCall call point → call.object ≠ some object) :
    Untouched object system after events := by
  cases step with
  | sysTick =>
      exact core.untouched_of (.tick (system.kernel.tickCount + 1))
        ((sysTickHandler_sameObjects core.waitsNamed).sameObject object) (by simp) (by simp)
        fun index => Or.inl ⟨rfl, core.sysTick_waitMove index⟩
  | @pendSv psp live =>
      exact core.untouched_of .nobody
        ((pendSvHandler_sameObjects psp core.control live).sameObject object) (by simp) (by simp)
        fun index => Or.inl ⟨rfl, core.pendSv_waitMove psp live index⟩
  | @invoke thread call active user =>
      refine core.untouched_of .nobody (.refl _ _) (by simp [Event.about]) (by simp)
        fun index => ?_
      by_cases own : thread = .task index
      · subst own
        right
        simp only [System.view, System.setFrame, Function.update_self, user]
        exact ⟨rfl, rfl⟩
      · left
        simp only [System.setFrame, Function.update_of_ne (Ne.symm own)]
        exact ⟨trivial, .refl _ _⟩
  | @advance thread call point result active inCall stepped =>
      have different := unrelated thread call point rfl active inCall
      have step := Call.step_advance stepped
      refine core.untouched_of (.call call) (step.objects object different) ?_
        (fun other same => Waker.call.inj same ▸ different) fun index => ?_
      · intro event present
        rw [Bool.eq_false_iff]
        intro about
        rcases List.mem_append.mp present with observed | returned
        · exact different (observe_about observed about)
        · cases outcome : result.outcome with
          | goto =>
              rw [outcome] at returned
              exact absurd returned List.not_mem_nil
          | reply value =>
              rw [outcome] at returned
              obtain rfl := List.mem_singleton.mp returned
              exact different (of_decide_eq_true about)
      · by_cases own : thread = .task index
        · subst own
          right
          simp only [System.view, System.setFrame, Function.update_self, inCall]
          refine ⟨waitView_on_own different point, ?_⟩
          cases result.outcome with
          | goto next => exact waitView_on_own different next
          | reply value => rfl
        · left
          simp only [System.setFrame, Function.update_of_ne (Ne.symm own)]
          exact ⟨trivial, core.advance_waitMove active inCall step own⟩
  | user active user =>
      exact core.untouched_of .nobody (Kernel.SameObjects.sameObject ⟨rfl, rfl, rfl, rfl, rfl⟩ _)
        (by simp) (by simp) fun index => Or.inl ⟨rfl, .refl _ _⟩

/-- Steps of calls on one object, with all that the properties of the object need. -/
inductive ObjectStep
    (cfg : Config) (object : ObjectRef) (system : System) :
    Action → System → List Event → Prop
  | untouched {action : Action} {after : System} {events : List Event}
      (same : Untouched object system after events) :
      ObjectStep cfg object system action after events
  | advance {thread : Thread} {call : Call} {point : Point} {result : StepResult}
      (active : system.activeThread = some thread)
      (inCall : system.frames thread = .inCall call point)
      (mine : call.object = some object)
      (stepped : call.step cfg system.cpu system.kernel system.memory thread.slot point =
        some result) :
      ObjectStep cfg object system .advance
        ({ system with
          kernel := result.kernel
          memory := result.memory }.setFrame thread (result.outcome.frame call))
        (observe system thread call point result ++ result.outcome.returns thread call)

/-- Every step of the system, seen from one object. -/
theorem Core.objectStep
    {cfg : Config} {system after : System} {action : Action} {events : List Event}
    (core : Core system) (step : system.step cfg action = some (after, events))
    (object : ObjectRef) : ObjectStep cfg object system action after events := by
  have stepped := System.stepped step
  by_cases related : ∃ thread call point, action = .advance ∧
      system.activeThread = some thread ∧ system.frames thread = .inCall call point ∧
        call.object = some object
  · obtain ⟨thread, call, point, rfl, active, inCall, mine⟩ := related
    cases stepped with
    | advance nowActive nowInCall nowStepped =>
        obtain rfl := Option.some.inj (active.symm.trans nowActive)
        obtain ⟨rfl, rfl⟩ := Frame.inCall.inj (inCall.symm.trans nowInCall)
        exact .advance active inCall mine nowStepped
    | user nowActive user =>
        obtain rfl := Option.some.inj (active.symm.trans nowActive)
        rw [user] at inCall
        exact absurd inCall (by simp)
  · refine .untouched (core.untouched stepped object ?_)
    intro thread call point isAdvance active inCall mine
    exact related ⟨thread, call, point, isAdvance, active, inCall, mine⟩

/-! ## Signaled tasks -/

/-- A view of a task that was signaled out of a wait with this reason and object. -/
def WaitView.fliesFrom (reason : WaitReason) (object : ObjectRef) : WaitView → Bool
  | .flying call => call.wait = some (reason, some object)
  | _ => false

/-- Tasks that were signaled out of a wait with this reason and object, and have not
acted on the signal since. -/
def System.signaledFrom (system : System) (reason : WaitReason) (object : ObjectRef) :
    Finset Nat :=
  (Finset.range system.kernel.taskCount).filter fun task =>
    (system.view task).fliesFrom reason object

section Signaled

variable {system after : System} {events : List Event} {reason : WaitReason}
  {object : ObjectRef} {task : Nat}

theorem WaitView.fliesFrom_iff {view : WaitView} :
    view.fliesFrom reason object = true ↔
      ∃ call, view = .flying call ∧ call.wait = some (reason, some object) := by
  cases view <;> simp [WaitView.fliesFrom]

/-- Tasks with a view are registered. -/
theorem Core.mem_signaledFrom (core : Core system) :
    task ∈ system.signaledFrom reason object ↔
      (system.view task).fliesFrom reason object = true := by
  rw [System.signaledFrom, Finset.mem_filter, Finset.mem_range, and_iff_right_iff_imp]
  intro flies
  by_contra beyond
  have user := (core.unregistered task (Nat.le_of_not_lt beyond)).2
  rw [System.view, user] at flies
  exact absurd flies Bool.false_ne_true

/-- The waiters of an object are the tasks that are seen waiting for it. -/
theorem Core.waitsOn_iff_view (core : Core system) :
    Task.waitsOn reason object (system.kernel.tasks task) = true ↔
      ∃ call, system.view task = .waiting call ∧ call.wait = some (reason, some object) := by
  rw [Task.waitsOn_iff]
  constructor
  · rintro ⟨blocked, sameReason, _, sameObject⟩
    obtain ⟨call, view, wait⟩ := (core.slots task).view_of_blocked blocked
    rw [sameReason, sameObject] at wait
    exact ⟨call, view, wait⟩
  · rintro ⟨call, view, wait⟩
    have blocked := SlotOk.blocked_of_view view
    have same := (core.slots task).wait_of_view view
    rw [wait] at same
    obtain ⟨sameReason, sameObject⟩ := Prod.mk.inj (Option.some.inj same)
    exact ⟨blocked, sameReason.symm, (core.slots task).pending blocked, sameObject.symm⟩

/-- A signaled task does not wait. -/
theorem Core.notMem_of_waitsOn
    (core : Core system) {other : WaitReason} {place : ObjectRef}
    (waits : Task.waitsOn reason object (system.kernel.tasks task) = true) :
    task ∉ system.signaledFrom other place := by
  obtain ⟨call, view, _⟩ := core.waitsOn_iff_view.mp waits
  rw [core.mem_signaledFrom, view]
  exact Bool.false_ne_true

/-- The number of signalled tasks depends on the views only. -/
theorem Core.signaledFrom_congr
    (core : Core system) (next : Core after)
    (same : ∀ task, (after.view task).fliesFrom reason object =
      (system.view task).fliesFrom reason object) :
    after.signaledFrom reason object = system.signaledFrom reason object := by
  ext task
  rw [core.mem_signaledFrom, next.mem_signaledFrom, same]

theorem Untouched.fliesFrom
    (untouched : Untouched object system after events) :
    (after.view task).fliesFrom reason object =
      (system.view task).fliesFrom reason object := by
  rw [Bool.eq_iff_iff, WaitView.fliesFrom_iff, WaitView.fliesFrom_iff]
  constructor
  · rintro ⟨call, flying, wait⟩
    exact ⟨call, (untouched.flying_iff (Call.object_of_wait wait)).mp flying, wait⟩
  · rintro ⟨call, flying, wait⟩
    exact ⟨call, (untouched.flying_iff (Call.object_of_wait wait)).mpr flying, wait⟩

/-- A step that is not about an object gives it no new waiter. -/
theorem Untouched.waitsOn
    (untouched : Untouched object system after events) (core : Core system) (next : Core after)
    (waits : Task.waitsOn reason object (after.kernel.tasks task) = true) :
    Task.waitsOn reason object (system.kernel.tasks task) = true := by
  obtain ⟨call, waiting, wait⟩ := next.waitsOn_iff_view.mp waits
  exact core.waitsOn_iff_view.mpr
    ⟨call, (untouched.waiting (Call.object_of_wait wait) waiting).1, wait⟩

/-- The waiter that the running thread signals. -/
theorem Core.fliesFrom_woken
    {self : Nat} {state : TaskState}
    (core : Core system) (active : system.activeThread = some (.task self))
    (waits : Task.waitsOn reason object (system.kernel.tasks task) = true)
    (frames : ∀ other, other ≠ self → after.frames (.task other) = system.frames (.task other))
    (woken : after.kernel.tasks task = (system.kernel.tasks task).endWait .signaled state)
    (free : state ≠ .blocked) : (after.view task).fliesFrom reason object = true := by
  obtain ⟨call, _, wait, flying⟩ := core.view_woken active waits frames woken free
  exact WaitView.fliesFrom_iff.mpr ⟨call, flying, wait⟩

/-- A task whose wait has ended does not wait. -/
theorem Task.waitsOn_endWait
    (task : Task) {result : WaitResult} {state : TaskState} (free : state ≠ .blocked) :
    Task.waitsOn reason object (task.endWait result state) = false := by
  simp [Task.waitsOn, Task.endWait, free]

/-- Whoever else is signaled stays signaled, whether or not a waiter joins. -/
theorem Core.signaledFrom_erase_subset
    {self : Nat} (core : Core system) (next : Core after)
    (others : ∀ index, index ≠ self → after.view index = system.view index ∨
      ∃ reason object, Task.waitsOn reason object (system.kernel.tasks index) = true) :
    (system.signaledFrom reason object).erase self ⊆ after.signaledFrom reason object := by
  intro index present
  obtain ⟨different, signaled⟩ := Finset.mem_erase.mp present
  rcases others index different with same | ⟨_, _, waits⟩
  · rw [next.mem_signaledFrom, same]
    exact core.mem_signaledFrom.mp signaled
  · exact absurd signaled (core.notMem_of_waitsOn waits)

/-- Only the thread that moves leaves the signaled tasks. -/
theorem Core.signaledFrom_erase
    {self : Nat} (core : Core system) (next : Core after)
    (others : ∀ index, index ≠ self → after.view index = system.view index)
    (own : (after.view self).fliesFrom reason object = false) :
    after.signaledFrom reason object = (system.signaledFrom reason object).erase self := by
  ext index
  rw [Finset.mem_erase, core.mem_signaledFrom, next.mem_signaledFrom]
  by_cases mine : index = self
  · rw [mine, own]
    simp
  · rw [others index mine]
    simp [mine]

end Signaled

end ForgeKernel
