import ForgeKernel.Invariant.Exceptions
import ForgeKernel.Invariant.Steps

/-!
# The core invariant

Control blocks, frames and CPU masks agree in every reachable state: a blocked
task stands at a waiting point of the call whose wait it performs, a task past
its wait carries a result, and a task between the checks and the end of a
blocking call runs with no interrupt masked.  The last fact is what keeps a task
that has just blocked itself off the CPU.
-/

namespace ForgeKernel

open Machines

/-- The wait fields of a task that is not blocked. -/
structure Task.WaitCleared (task : Task) : Prop where
  reason : task.waitReason = .none
  object : task.waitObject = none
  hasDeadline : task.waitHasDeadline = false
  deadline : task.waitDeadline = 0
  mask : task.waitFlagsMask = 0
  all : task.waitFlagsAll = false
  clearOnExit : task.waitFlagsClearOnExit = false

/-- A control block agrees with the frame of its thread. -/
structure SlotOk (frame : Frame) (task : Task) : Prop where
  pending : task.state = .blocked → task.waitResult = .pending
  suspended : task.state = .blocked → ∃ call point, frame = .inCall call point ∧
    point.isWaiting = true ∧ call.wait = some (task.waitReason, task.waitObject)
  resumed : ∀ call point, frame = .inCall call point → point.isWaiting = true →
    task.state ≠ .blocked → task.waitResult ≠ .pending
  signaled : ∀ call timeout, frame = .inCall call (.signaled timeout) →
    task.waitResult = .signaled
  cleared : task.state ≠ .blocked → task.WaitCleared

/-- Points of blocking calls after their context check. -/
def Point.isGuarded : Point → Bool
  | .armed _ | .suspended _ | .signaled _ | .asleep => true
  | _ => false

/-- The slot that a frame has reserved and not yet published. -/
def Frame.reserves : Frame → Option Nat
  | .inCall _ (.reserved index) | .inCall _ (.built index _) => some index
  | _ => none

/-- The invariant behind every other one. -/
structure Core (system : System) : Prop where
  control : ControlOk system.kernel
  slots : ∀ index, SlotOk (system.frames (.task index)) (system.kernel.tasks index)
  unregistered : ∀ index, system.kernel.taskCount ≤ index →
    (∃ priority, system.kernel.tasks index = { Task.zero with priority := priority }) ∧
      system.frames (.task index) = .user
  states : ∀ index < system.kernel.taskCount, (system.kernel.tasks index).state ≠ .invalid ∧
    (system.kernel.tasks index).state ≠ .suspended
  /-- Until the scheduler starts only boot code runs; afterwards it is gone. -/
  dormant : system.kernel.running = false → ∀ index, system.frames (.task index) = .user
  departed : system.kernel.running = true →
    ∃ call, system.frames .boot = .inCall call .departed
  unmasked : ∀ current call point, system.kernel.currentTask = some (.user current) →
    system.frames (.task current) = .inCall call point → point.isGuarded = true →
    system.cpu.pendSvMasked = false
  reserved : ∀ thread index, (system.frames thread).reserves = some index →
    index < system.kernel.taskCount ∧ (system.kernel.tasks index).state = .created
  created : ∀ index, (system.kernel.tasks index).state = .created →
    ∃ thread, (system.frames thread).reserves = some index
  exclusive : ∀ first second index, (system.frames first).reserves = some index →
    (system.frames second).reserves = some index → first = second
  /-- The thread of an unpublished slot has not run. -/
  fresh : ∀ index, (system.kernel.tasks index).state = .created →
    system.frames (.task index) = .user

/-- A thread waits behind the context check of its call only. -/
theorem Point.isGuarded_of_isWaiting
    {point : Point} (waiting : point.isWaiting = true) : point.isGuarded = true := by
  cases point <;> simp_all [isWaiting, isGuarded]

namespace Core

variable {system : System}

/-- The thread that may step is boot code before the start, and afterwards the
current task, which is running. -/
theorem active_cases
    (core : Core system) {thread : Thread}
    (active : system.activeThread = some thread) :
    system.kernel.halted = none ∧
      ((thread = .boot ∧ system.kernel.running = false) ∨
        ∃ current, thread = .task current ∧ system.kernel.Runs current ∧
          current < system.kernel.taskCount) := by
  unfold System.activeThread at active
  split at active
  · exact absurd active (by simp)
  · rename_i free
    simp only [Bool.or_eq_true, not_or, Bool.not_eq_true, Option.isSome_eq_false_iff,
      Option.isNone_iff_eq_none] at free
    obtain ⟨live, notDue⟩ := free
    refine ⟨live, ?_⟩
    split at active
    · rename_i running
      obtain ⟨current, present, rfl⟩ := Option.map_eq_some_iff.mp active
      rw [schedulerCurrentTask_eq_some] at present
      obtain ⟨current_lt, _, state⟩ := core.control.user current present
      refine Or.inr ⟨current, rfl, ⟨present, running, ?_⟩, current_lt⟩
      rcases state with state | ⟨blocked, pending⟩
      · exact state
      · -- A blocked current task has a switch pending and nothing masks it.
        obtain ⟨call, point, frame, waiting, _⟩ := (core.slots current).suspended blocked
        have unmasked := core.unmasked current call point present frame
          (Point.isGuarded_of_isWaiting waiting)
        have pendSv := pending.resolve_right (by simp [live])
        simp [System.pendSvDue, pendSv, unmasked] at notDue
    · rename_i stopped
      exact Or.inl ⟨(Option.some.inj active).symm, by simpa using stopped⟩

/-- Blocked tasks carry a reason and, for a mutex, the mutex. -/
theorem waitsNamed (core : Core system) : system.kernel.WaitsNamed := by
  intro index blocked
  obtain ⟨call, point, _, _, waits⟩ := (core.slots index).suspended blocked
  refine ⟨Call.wait_reason_ne_none waits, fun reason => ?_⟩
  rw [reason] at waits
  obtain ⟨mutex, _, _, object⟩ := Call.wait_mutex waits
  exact ⟨mutex, object⟩

/-- Blocked tasks are registered, and the scheduler runs. -/
theorem registered_of_blocked
    (core : Core system) {index : Nat}
    (blocked : (system.kernel.tasks index).state = .blocked) :
    index < system.kernel.taskCount := by
  by_contra beyond
  obtain ⟨⟨priority, zero⟩, _⟩ := core.unregistered index (Nat.le_of_not_lt beyond)
  rw [zero] at blocked
  exact absurd blocked (by simp [Task.zero])

/-- Nobody is blocked before the scheduler starts. -/
theorem running_of_blocked
    (core : Core system) {index : Nat}
    (blocked : (system.kernel.tasks index).state = .blocked) :
    system.kernel.running = true := by
  obtain ⟨call, point, frame, _, _⟩ := (core.slots index).suspended blocked
  by_contra stopped
  rw [core.dormant (by simpa using stopped) index] at frame
  exact absurd frame (by simp)

/-- The invariant holds when boot code starts. -/
theorem initial : Core System.boot where
  control := by constructor <;> simp [System.boot, Kernel.reset, Task.zero]
  slots _ := by
    constructor <;> simp [System.boot, Kernel.reset, Task.zero]
    exact ⟨rfl, rfl, rfl, rfl, rfl, rfl, rfl⟩
  unregistered _ _ := ⟨⟨0, rfl⟩, rfl⟩
  states _ small := absurd small (Nat.not_lt_zero _)
  dormant _ _ := rfl
  departed := by simp [System.boot, Kernel.reset]
  unmasked := by simp [System.boot, Kernel.reset]
  reserved := by simp [System.boot, Frame.reserves]
  created := by simp [System.boot, Kernel.reset, Task.zero]
  exclusive := by simp [System.boot, Frame.reserves]
  fresh _ _ := rfl

end Core

/-! ## Control blocks under the effects of a step -/

namespace SlotOk

variable {frame : Frame} {task : Task}

/-- A change of priority does not touch a wait. -/
theorem kept (slot : SlotOk frame task) (priority : Nat) :
    SlotOk frame { task with priority := priority } :=
  ⟨slot.pending, slot.suspended, slot.resumed, slot.signaled,
    fun free => ⟨(slot.cleared free).reason, (slot.cleared free).object,
      (slot.cleared free).hasDeadline, (slot.cleared free).deadline, (slot.cleared free).mask,
      (slot.cleared free).all, (slot.cleared free).clearOnExit⟩⟩

/-- A wait that ended leaves its result for the thread to read. -/
theorem woken
    (slot : SlotOk frame task) (blocked : task.state = .blocked)
    {result : WaitResult} {state : TaskState} (priority : Nat) (bits : Word)
    (final : result ≠ .pending) (free : state ≠ .blocked) :
    SlotOk frame { task.endWait result state with
      priority := priority
      waitFlagsResult := bits } where
  pending waiting := absurd waiting free
  suspended waiting := absurd waiting free
  resumed _ _ _ _ _ := final
  signaled call timeout same := by
    obtain ⟨other, point, frameEq, waiting, _⟩ := slot.suspended blocked
    rw [frameEq] at same
    obtain ⟨rfl, rfl⟩ := Frame.inCall.inj same
    simp [Point.isWaiting] at waiting
  cleared _ := ⟨rfl, rfl, rfl, rfl, rfl, rfl, rfl⟩

/-- Completing a wait keeps control block and frame in agreement. -/
theorem moved
    {cause : WakeCause} {kernel : Kernel} {index : Nat} {after : Task}
    (slot : SlotOk frame (kernel.tasks index)) (move : TaskMove cause kernel index after) :
    SlotOk frame after := by
  rcases move with ⟨same⟩ | @⟨result, priority, bits, blocked, allowed, ended⟩
  · rw [same]
    exact slot.kept _
  · rw [ended]
    refine slot.woken blocked priority bits ?_ (kernel.wakeState_ne_blocked index)
    cases cause with
    | signal reason object =>
        rw [allowed.1]
        decide
    | expiry now =>
        rw [allowed.1]
        decide

/-- Switching a task in or out does not touch its wait. -/
theorem switched
    (slot : SlotOk frame task) (savedSp : Word) {state : TaskState}
    (same : state = .blocked ↔ task.state = .blocked) :
    SlotOk frame { task with
      savedSp := savedSp
      state := state } where
  pending blocked := slot.pending (same.mp blocked)
  suspended blocked := slot.suspended (same.mp blocked)
  resumed call point inCall waiting free :=
    slot.resumed call point inCall waiting fun blocked => free (same.mpr blocked)
  signaled := slot.signaled
  cleared free := by
    have cleared := slot.cleared fun blocked => free (same.mpr blocked)
    exact ⟨cleared.reason, cleared.object, cleared.hasDeadline, cleared.deadline,
      cleared.mask, cleared.all, cleared.clearOnExit⟩

/-- A thread that runs may move to any point that expects no result it lacks. -/
theorem reframed
    (slot : SlotOk frame task) (free : task.state ≠ .blocked) {next : Frame}
    (resumed : ∀ call point, next = .inCall call point → point.isWaiting = false)
    (signaled : ∀ call timeout, next = .inCall call (.signaled timeout) →
      task.waitResult = .signaled) :
    SlotOk next task where
  pending blocked := absurd blocked free
  suspended blocked := absurd blocked free
  resumed call point inCall waiting := by
    rw [resumed call point inCall] at waiting
    exact absurd waiting Bool.false_ne_true
  signaled := signaled
  cleared := slot.cleared

/-- A thread outside the kernel needs no wait result. -/
theorem outside (free : task.state ≠ .blocked) (cleared : task.WaitCleared) :
    SlotOk .user task where
  pending blocked := absurd blocked free
  suspended blocked := absurd blocked free
  resumed _ _ inCall := by cases inCall
  signaled _ _ inCall := by cases inCall
  cleared _ := cleared

/-- A thread that blocks stands at a waiting point of its call. -/
theorem begins
    {call : Call} {point : Point} {reason : WaitReason} {object : Option ObjectRef}
    (wait : call.wait = some (reason, object)) (waiting : point.isWaiting = true)
    (ticks now : Word) (priority : Nat) :
    SlotOk (.inCall call point)
      { task.beginWait reason object ticks now with priority := priority } where
  pending _ := rfl
  suspended _ := ⟨call, point, rfl, waiting, wait⟩
  resumed _ _ _ _ free := absurd rfl free
  signaled other timeout same := by
    obtain ⟨rfl, rfl⟩ := Frame.inCall.inj same
    simp [Point.isWaiting] at waiting
  cleared free := absurd rfl free

end SlotOk

/-! ## Preservation -/

/-- States of tasks that the scheduler knows about. -/
def TaskState.Live (state : TaskState) : Prop :=
  state = .ready ∨ state = .running ∨ state = .blocked

/-- What a step other than creation may do to a task's state. -/
def StateMove (before after : TaskState) : Prop :=
  after = before ∨ (before.Live ∧ after.Live)

theorem StateMove.trans
    {first second third : TaskState} (left : StateMove first second)
    (right : StateMove second third) : StateMove first third := by
  rcases left with rfl | ⟨before, _⟩
  · exact right
  · rcases right with rfl | ⟨_, after⟩
    · exact Or.inr ⟨before, ‹_›⟩
    · exact Or.inr ⟨before, after⟩

/-- Such a step neither reserves nor publishes a slot. -/
theorem StateMove.created_iff {before after : TaskState} (move : StateMove before after) :
    after = .created ↔ before = .created := by
  rcases move with rfl | ⟨rfl | rfl | rfl, rfl | rfl | rfl⟩ <;> simp

/-- A registered task keeps a state that the scheduler knows about. -/
theorem StateMove.registered
    {before after : TaskState} (move : StateMove before after)
    (old : before ≠ .invalid ∧ before ≠ .suspended) :
    after ≠ .invalid ∧ after ≠ .suspended := by
  rcases move with rfl | ⟨_, rfl | rfl | rfl⟩
  · exact old
  all_goals exact ⟨by decide, by decide⟩

/-- Completing a wait is such a step. -/
theorem TaskMove.stateMove
    {cause : WakeCause} {kernel : Kernel} {index : Nat} {after : Task}
    (move : TaskMove cause kernel index after) :
    StateMove (kernel.tasks index).state after.state := by
  rcases move with ⟨same⟩ | ⟨blocked, _, ended⟩
  · rw [same]
    exact Or.inl rfl
  · rw [ended]
    refine Or.inr ⟨Or.inr (Or.inr blocked), ?_⟩
    rcases kernel.wakeState_eq index with state | state
    · exact Or.inr (Or.inl state)
    · exact Or.inl state

/-- The thread that moves, and where it may go. -/
inductive ThreadMoves (system : System) (thread : Thread) (frame : Frame) : Prop
  | stands (same : frame = system.frames thread)
  | boots (boot : thread = .boot) (stopped : system.kernel.running = false)
  | runs {current : Nat} (user : thread = .task current)
      (registered : current < system.kernel.taskCount)
      (running : system.kernel.running = true)
      (state : (system.kernel.tasks current).state = .running)

namespace ThreadMoves

variable {system : System} {thread : Thread} {frame : Frame} {index : Nat}

/-- A task that cannot run stays outside the kernel. -/
theorem stays_out
    (moves : ThreadMoves system thread frame) (user : system.frames (.task index) = .user)
    (idle : ¬(system.kernel.running = true ∧ index < system.kernel.taskCount ∧
      (system.kernel.tasks index).state = .running)) :
    Function.update system.frames thread frame (.task index) = .user := by
  by_cases self : .task index = thread
  · subst self
    rw [Function.update_self]
    cases moves with
    | stands same => rw [same, user]
    | boots boot => cases boot
    | runs own registered running state =>
        obtain rfl : index = _ := Thread.task.inj own
        exact absurd ⟨running, registered, state⟩ idle
  · rw [Function.update_of_ne self, user]

/-- An unregistered slot has no thread inside the kernel. -/
theorem unregistered
    (moves : ThreadMoves system thread frame) (core : Core system)
    (beyond : system.kernel.taskCount ≤ index) :
    Function.update system.frames thread frame (.task index) = .user := by
  apply moves.stays_out (core.unregistered index beyond).2
  rintro ⟨_, registered, _⟩
  exact absurd registered (Nat.not_lt.mpr beyond)

/-- No task is inside the kernel before the scheduler starts. -/
theorem dormant
    (moves : ThreadMoves system thread frame) (core : Core system)
    (stopped : system.kernel.running = false) (index : Nat) :
    Function.update system.frames thread frame (.task index) = .user := by
  apply moves.stays_out (core.dormant stopped index)
  rintro ⟨running, _⟩
  exact absurd (stopped.symm.trans running) Bool.false_ne_true

/-- The task of an unpublished slot is not inside the kernel. -/
theorem fresh
    (moves : ThreadMoves system thread frame) (core : Core system)
    (created : (system.kernel.tasks index).state = .created) :
    Function.update system.frames thread frame (.task index) = .user := by
  apply moves.stays_out (core.fresh index created)
  rintro ⟨_, _, running⟩
  exact absurd (created.symm.trans running) (by decide)

/-- Boot code that has departed does not come back. -/
theorem departed
    (moves : ThreadMoves system thread frame) (core : Core system)
    (started : system.kernel.running = true) :
    ∃ call, Function.update system.frames thread frame .boot = .inCall call .departed := by
  obtain ⟨call, gone⟩ := core.departed started
  refine ⟨call, ?_⟩
  by_cases self : .boot = thread
  · subst self
    rw [Function.update_self]
    cases moves with
    | stands same => rw [same, gone]
    | boots _ stopped => exact absurd (stopped.symm.trans started) Bool.false_ne_true
    | runs user => cases user
  · rw [Function.update_of_ne self, gone]

end ThreadMoves

/-- Who reserves a slot once one thread has moved. -/
theorem Frame.reserves_update_iff
    {frames : Thread → Frame} {thread other : Thread} {frame : Frame} {index : Nat} :
    (Function.update frames thread frame other).reserves = some index ↔
      (other = thread ∧ frame.reserves = some index) ∨
        (other ≠ thread ∧ (frames other).reserves = some index) := by
  by_cases self : other = thread
  · rw [self, Function.update_self]
    simp
  · rw [Function.update_of_ne self]
    simp [self]

/-- A thread that keeps its reservation changes nobody's. -/
theorem Frame.reserves_update
    {frames : Thread → Frame} {thread : Thread} {frame : Frame}
    (same : frame.reserves = (frames thread).reserves) (other : Thread) :
    (Function.update frames thread frame other).reserves = (frames other).reserves := by
  by_cases self : other = thread
  · rw [self, Function.update_self, same]
  · rw [Function.update_of_ne self]

/-- Steps that create no task and do not start the scheduler. -/
theorem Core.of_step
    {system after : System} {thread : Thread} {frame : Frame}
    (core : Core system)
    (frames : after.frames = Function.update system.frames thread frame)
    (moves : ThreadMoves system thread frame)
    (reserves : frame.reserves = (system.frames thread).reserves)
    (taskCount : after.kernel.taskCount = system.kernel.taskCount)
    (running : after.kernel.running = system.kernel.running)
    (control : ControlOk after.kernel)
    (slots : ∀ index, SlotOk (after.frames (.task index)) (after.kernel.tasks index))
    (unregistered : ∀ index, system.kernel.taskCount ≤ index →
      ∃ priority, after.kernel.tasks index =
        { system.kernel.tasks index with priority := priority })
    (states : ∀ index, StateMove (system.kernel.tasks index).state
      (after.kernel.tasks index).state)
    (unmasked : ∀ current call point, after.kernel.currentTask = some (.user current) →
      after.frames (.task current) = .inCall call point → point.isGuarded = true →
      after.cpu.pendSvMasked = false) :
    Core after where
  control := control
  slots := slots
  unregistered index beyond := by
    rw [taskCount] at beyond
    obtain ⟨⟨first, zero⟩, _⟩ := core.unregistered index beyond
    obtain ⟨priority, same⟩ := unregistered index beyond
    rw [zero] at same
    rw [frames]
    exact ⟨⟨priority, same⟩, moves.unregistered core beyond⟩
  states index small := (states index).registered (core.states index (taskCount ▸ small))
  dormant stopped index := by
    rw [frames]
    exact moves.dormant core (running ▸ stopped) index
  departed started := by
    rw [frames]
    exact moves.departed core (running ▸ started)
  unmasked := unmasked
  reserved other index holds := by
    rw [frames, Frame.reserves_update reserves] at holds
    obtain ⟨small, created⟩ := core.reserved other index holds
    exact ⟨taskCount.symm ▸ small, (states index).created_iff.mpr created⟩
  created index created := by
    obtain ⟨other, holds⟩ := core.created index ((states index).created_iff.mp created)
    rw [frames]
    exact ⟨other, (Frame.reserves_update reserves other).trans holds⟩
  exclusive first second index holdsFirst holdsSecond := by
    rw [frames, Frame.reserves_update reserves] at holdsFirst holdsSecond
    exact core.exclusive first second index holdsFirst holdsSecond
  fresh index created := by
    rw [frames]
    exact moves.fresh core ((states index).created_iff.mp created)

/-- An exception handler runs on behalf of no thread. -/
theorem Core.of_exception
    {system after : System}
    (core : Core system)
    (frames : after.frames = system.frames)
    (taskCount : after.kernel.taskCount = system.kernel.taskCount)
    (running : after.kernel.running = system.kernel.running)
    (control : ControlOk after.kernel)
    (slots : ∀ index, SlotOk (system.frames (.task index)) (after.kernel.tasks index))
    (unregistered : ∀ index, system.kernel.taskCount ≤ index →
      ∃ priority, after.kernel.tasks index =
        { system.kernel.tasks index with priority := priority })
    (states : ∀ index, StateMove (system.kernel.tasks index).state
      (after.kernel.tasks index).state)
    (unmasked : ∀ current call point, after.kernel.currentTask = some (.user current) →
      system.frames (.task current) = .inCall call point → point.isGuarded = true →
      after.cpu.pendSvMasked = false) :
    Core after :=
  core.of_step (frames.trans (Function.update_eq_self Thread.boot system.frames).symm)
    (.stands rfl) rfl taskCount running control (frames ▸ slots) unregistered states
    (frames ▸ unmasked)

/-- A wake-up changes no unregistered slot but for its priority. -/
theorem Core.unregistered_wakes
    {system : System} {cause : WakeCause} {after : Kernel}
    (core : Core system) (woken : system.kernel.Wakes cause after)
    {index : Nat} (beyond : system.kernel.taskCount ≤ index) :
    ∃ priority, after.tasks index =
      { system.kernel.tasks index with priority := priority } := by
  rcases woken.tasks index with @⟨priority, same⟩ | ⟨blocked, _, _⟩
  · exact ⟨priority, same⟩
  · obtain ⟨⟨priority, zero⟩, _⟩ := core.unregistered index beyond
    rw [zero] at blocked
    exact absurd blocked (by simp [Task.zero])

/-- Counting the tick changes nothing that the invariant mentions. -/
theorem Core.ticked {system : System} (core : Core system) (time : Nat) :
    Core { system with
      kernel := system.kernel.ticked
      time := time } :=
  ⟨⟨core.control.stopped, core.control.started, core.control.idle, core.control.user,
    core.control.sole⟩, core.slots, core.unregistered, core.states, core.dormant,
    core.departed, core.unmasked, core.reserved, core.created, core.exclusive, core.fresh⟩

/-- The tick keeps the invariant. -/
theorem Core.sysTick {system : System} (core : Core system) :
    Core { system with
      kernel := sysTickHandler system.kernel
      time := system.time + 1 } := by
  cases running : system.kernel.running with
  | false =>
      rw [sysTickHandler_stopped running]
      exact core.ticked _
  | true =>
      obtain ⟨expired, _⟩ := sysTickHandler_expired core.waitsNamed running
      have ticked := core.ticked (system.time + 1)
      refine ticked.of_exception rfl expired.woken.taskCount expired.woken.running
        (ticked.control.wakes expired.woken) (fun index => ?_)
        (fun index => ticked.unregistered_wakes expired.woken)
        (fun index => (expired.woken.tasks index).stateMove) ?_
      · exact (ticked.slots index).moved (expired.woken.tasks index)
      · intro current call point present
        rw [expired.woken.currentTask] at present
        exact core.unmasked current call point present

/-- The current task is registered. -/
theorem Core.current_lt
    {system : System} (core : Core system) {index : Nat}
    (present : system.kernel.currentTask = some (.user index)) :
    index < system.kernel.taskCount :=
  (core.control.user index present).1

/-- A switch blocks and unblocks nobody. -/
theorem SwitchedTo.blocked_iff
    {before after : Kernel} {psp : Word} {next : Option Nat}
    (resumed : SwitchedTo before psp next after) (index : Nat) :
    (after.tasks index).state = .blocked ↔ (before.tasks index).state = .blocked := by
  rw [resumed.tasks]
  dsimp only
  split
  · rename_i chosen
    have candidate := resumed.selected
    rw [chosen] at candidate
    rcases candidate.1.2 with state | ⟨_, state⟩ <;> simp [state]
  · split
    · rename_i demoted
      simp [demoted.2]
    · exact Iff.rfl

/-- A switch moves states among those the scheduler knows about. -/
theorem SwitchedTo.stateMove
    {before after : Kernel} {psp : Word} {next : Option Nat}
    (resumed : SwitchedTo before psp next after) (index : Nat) :
    StateMove (before.tasks index).state (after.tasks index).state := by
  rw [resumed.tasks]
  dsimp only
  split
  · rename_i chosen
    have candidate := resumed.selected
    rw [chosen] at candidate
    refine Or.inr ⟨?_, Or.inr (Or.inl rfl)⟩
    rcases candidate.1.2 with state | ⟨_, state⟩
    · exact Or.inl state
    · exact Or.inr (Or.inl state)
  · split
    · rename_i demoted
      exact Or.inr ⟨Or.inr (Or.inl demoted.2), Or.inl rfl⟩
    · exact Or.inl rfl

/-- A slot that is neither current nor selected is untouched. -/
theorem SwitchedTo.tasks_of_ne
    {before after : Kernel} {psp : Word} {next : Option Nat}
    (resumed : SwitchedTo before psp next after) {index : Nat}
    (beyond : before.taskCount ≤ index)
    (other : before.currentTask ≠ some (.user index)) :
    after.tasks index = before.tasks index := by
  have unselected : next ≠ some index := by
    rintro rfl
    exact absurd resumed.selected.1.1 (Nat.not_lt.mpr beyond)
  rw [resumed.tasks, if_neg other, if_neg unselected, if_neg fun both => other both.1]

/-- A switch keeps the invariant. -/
theorem Core.pendSv
    {system : System} (core : Core system) (psp : Word)
    (live : system.kernel.halted = none) (due : system.pendSvDue = true) :
    Core { system with kernel := pendSvHandler system.kernel psp } := by
  have unmasked : system.cpu.pendSvMasked = false := by
    simp only [System.pendSvDue, Bool.and_eq_true, Bool.not_eq_true'] at due
    exact due.2
  have notCurrent : ∀ index, system.kernel.taskCount ≤ index →
      system.kernel.currentTask ≠ some (.user index) := fun index beyond present =>
    absurd (core.current_lt present) (Nat.not_lt.mpr beyond)
  have outcome : SwitchOutcome system.kernel psp (pendSvHandler system.kernel psp) :=
    pendSvHandler_outcome psp core.control live
  rcases outcome with stopped | resumed
  · refine core.of_exception rfl stopped.taskCount stopped.running
      (core.control.trapped stopped) (fun index => ?_) (fun index beyond => ?_)
      (fun index => ?_) (fun _ _ _ _ _ _ => unmasked)
    · obtain ⟨savedSp, same⟩ := stopped.tasks index
      rw [same]
      exact (core.slots index).switched savedSp Iff.rfl
    · exact ⟨_, stopped.others index (notCurrent index beyond)⟩
    · obtain ⟨savedSp, same⟩ := stopped.tasks index
      rw [same]
      exact Or.inl rfl
  · refine core.of_exception rfl resumed.taskCount resumed.running
      (core.control.switched resumed) (fun index => ?_) (fun index beyond => ?_)
      resumed.stateMove (fun _ _ _ _ _ _ => unmasked)
    · have same := resumed.blocked_iff index
      rw [resumed.tasks] at same
      rw [resumed.tasks]
      exact (core.slots index).switched _ same
    · exact ⟨_, resumed.tasks_of_ne beyond (notCurrent index beyond)⟩

/-! ### Threads -/

/-- The active thread may move. -/
theorem Core.threadMoves
    {system : System} (core : Core system) {thread : Thread}
    (active : system.activeThread = some thread) (frame : Frame) :
    ThreadMoves system thread frame := by
  obtain ⟨_, ⟨boot, stopped⟩ | ⟨current, user, runs, registered⟩⟩ := core.active_cases active
  · exact .boots boot stopped
  · subst user
    exact .runs rfl registered runs.running runs.state

/-- Where a running thread may go without waiting. -/
structure FrameAllowed (system : System) (kernel : Kernel) (thread : Thread) (frame : Frame) :
    Prop where
  reserves : frame.reserves = none
  awake : ∀ call point, frame = .inCall call point → point.isWaiting = false
  signaled : ∀ call timeout, frame = .inCall call (.signaled timeout) →
    ∀ index, thread = .task index → (kernel.tasks index).waitResult = .signaled
  unmasked : ∀ call point, frame = .inCall call point → point.isGuarded = true →
    ∀ index, thread = .task index → system.cpu.pendSvMasked = false

/-- A step of a running thread that does not put it to wait. -/
theorem Core.of_running_step
    {system : System} {thread : Thread} {kernel : Kernel} {memory : Memory} {frame : Frame}
    (core : Core system)
    (active : system.activeThread = some thread)
    (free : (system.frames thread).reserves = none)
    (allowed : FrameAllowed system kernel thread frame)
    (same : system.kernel.SameControl kernel)
    (control : ControlOk kernel)
    (slots : ∀ index, SlotOk (system.frames (.task index)) (kernel.tasks index))
    (unregistered : ∀ index, system.kernel.taskCount ≤ index →
      ∃ priority, kernel.tasks index = { system.kernel.tasks index with priority := priority })
    (states : ∀ index, StateMove (system.kernel.tasks index).state (kernel.tasks index).state)
    (awake : ∀ index, thread = .task index → (kernel.tasks index).state ≠ .blocked) :
    Core ({ system with
      kernel := kernel
      memory := memory }.setFrame thread frame) := by
  refine core.of_step rfl (core.threadMoves active frame) (allowed.reserves.trans free.symm)
    same.taskCount same.running control ?_ unregistered states ?_
  · intro index
    by_cases own : thread = .task index
    · subst own
      simp only [System.setFrame, Function.update_self]
      exact (slots index).reframed (awake index rfl) allowed.awake
        fun call timeout inCall => allowed.signaled call timeout inCall index rfl
    · simp only [System.setFrame, Function.update_of_ne (Ne.symm own)]
      exact slots index
  · intro current call point present inCall guarded
    by_cases own : thread = .task current
    · subst own
      simp only [System.setFrame, Function.update_self] at inCall
      exact allowed.unmasked call point inCall guarded current rfl
    · simp only [System.setFrame, Function.update_of_ne (Ne.symm own)] at inCall
      change kernel.currentTask = _ at present
      rw [same.currentTask] at present
      exact core.unmasked current call point present inCall guarded

/-- The active thread is not blocked. -/
theorem Core.active_awake
    {system : System} (core : Core system) {index : Nat}
    (active : system.activeThread = some (.task index)) :
    (system.kernel.tasks index).state = .running := by
  obtain ⟨_, ⟨boot, _⟩ | ⟨current, user, runs, _⟩⟩ := core.active_cases active
  · exact absurd boot (by simp)
  · obtain rfl : index = current := Thread.task.inj user
    exact runs.state

section Unguarded

variable {system : System} {thread : Thread} {frame : Frame}

/-- A thread that moves to an unguarded point still agrees with its control block. -/
theorem Core.slot_moves
    (core : Core system) (active : system.activeThread = some thread)
    (unguarded : ∀ call point, frame = .inCall call point → point.isGuarded = false)
    (index : Nat) :
    SlotOk (Function.update system.frames thread frame (.task index))
      (system.kernel.tasks index) := by
  by_cases self : .task index = thread
  · subst self
    rw [Function.update_self]
    refine (core.slots index).reframed (by simp [core.active_awake active]) ?_ ?_
    · intro call point inCall
      by_contra waiting
      have guarded := Point.isGuarded_of_isWaiting (Bool.not_eq_false _ ▸ waiting)
      exact absurd ((unguarded call point inCall).symm.trans guarded) Bool.false_ne_true
    · intro call timeout inCall
      exact absurd (unguarded call _ inCall).symm Bool.false_ne_true
  · rw [Function.update_of_ne self]
    exact core.slots index

/-- Nor does it need unmasked interrupts. -/
theorem Core.unmasked_moves
    (core : Core system)
    (unguarded : ∀ call point, frame = .inCall call point → point.isGuarded = false)
    {current : Nat} {call : Call} {point : Point}
    (present : system.kernel.currentTask = some (.user current))
    (inCall : Function.update system.frames thread frame (.task current) = .inCall call point)
    (guarded : point.isGuarded = true) : system.cpu.pendSvMasked = false := by
  by_cases self : .task current = thread
  · subst self
    rw [Function.update_self] at inCall
    exact absurd ((unguarded call point inCall).symm.trans guarded) Bool.false_ne_true
  · rw [Function.update_of_ne self] at inCall
    exact core.unmasked current call point present inCall guarded

end Unguarded

/-- An active task is the current one and runs. -/
theorem Core.active_current
    {system : System} (core : Core system) {index : Nat}
    (active : system.activeThread = some (.task index)) :
    system.kernel.Runs index := by
  obtain ⟨_, ⟨boot, _⟩ | ⟨current, user, runs, _⟩⟩ := core.active_cases active
  · exact absurd boot (by simp)
  · obtain rfl : index = current := Thread.task.inj user
    exact runs

/-- While some thread may step, the current task is running. -/
theorem Core.current_runs
    {system : System} (core : Core system) {thread : Thread} {current : Nat}
    (active : system.activeThread = some thread)
    (present : system.kernel.currentTask = some (.user current)) :
    system.kernel.Runs current := by
  obtain ⟨_, ⟨_, stopped⟩ | ⟨running, _, runs, _⟩⟩ := core.active_cases active
  · rw [(core.control.stopped stopped).1] at present
    exact absurd present (by simp)
  · obtain rfl : running = current := by simpa [runs.currentTask] using present
    exact runs

/-- Once the scheduler runs, only tasks step. -/
theorem Core.task_of_running
    {system : System} (core : Core system) {thread : Thread}
    (active : system.activeThread = some thread) (running : system.kernel.running = true) :
    ∃ self, thread = .task self := by
  obtain ⟨_, ⟨_, stopped⟩ | ⟨self, own, _⟩⟩ := core.active_cases active
  · rw [running] at stopped
    exact absurd stopped (by decide)
  · exact ⟨self, own⟩

/-- While a task is current, no other thread is active. -/
theorem Core.active_eq
    {system : System} (core : Core system) {thread : Thread} {current : Nat}
    (active : system.activeThread = some thread)
    (present : system.kernel.currentTask = some (.user current)) : thread = .task current := by
  obtain ⟨_, ⟨_, stopped⟩ | ⟨running, own, runs, _⟩⟩ := core.active_cases active
  · rw [(core.control.stopped stopped).1] at present
    exact absurd present (by simp)
  · obtain rfl : running = current := by simpa [runs.currentTask] using present
    exact own

/-- A thread may always return to its own code. -/
theorem FrameAllowed.user (system : System) (kernel : Kernel) (thread : Thread) :
    FrameAllowed system kernel thread .user :=
  ⟨rfl, fun _ _ inCall => absurd inCall (by simp), fun _ _ inCall => absurd inCall (by simp),
    fun _ _ inCall => absurd inCall (by simp)⟩

/-- Making a call keeps the invariant. -/
theorem Core.invoke
    {system : System} (core : Core system) {thread : Thread} {call : Call}
    (active : system.activeThread = some thread) (user : system.frames thread = .user) :
    Core (system.setFrame thread (.inCall call .entry)) := by
  have allowed : FrameAllowed system system.kernel thread (.inCall call .entry) := by
    refine ⟨rfl, ?_, ?_, ?_⟩
    · rintro _ _ ⟨⟩
      rfl
    · rintro _ _ ⟨⟩
    · rintro _ _ ⟨⟩ guarded
      exact absurd guarded (by decide)
  exact core.of_running_step active (by rw [user]; rfl) allowed (.refl _) core.control
    core.slots (fun _ _ => ⟨_, rfl⟩) (fun _ => Or.inl rfl) (fun index own => by
      subst own
      simp [core.active_awake active])

/-- Stores of user code keep the invariant. -/
theorem Core.user
    {system : System} (core : Core system) {thread : Thread}
    {stackMemory : Word → Word} {memory : Memory} {cpu : Cpu}
    (active : system.activeThread = some thread) (user : system.frames thread = .user) :
    Core { system with
      kernel := { system.kernel with stackMemory := stackMemory }
      memory := memory
      cpu := cpu } := by
  refine core.of_exception rfl rfl rfl
    ⟨core.control.stopped, core.control.started, core.control.idle, core.control.user,
      core.control.sole⟩
    core.slots (fun _ _ => ⟨_, rfl⟩) (fun _ => Or.inl rfl) ?_
  intro current call point present inCall
  obtain ⟨_, ⟨_, stopped⟩ | ⟨running, rfl, runs, _⟩⟩ := core.active_cases active
  · rw [(core.control.stopped stopped).1] at present
    exact absurd present (by simp)
  · obtain rfl : running = current := by simpa [runs.currentTask] using present
    rw [user] at inCall
    exact absurd inCall (by simp)

/-- Where the context check of a call succeeds, a switch is not masked. -/
theorem Cpu.unmasked_of_allowed
    {cpu : Cpu} (allowed : cpu.threadContextAllowed = true) : cpu.pendSvMasked = false := by
  simp only [Cpu.threadContextAllowed, Bool.and_eq_true, Bool.not_eq_true',
    decide_eq_true_eq] at allowed
  simp [Cpu.pendSvMasked, allowed]

/-- The guard of a blocking call protects its own thread. -/
theorem Core.guarded_unmasked
    {system : System} (core : Core system) {thread : Thread} {call : Call} {point : Point}
    (active : system.activeThread = some thread)
    (inCall : system.frames thread = .inCall call point) (guarded : point.isGuarded = true)
    {index : Nat} (own : thread = .task index) : system.cpu.pendSvMasked = false := by
  subst own
  exact core.unmasked index call point (core.active_current active).currentTask inCall guarded

/-- A step that leaves the registry alone goes to an allowed point. -/
theorem Core.passes_allowed
    {system : System} (core : Core system) {thread : Thread} {call : Call} {point : Point}
    {outcome : Outcome}
    (active : system.activeThread = some thread)
    (inCall : system.frames thread = .inCall call point)
    (next : Passes system.cpu system.kernel thread.slot call point outcome) :
    FrameAllowed system system.kernel thread (outcome.frame call) := by
  cases next with
  | reply => exact .user _ _ _
  | guarded =>
      refine ⟨rfl, ?_, ?_, ?_⟩
      · rintro _ _ ⟨⟩
        rfl
      · rintro _ _ ⟨⟩
      · rintro _ _ ⟨⟩ guarded
        exact absurd guarded Bool.false_ne_true
  | svc =>
      refine ⟨rfl, ?_, ?_, ?_⟩
      · rintro _ _ ⟨⟩
        rfl
      · rintro _ _ ⟨⟩
      · rintro _ _ ⟨⟩ guarded
        exact absurd guarded Bool.false_ne_true
  | armed _ permitted _ =>
      refine ⟨rfl, ?_, ?_, ?_⟩
      · rintro _ _ ⟨⟩
        rfl
      · rintro _ _ ⟨⟩
      · rintro _ _ ⟨⟩ _ _ _
        exact Cpu.unmasked_of_allowed permitted
  | signaled resumed result =>
      subst resumed
      refine ⟨rfl, ?_, ?_, ?_⟩
      · rintro _ _ ⟨⟩
        rfl
      · rintro _ _ ⟨⟩ index own
        subst own
        exact result
      · rintro _ _ ⟨⟩ _ index own
        exact core.guarded_unmasked active inCall rfl own

end ForgeKernel
