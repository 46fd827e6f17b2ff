import ForgeKernel.Invariant.Core

/-!
# The core invariant holds in every reachable state

One lemma per effect of a thread's step, and the induction over runs.
-/

namespace ForgeKernel

open Machines

/-- A step past a reservation belongs to `fr_task_create`. -/
theorem Call.step_creating
    {cfg : Config} {cpu : Cpu} {kernel : Kernel} {memory : Memory} {self index : Nat}
    {call : Call} {point : Point} {result : StepResult}
    (reserves : (Frame.inCall call point).reserves = some index)
    (stepped : call.step cfg cpu kernel memory self point = some result) :
    ∃ outTask config, call = .taskCreate outTask config := by
  cases point with
  | reserved =>
      cases call with
      | taskCreate outTask config => exact ⟨outTask, config, rfl⟩
      | _ =>
          exact absurd stepped (by
            simp [Call.step, taskSleepStep, taskYieldStep, schedulerStartStep, atomicStep,
              mutexLockStep, semaphoreTakeStep, semaphoreGiveStep, queueSendStep,
              queueReceiveStep, eventFlagsWaitStep])
  | built =>
      cases call with
      | taskCreate outTask config => exact ⟨outTask, config, rfl⟩
      | _ =>
          exact absurd stepped (by
            simp [Call.step, taskSleepStep, taskYieldStep, schedulerStartStep, atomicStep,
              mutexLockStep, semaphoreTakeStep, semaphoreGiveStep, queueSendStep,
              queueReceiveStep, eventFlagsWaitStep])
  | _ => simp [Frame.reserves] at reserves

section Effects

variable {system : System} {thread : Thread} {call : Call} {point : Point}

/-- Resetting the event-flag fields of a task that is not blocked changes its last
result at most. -/
theorem SlotOk.reset
    {frame : Frame} {task : Task} (slot : SlotOk frame task) (free : task.state ≠ .blocked) :
    SlotOk frame (task.withRequest ⟨0, false, false⟩) where
  pending blocked := absurd blocked free
  suspended blocked := absurd blocked free
  resumed := slot.resumed
  signaled := slot.signaled
  cleared _ := by
    have cleared := slot.cleared free
    exact ⟨cleared.reason, cleared.object, cleared.hasDeadline, cleared.deadline, rfl, rfl, rfl⟩

/-- An event-flag wait that only resets its request. -/
theorem Core.resets
    {current : Nat} {memory : Memory}
    (core : Core system)
    (active : system.activeThread = some thread)
    (free : (system.frames thread).reserves = none)
    (present : system.kernel.currentTask = some (.user current)) :
    Core ({ system with
      kernel := system.kernel.setTask current
        ((system.kernel.tasks current).withRequest ⟨0, false, false⟩)
      memory := memory }.setFrame thread .user) := by
  obtain ⟨live, ⟨_, stopped⟩ | ⟨running, rfl, runs, registered⟩⟩ := core.active_cases active
  · rw [(core.control.stopped stopped).1] at present
    exact absurd present (by simp)
  · obtain rfl : running = current := by simpa [runs.currentTask] using present
    have awake : (system.kernel.tasks running).state ≠ .blocked := by simp [runs.state]
    have states : ∀ index, ((system.kernel.setTask running
        ((system.kernel.tasks running).withRequest ⟨0, false, false⟩)).tasks index).state =
        (system.kernel.tasks index).state := by
      intro index
      by_cases self : index = running
      · subst self
        simp [Task.withRequest]
      · rw [Kernel.setTask_tasks_of_ne _ _ self]
    refine core.of_running_step active free (.user _ _ _) ⟨rfl, rfl, rfl, rfl, rfl⟩
      (core.control.of_states ⟨rfl, rfl, rfl, rfl, rfl⟩ id live states) (fun index => ?_)
      (fun index beyond => ?_) (fun index => Or.inl (states index)) (fun index own => ?_)
    · by_cases self : index = running
      · subst self
        rw [Kernel.setTask_tasks_self]
        exact (core.slots index).reset awake
      · rw [Kernel.setTask_tasks_of_ne _ _ self]
        exact core.slots index
    · rw [Kernel.setTask_tasks_of_ne _ _ (by omega)]
      exact ⟨_, rfl⟩
    · obtain rfl : running = index := Thread.task.inj own
      rw [states]
      exact awake

/-- A step that leaves the registry alone. -/
theorem Core.passes
    {kernel : Kernel} {memory : Memory} {outcome : Outcome}
    (core : Core system)
    (active : system.activeThread = some thread)
    (inCall : system.frames thread = .inCall call point)
    (free : (system.frames thread).reserves = none)
    (same : system.kernel.SameControl kernel)
    (pendSv : system.kernel.pendSv = true → kernel.pendSv = true)
    (tasks : kernel.tasks = system.kernel.tasks)
    (next : Passes system.cpu system.kernel thread.slot call point outcome) :
    Core ({ system with
      kernel := kernel
      memory := memory }.setFrame thread (outcome.frame call)) := by
  have allowed := core.passes_allowed active inCall next
  have live := (core.active_cases active).1
  refine core.of_running_step active free
    ⟨allowed.reserves, allowed.awake, tasks.symm ▸ allowed.signaled, allowed.unmasked⟩ same
    (core.control.of_states same pendSv live fun index => by rw [tasks])
    (fun index => ?_) (fun index _ => ⟨_, congrFun tasks index⟩)
    (fun index => Or.inl (by rw [tasks])) (fun index own => ?_)
  · rw [tasks]
    exact core.slots index
  · subst own
    rw [tasks, core.active_awake active]
    decide

/-- A step that completes waits. -/
theorem Core.wakes
    {kernel : Kernel} {memory : Memory} {cause : WakeCause}
    (core : Core system)
    (active : system.activeThread = some thread)
    (free : (system.frames thread).reserves = none)
    (woken : system.kernel.Wakes cause kernel) :
    Core ({ system with
      kernel := kernel
      memory := memory }.setFrame thread .user) := by
  refine core.of_running_step active free (.user _ _ _) woken.toSameControl
    (core.control.wakes woken) (fun index => (core.slots index).moved (woken.tasks index))
    (fun index => core.unregistered_wakes woken)
    (fun index => (woken.tasks index).stateMove) (fun index own => ?_)
  subst own
  rcases woken.tasks index with ⟨same⟩ | ⟨blocked, _, _⟩
  · rw [same]
    simp [core.active_awake active]
  · rw [core.active_awake active] at blocked
    exact absurd blocked (by decide)

/-- The kernel after a thread has put itself to wait. -/
def Kernel.waiting
    (kernel : Kernel) (call : Call) (current : Nat) (reason : WaitReason)
    (object : Option ObjectRef) (ticks : Word) (trace : Trace) (priorities : Nat → Nat) :
    Kernel :=
  ((kernel.setTask current (call.prepare (kernel.tasks current))).blockTask current reason
    object ticks trace).withPriorities priorities

/-- The control block of a thread that waits. -/
theorem Kernel.waiting_self
    (kernel : Kernel) (call : Call) (current : Nat) (reason : WaitReason)
    (object : Option ObjectRef) (ticks : Word) (trace : Trace) (priorities : Nat → Nat) :
    (kernel.waiting call current reason object ticks trace priorities).tasks current =
      { (call.prepare (kernel.tasks current)).beginWait reason object ticks
          kernel.tickCount with
        priority := priorities current } := by
  simp [waiting, withPriorities, blockTask, setTask]

theorem Kernel.waiting_of_ne
    (kernel : Kernel) (call : Call) {current index : Nat} (reason : WaitReason)
    (object : Option ObjectRef) (ticks : Word) (trace : Trace) (priorities : Nat → Nat)
    (other : index ≠ current) :
    (kernel.waiting call current reason object ticks trace priorities).tasks index =
      { kernel.tasks index with priority := priorities index } := by
  simp [waiting, withPriorities, blockTask, setTask, other]

/-- A step with which a thread puts itself to wait. -/
theorem Core.waits
    {current : Nat} {reason : WaitReason} {object : Option ObjectRef} {ticks : Word}
    {trace : Trace} {priorities : Nat → Nat} {memory : Memory} {next : Point}
    (core : Core system)
    (active : system.activeThread = some thread)
    (inCall : system.frames thread = .inCall call point)
    (free : (system.frames thread).reserves = none)
    (runs : system.kernel.Runs current)
    (wait : call.wait = some (reason, object))
    (timing : WaitTiming system.cpu system.kernel.tickCount call point ticks next) :
    Core ({ system with
      kernel := system.kernel.waiting call current reason object ticks trace priorities
      memory := memory }.setFrame thread (.inCall call next)) := by
  have waiting : next.isWaiting = true := by cases timing <;> rfl
  obtain ⟨live, ⟨_, stopped⟩ | ⟨running, rfl, own, registered⟩⟩ := core.active_cases active
  · rw [runs.running] at stopped
    exact absurd stopped.symm Bool.false_ne_true
  · obtain rfl : running = current := by simpa [runs.currentTask] using own.currentTask.symm
    have blocked : ((system.kernel.waiting call running reason object ticks trace
        priorities).tasks running).state = .blocked := by
      rw [Kernel.waiting_self]
      rfl
    have others : ∀ index, index ≠ running → ((system.kernel.waiting call running reason
        object ticks trace priorities).tasks index).state =
          (system.kernel.tasks index).state := by
      intro index other
      rw [Kernel.waiting_of_ne _ _ _ _ _ _ _ other]
    have unmasked : system.cpu.pendSvMasked = false := by
      cases timing with
      | sleep unmasked => exact unmasked
      | timed start _ =>
          refine core.guarded_unmasked active inCall ?_ rfl
          rcases start with rfl | rfl <;> rfl
    refine core.of_step rfl (core.threadMoves active _) ?_ rfl rfl
      (core.control.blocks ⟨rfl, rfl, rfl, rfl, rfl⟩ rfl runs blocked others)
      (fun index => ?_) (fun index beyond => ?_) (fun index => ?_) (fun _ _ _ _ _ _ => unmasked)
    · rw [free]
      cases timing <;> rfl
    · by_cases self : index = running
      · subst self
        simp only [System.setFrame, Function.update_self, Kernel.waiting_self]
        exact .begins wait waiting _ _ _
      · have frame : Thread.task index ≠ .task running := fun same =>
          self (Thread.task.inj same)
        simp only [System.setFrame, Function.update_of_ne frame,
          Kernel.waiting_of_ne _ _ _ _ _ _ _ self]
        exact (core.slots index).kept _
    · exact ⟨_, Kernel.waiting_of_ne _ _ _ _ _ _ _ (by omega)⟩
    · by_cases self : index = running
      · subst self
        refine Or.inr ⟨Or.inr (Or.inl runs.state), Or.inr (Or.inr blocked)⟩
      · exact Or.inl (others index self)

/-! ### Task creation -/

/-- A reservation: one more slot, in state `CREATED`. -/
theorem taskCreateReserve_some
    {cfg : Config} {kernel after : Kernel} {config : TaskConfig}
    (reserved : taskCreateReserve cfg kernel config = some after) :
    kernel.taskCount < cfg.maxTasks ∧
      after = { kernel.setTask kernel.taskCount
          ((kernel.tasks kernel.taskCount).reserve kernel.taskCount config) with
        taskCount := kernel.taskCount + 1 } := by
  unfold taskCreateReserve at reserved
  split at reserved
  · exact absurd reserved (by simp)
  · rename_i room
    exact ⟨Nat.lt_of_not_le room, (Option.some.inj reserved).symm⟩

/-- A reservation leaves the older slots alone. -/
theorem taskCreateReserve_others
    {cfg : Config} {kernel after : Kernel} {config : TaskConfig}
    (reserved : taskCreateReserve cfg kernel config = some after) {task : Nat}
    (other : task ≠ kernel.taskCount) : after.tasks task = kernel.tasks task := by
  obtain ⟨_, same⟩ := taskCreateReserve_some reserved
  rw [same]
  exact Function.update_of_ne other ..

theorem taskCreateReserve_own
    {cfg : Config} {kernel after : Kernel} {config : TaskConfig}
    (reserved : taskCreateReserve cfg kernel config = some after) :
    after.tasks kernel.taskCount =
      (kernel.tasks kernel.taskCount).reserve kernel.taskCount config := by
  obtain ⟨_, same⟩ := taskCreateReserve_some reserved
  rw [same]
  exact Function.update_self ..

/-- The next slot becomes `CREATED`, reserved by the thread that moves. -/
theorem Core.of_reserved_slot
    {kernel : Kernel} {memory : Memory}
    (core : Core system)
    (active : system.activeThread = some thread)
    (free : (system.frames thread).reserves = none)
    (control : ControlOk kernel)
    (taskCount : kernel.taskCount = system.kernel.taskCount + 1)
    (currentTask : kernel.currentTask = system.kernel.currentTask)
    (running : kernel.running = system.kernel.running)
    (state : (kernel.tasks system.kernel.taskCount).state = .created)
    (cleared : (kernel.tasks system.kernel.taskCount).WaitCleared)
    (others : ∀ index ≠ system.kernel.taskCount,
      kernel.tasks index = system.kernel.tasks index) :
    Core ({ system with
      kernel := kernel
      memory := memory }.setFrame thread
        (.inCall call (.reserved system.kernel.taskCount))) where
  control := control
  slots index := by
    dsimp only [System.setFrame]
    by_cases new : index = system.kernel.taskCount
    · rw [new, (core.threadMoves active _).unregistered core le_rfl]
      exact .outside (by simp [state]) cleared
    · rw [others index new]
      apply core.slot_moves active
      rintro _ _ ⟨⟩
      rfl
  unregistered index beyond := by
    dsimp only [System.setFrame] at beyond ⊢
    rw [others index (by omega)]
    exact ⟨(core.unregistered index (by omega)).1,
      (core.threadMoves active _).unregistered core (by omega)⟩
  states index small := by
    dsimp only [System.setFrame] at small ⊢
    by_cases new : index = system.kernel.taskCount
    · rw [new, state]
      exact ⟨by decide, by decide⟩
    · rw [others index new]
      exact core.states index (by omega)
  dormant stopped index := (core.threadMoves active _).dormant core (running ▸ stopped) index
  departed started := (core.threadMoves active _).departed core (running ▸ started)
  unmasked current otherCall otherPoint present := by
    apply core.unmasked_moves
    · rintro _ _ ⟨⟩
      rfl
    · exact currentTask.symm.trans present
  reserved other index holds := by
    dsimp only [System.setFrame] at holds ⊢
    rw [taskCount]
    rcases Frame.reserves_update_iff.mp holds with ⟨_, new⟩ | ⟨_, holds⟩
    · obtain rfl : system.kernel.taskCount = index := Option.some.inj new
      exact ⟨Nat.lt_succ_self _, state⟩
    · obtain ⟨small, created⟩ := core.reserved other index holds
      rw [others index small.ne]
      exact ⟨Nat.lt_succ_of_lt small, created⟩
  created index created := by
    dsimp only [System.setFrame] at created ⊢
    by_cases new : index = system.kernel.taskCount
    · rw [new]
      exact ⟨thread, Frame.reserves_update_iff.mpr (Or.inl ⟨rfl, rfl⟩)⟩
    · rw [others index new] at created
      obtain ⟨other, holds⟩ := core.created index created
      refine ⟨other, Frame.reserves_update_iff.mpr (Or.inr ⟨?_, holds⟩)⟩
      rintro rfl
      exact absurd (free.symm.trans holds) (by simp)
  exclusive first second index holdsFirst holdsSecond := by
    have older : ∀ other, (system.frames other).reserves ≠ some system.kernel.taskCount :=
      fun other holds => lt_irrefl _ (core.reserved other _ holds).1
    rcases Frame.reserves_update_iff.mp holdsFirst with ⟨same, own⟩ | ⟨_, holdsFirst⟩ <;>
      rcases Frame.reserves_update_iff.mp holdsSecond with ⟨alike, new⟩ | ⟨_, holdsSecond⟩
    · exact same.trans alike.symm
    · obtain rfl : system.kernel.taskCount = index := Option.some.inj own
      exact absurd holdsSecond (older second)
    · obtain rfl : system.kernel.taskCount = index := Option.some.inj new
      exact absurd holdsFirst (older first)
    · exact core.exclusive first second index holdsFirst holdsSecond
  fresh index created := by
    dsimp only [System.setFrame] at created ⊢
    by_cases new : index = system.kernel.taskCount
    · exact (core.threadMoves active _).unregistered core new.ge
    · rw [others index new] at created
      exact (core.threadMoves active _).fresh core created

/-- The first part of a creation. -/
theorem Core.reserves
    {cfg : Config} {kernel : Kernel} {memory : Memory} {config : TaskConfig}
    (core : Core system)
    (active : system.activeThread = some thread)
    (free : (system.frames thread).reserves = none)
    (reserved : taskCreateReserve cfg system.kernel config = some kernel) :
    Core ({ system with
      kernel := kernel
      memory := memory }.setFrame thread
        (.inCall call (.reserved system.kernel.taskCount))) := by
  obtain ⟨⟨_, zero⟩, _⟩ := core.unregistered system.kernel.taskCount le_rfl
  have own := taskCreateReserve_own reserved
  have others : ∀ index ≠ system.kernel.taskCount,
      kernel.tasks index = system.kernel.tasks index := fun _ other =>
    taskCreateReserve_others reserved other
  have state : (kernel.tasks system.kernel.taskCount).state = .created := by
    rw [own]
    rfl
  obtain ⟨_, rfl⟩ := taskCreateReserve_some reserved
  refine core.of_reserved_slot active free ?_ rfl rfl rfl state ?_ others
  · refine core.control.writes system.kernel.taskCount (Nat.le_succ _) rfl rfl rfl rfl
      (core.active_cases active).1 ?_ ?_ others
    · simp [zero, Task.zero]
    · exact ⟨fun running => absurd (state.symm.trans running) (by decide),
        fun blocked => absurd (state.symm.trans blocked) (by decide)⟩
  · rw [own, zero]
    exact ⟨rfl, rfl, rfl, rfl, rfl, rfl, rfl⟩

/-- Building a stack leaves the registry and the control data alone. -/
theorem taskCreateBuild_facts (cfg : Config) (kernel : Kernel) (index : Nat) :
    let built := (taskCreateBuild cfg kernel index).1
    kernel.SameControl built ∧ built.pendSv = kernel.pendSv ∧ built.tasks = kernel.tasks := by
  unfold taskCreateBuild
  dsimp only
  split <;> exact ⟨⟨rfl, rfl, rfl, rfl, rfl⟩, rfl, rfl⟩

/-- The second part of a creation. -/
theorem Core.builds
    {cfg : Config} {memory : Memory} {index : Nat} {initialSp : Word}
    (core : Core system)
    (active : system.activeThread = some thread)
    (inCall : system.frames thread = .inCall call (.reserved index)) :
    Core ({ system with
      kernel := (taskCreateBuild cfg system.kernel index).1
      memory := memory }.setFrame thread (.inCall call (.built index initialSp))) := by
  obtain ⟨same, pendSv, tasks⟩ := taskCreateBuild_facts cfg system.kernel index
  generalize (taskCreateBuild cfg system.kernel index).1 = kernel at same pendSv tasks ⊢
  have live := (core.active_cases active).1
  refine core.of_step rfl (core.threadMoves active _) (by rw [inCall]; rfl) same.taskCount
    same.running (core.control.of_states same (fun pending => pendSv.trans pending) live
      fun position => congrArg Task.state (congrFun tasks position))
    (fun position => ?_) (fun position _ => ⟨_, congrFun tasks position⟩)
    (fun position => Or.inl (congrArg Task.state (congrFun tasks position))) ?_
  · dsimp only [System.setFrame]
    rw [tasks]
    apply core.slot_moves active
    rintro _ _ ⟨⟩
    rfl
  · intro current otherCall otherPoint present
    apply core.unmasked_moves
    · rintro _ _ ⟨⟩
      rfl
    · exact same.currentTask.symm.trans present

/-- Publishing writes one slot. -/
theorem taskCreatePublish_facts (kernel : Kernel) (index : Nat) (initialSp : Word) :
    let published := taskCreatePublish kernel index initialSp
    kernel.SameControl published ∧ published.pendSv = kernel.pendSv ∧
      published.tasks = Function.update kernel.tasks index
        ((kernel.tasks index).publish initialSp) := by
  unfold taskCreatePublish
  dsimp only
  split <;> exact ⟨⟨rfl, rfl, rfl, rfl, rfl⟩, rfl, rfl⟩

/-- The slot that the moving thread has reserved becomes READY. -/
theorem Core.of_published_slot
    {kernel : Kernel} {memory : Memory} {index : Nat}
    (core : Core system)
    (active : system.activeThread = some thread)
    (holds : (system.frames thread).reserves = some index)
    (same : system.kernel.SameControl kernel)
    (control : ControlOk kernel)
    (state : (kernel.tasks index).state = .ready)
    (cleared : (kernel.tasks index).WaitCleared)
    (others : ∀ other ≠ index, kernel.tasks other = system.kernel.tasks other) :
    Core ({ system with
      kernel := kernel
      memory := memory }.setFrame thread .user) where
  control := control
  slots position := by
    dsimp only [System.setFrame]
    by_cases new : position = index
    · have created := (core.reserved thread index holds).2
      rw [new, (core.threadMoves active _).fresh core created]
      exact .outside (by simp [state]) cleared
    · rw [others position new]
      apply core.slot_moves active
      rintro _ _ ⟨⟩
  unregistered position beyond := by
    dsimp only [System.setFrame] at beyond ⊢
    rw [same.taskCount] at beyond
    have registered := (core.reserved thread index holds).1
    rw [others position (by omega)]
    exact ⟨(core.unregistered position beyond).1,
      (core.threadMoves active _).unregistered core beyond⟩
  states position small := by
    dsimp only [System.setFrame] at small ⊢
    by_cases new : position = index
    · rw [new, state]
      exact ⟨by decide, by decide⟩
    · rw [others position new]
      exact core.states position (same.taskCount ▸ small)
  dormant stopped position :=
    (core.threadMoves active _).dormant core (same.running ▸ stopped) position
  departed started := (core.threadMoves active _).departed core (same.running ▸ started)
  unmasked current otherCall otherPoint present := by
    apply core.unmasked_moves
    · rintro _ _ ⟨⟩
    · exact same.currentTask.symm.trans present
  reserved other position reserves := by
    dsimp only [System.setFrame]
    rcases Frame.reserves_update_iff.mp reserves with ⟨_, none⟩ | ⟨different, reserves⟩
    · cases none
    · obtain ⟨small, created⟩ := core.reserved other position reserves
      rw [others position, same.taskCount]
      · exact ⟨small, created⟩
      · rintro rfl
        exact different (core.exclusive other thread position reserves holds)
  created position created := by
    dsimp only [System.setFrame] at created ⊢
    have old : position ≠ index := by
      rintro rfl
      exact absurd (state.symm.trans created) (by decide)
    rw [others position old] at created
    obtain ⟨other, reserves⟩ := core.created position created
    refine ⟨other, Frame.reserves_update_iff.mpr (Or.inr ⟨?_, reserves⟩)⟩
    rintro rfl
    exact old (Option.some.inj (reserves.symm.trans holds))
  exclusive first second position holdsFirst holdsSecond := by
    rcases Frame.reserves_update_iff.mp holdsFirst with ⟨_, none⟩ | ⟨_, holdsFirst⟩
    · cases none
    · rcases Frame.reserves_update_iff.mp holdsSecond with ⟨_, none⟩ | ⟨_, holdsSecond⟩
      · cases none
      · exact core.exclusive first second position holdsFirst holdsSecond
  fresh position created := by
    dsimp only [System.setFrame] at created ⊢
    apply (core.threadMoves active _).fresh core
    rw [← others position]
    · exact created
    · rintro rfl
      exact absurd (state.symm.trans created) (by decide)

/-- The last part of a creation. -/
theorem Core.publishes
    {memory : Memory} {index : Nat} {initialSp : Word}
    (core : Core system)
    (active : system.activeThread = some thread)
    (inCall : system.frames thread = .inCall call (.built index initialSp)) :
    Core ({ system with
      kernel := taskCreatePublish system.kernel index initialSp
      memory := memory }.setFrame thread .user) := by
  obtain ⟨same, pendSv, tasks⟩ := taskCreatePublish_facts system.kernel index initialSp
  generalize taskCreatePublish system.kernel index initialSp = kernel at same pendSv tasks ⊢
  have holds : (system.frames thread).reserves = some index := by
    rw [inCall]
    rfl
  have created := (core.reserved thread index holds).2
  have own : kernel.tasks index = (system.kernel.tasks index).publish initialSp := by
    rw [tasks, Function.update_self]
  have state : (kernel.tasks index).state = .ready := by
    rw [own]
    rfl
  have others : ∀ other ≠ index, kernel.tasks other = system.kernel.tasks other := by
    intro other different
    rw [tasks, Function.update_of_ne different]
  refine core.of_published_slot active holds same ?_ state ?_ others
  · refine core.control.writes index same.taskCount.ge same.idle same.currentTask same.running
      pendSv (core.active_cases active).1 ?_ ?_ others
    · simp [created]
    · simp [state]
  · have old := (core.slots index).cleared (by simp [created])
    rw [own]
    exact ⟨rfl, rfl, rfl, rfl, old.mask, old.all, old.clearOnExit⟩

/-! ### Starting the scheduler -/

/-- What the two ways to leave `fr_scheduler_start` have in common. -/
theorem StartOutcome.facts
    {kernel after : Kernel} (control : ControlOk kernel)
    (outcome : StartOutcome kernel (some after)) (stopped : kernel.running = false) :
    after.taskCount = kernel.taskCount ∧ ControlOk after ∧
      (∀ index, StateMove (kernel.tasks index).state (after.tasks index).state) ∧
      (∀ index, ∃ state, after.tasks index = { kernel.tasks index with state := state } ∧
        state ≠ .blocked) ∧
      ∀ index, kernel.taskCount ≤ index → after.tasks index = kernel.tasks index := by
  obtain ⟨noCurrent, inactive⟩ := control.stopped stopped
  cases outcome with
  | stopped objects tasks taskCount tickCount currentTask running halted =>
      refine ⟨taskCount, ⟨?_, ?_, ?_, ?_, ?_⟩, ?_, ?_, ?_⟩
      · intro _
        exact ⟨currentTask.trans noCurrent, fun index => by rw [tasks]; exact inactive index⟩
      · intro started
        rw [running] at started
        exact absurd started Bool.false_ne_true
      · intro present
        rw [currentTask, noCurrent] at present
        exact absurd present (by simp)
      · intro current present
        rw [currentTask, noCurrent] at present
        exact absurd present (by simp)
      · intro index state
        rw [tasks] at state
        exact absurd state (inactive index).1
      · intro index
        rw [tasks]
        exact Or.inl rfl
      · intro index
        rw [tasks]
        exact ⟨_, rfl, (inactive index).2⟩
      · intro index _
        rw [tasks]
  | @started first _ started =>
      have ready : ∀ index, first = some index →
          (kernel.tasks index).state = .ready ∧ index < kernel.taskCount := by
        rintro index rfl
        have member := started.selected.1
        exact ⟨by simpa using member.1, member.2⟩
      refine ⟨started.taskCount, control.starts stopped started, ?_, ?_, ?_⟩
      · intro index
        rw [started.tasks]
        split
        · rename_i chosen
          exact Or.inr ⟨Or.inl (ready index chosen).1, Or.inr (Or.inl rfl)⟩
        · exact Or.inl rfl
      · intro index
        rw [started.tasks]
        split
        · exact ⟨.running, rfl, by decide⟩
        · exact ⟨_, rfl, (inactive index).2⟩
      · intro index beyond
        rw [started.tasks, if_neg]
        intro chosen
        have registered := (ready index chosen).2
        omega

/-- The scheduler starts once. -/
theorem schedulerStart_stopped
    {cfg : Config} {cpu : Cpu} {kernel after : Kernel}
    (started : schedulerStart cfg cpu kernel = some after) : kernel.running = false := by
  by_contra running
  simp [schedulerStart, Bool.not_eq_false _ ▸ running] at started

/-- The start of the scheduler. -/
theorem Core.starts
    {cfg : Config} {kernel : Kernel} {memory : Memory}
    (core : Core system)
    (active : system.activeThread = some thread)
    (free : (system.frames thread).reserves = none)
    (started : schedulerStart cfg system.cpu system.kernel = some kernel) :
    Core ({ system with
      kernel := kernel
      memory := memory }.setFrame thread (.inCall call .departed)) := by
  have outcome := schedulerStart_outcome cfg system.cpu system.kernel
  rw [started] at outcome
  have stopped := schedulerStart_stopped started
  obtain ⟨rfl, _⟩ : thread = .boot ∧ system.kernel.running = false := by
    rcases (core.active_cases active).2 with boot | ⟨_, _, runs, _⟩
    · exact boot
    · rw [runs.running] at stopped
      exact absurd stopped.symm Bool.false_ne_true
  obtain ⟨taskCount, control, states, tasks, beyond⟩ := outcome.facts core.control stopped
  have user := core.dormant stopped
  have frameOf : ∀ index, Function.update system.frames .boot (.inCall call .departed)
      (.task index) = .user := by
    intro index
    rw [Function.update_of_ne (by simp)]
    exact user index
  have unreserved : ∀ thread, (system.frames thread).reserves = none := by
    intro thread
    cases thread with
    | boot => exact free
    | task index => rw [user index]; rfl
  have noneAfter : ∀ thread, (Function.update system.frames .boot
      (.inCall call .departed) thread).reserves = none := by
    intro thread
    cases thread with
    | boot => rw [Function.update_self]; rfl
    | task index => rw [frameOf index]; rfl
  exact
    { control := control
      slots := by
        intro index
        dsimp only [System.setFrame]
        obtain ⟨state, same, awake⟩ := tasks index
        have calm : (system.kernel.tasks index).state ≠ .blocked :=
          ((core.control.stopped stopped).2 index).2
        rw [frameOf index, same]
        exact (user index ▸ core.slots index).switched (system.kernel.tasks index).savedSp
          ⟨fun blocked => absurd blocked awake, fun blocked => absurd blocked calm⟩
      unregistered := by
        intro index large
        dsimp only [System.setFrame] at large ⊢
        rw [taskCount] at large
        rw [frameOf index, beyond index large]
        exact ⟨(core.unregistered index large).1, rfl⟩
      states := fun index small =>
        (states index).registered (core.states index (taskCount ▸ small))
      dormant := fun _ => frameOf
      departed := fun _ => ⟨call, Function.update_self Thread.boot _ system.frames⟩
      unmasked := fun current _ _ _ frame => by
        cases (frameOf current).symm.trans frame
      reserved := fun other index holds => by
        cases holds.symm.trans (noneAfter other)
      created := by
        intro index created
        obtain ⟨other, holds⟩ := core.created index ((states index).created_iff.mp created)
        cases (unreserved other).symm.trans holds
      exclusive := fun first _ index holds => by
        cases holds.symm.trans (noneAfter first)
      fresh := fun index _ => frameOf index }

/-! ### All steps -/

/-- Every step of a call keeps the invariant: one case for each effect. -/
theorem Core.advance
    {cfg : Config} {result : StepResult}
    (core : Core system)
    (active : system.activeThread = some thread)
    (inCall : system.frames thread = .inCall call point)
    (stepped : call.step cfg system.cpu system.kernel system.memory thread.slot point =
      some result) :
    Core ({ system with
      kernel := result.kernel
      memory := result.memory }.setFrame thread (result.outcome.frame call)) := by
  obtain ⟨kernel, memory, outcome⟩ := result
  cases reserves : (system.frames thread).reserves with
  | some index =>
      -- Only the two later parts of a task creation run here.
      have holds := reserves
      rw [inCall] at holds
      obtain ⟨outTask, config, rfl⟩ := Call.step_creating holds stepped
      cases point with
      | reserved position =>
          obtain ⟨rfl, rfl, rfl⟩ := StepResult.mk.inj (Option.some.inj stepped)
          exact core.builds active inCall
      | built position initialSp =>
          obtain ⟨rfl, rfl, rfl⟩ := StepResult.mk.inj (Option.some.inj stepped)
          exact core.publishes active inCall
      | _ => simp [Frame.reserves] at holds
  | none =>
      have effect := (Call.step_advance stepped).effect
      dsimp only at effect
      cases effect with
      | passes control pendSv tasks next =>
          exact core.passes active inCall reserves control pendSv tasks next
      | resets present same =>
          subst same
          exact core.resets active reserves present
      | wakes _ _ woken => exact core.wakes active reserves woken
      | waits runs wait _ timing blocked =>
          subst blocked
          exact core.waits active inCall reserves runs wait timing
      | reserves _ _ reserved => exact core.reserves active reserves reserved
      | builds started _ =>
          rw [inCall, started] at reserves
          exact absurd reserves (by simp [Frame.reserves])
      | publishes started _ =>
          rw [inCall, started] at reserves
          exact absurd reserves (by simp [Frame.reserves])
      | starts _ started => exact core.starts active reserves started

end Effects

/-- Every step of the system preserves the core invariant. -/
theorem Core.step
    {cfg : Config} {system after : System} {action : Action} {events : List Event}
    (core : Core system) (step : system.step cfg action = some (after, events)) :
    Core after := by
  cases System.stepped step with
  | sysTick => exact core.sysTick
  | pendSv live due => exact core.pendSv _ live due
  | invoke active user => exact core.invoke active user
  | advance active inCall stepped => exact core.advance active inCall stepped
  | user active user => exact core.user active user

/-- The core invariant holds in every state that any run reaches. -/
theorem Core.of_run
    {cfg : Config} {allowed : System → Action → Prop} {events : List Event} {system : System}
    (run : (forge cfg).Run allowed events system) : Core system :=
  run.stateInvariant (motive := Core) Core.initial
    fun _ _ _ _ core _ stepped => core.step stepped

/-! ## The current task -/

/-- Once the scheduler runs no call changes the current task. -/
theorem Effect.current
    {cfg : Config} {cpu : Cpu} {before after : Kernel} {self : Nat} {call : Call} {point : Point}
    {outcome : Outcome}
    (effect : Effect cfg cpu before self call point after outcome)
    (running : before.running = true) :
    after.currentTask = before.currentTask ∧ after.running = true := by
  cases effect with
  | passes control => exact ⟨control.currentTask, control.running.trans running⟩
  | resets _ same =>
      subst same
      exact ⟨rfl, running⟩
  | wakes _ _ woken => exact ⟨woken.currentTask, woken.running.trans running⟩
  | waits _ _ _ _ blocked =>
      subst blocked
      exact ⟨rfl, running⟩
  | reserves _ _ reserved =>
      obtain ⟨_, rfl⟩ := taskCreateReserve_some reserved
      exact ⟨rfl, running⟩
  | @builds index _ built =>
      obtain ⟨control, _⟩ := taskCreateBuild_facts cfg before index
      rw [built]
      exact ⟨control.currentTask, control.running.trans running⟩
  | @publishes index initialSp _ _ published =>
      obtain ⟨control, _⟩ := taskCreatePublish_facts before index initialSp
      rw [published]
      exact ⟨control.currentTask, control.running.trans running⟩
  | starts _ started =>
      rw [schedulerStart_stopped started] at running
      cases running

/-- A task is current only after the start. -/
theorem Core.running_of_current
    {system : System} (core : Core system) {current : TaskRef}
    (present : system.kernel.currentTask = some current) : system.kernel.running = true := by
  by_contra stopped
  rw [Bool.not_eq_true] at stopped
  rw [(core.control.stopped stopped).1] at present
  cases present

/-- Once the scheduler runs only a switch changes the current task. -/
theorem Core.step_control
    {cfg : Config} {system after : System} {action : Action} {events : List Event}
    (core : Core system) (running : system.kernel.running = true)
    (step : system.step cfg action = some (after, events))
    (noSwitch : ∀ psp, action ≠ .pendSv psp) :
    after.kernel.currentTask = system.kernel.currentTask ∧ after.kernel.running = true := by
  cases System.stepped step with
  | sysTick =>
      have woken := (sysTickHandler_expired core.waitsNamed running).1.woken
      exact ⟨woken.currentTask, woken.running.trans running⟩
  | @pendSv psp => exact absurd rfl (noSwitch psp)
  | invoke => exact ⟨rfl, running⟩
  | advance _ _ stepped => exact (Call.step_advance stepped).effect.current running
  | user => exact ⟨rfl, running⟩

end ForgeKernel
