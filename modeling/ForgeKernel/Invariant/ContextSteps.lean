import ForgeKernel.Invariant.Contexts

/-!
# Saved contexts across the steps of the kernel

No call and no tick touches the context of a task that does not run, except that `fr_task_create`
builds the first context of a new one and `fr_scheduler_start` that of idle.
-/

namespace ForgeKernel

open WordMemory

namespace ContextsOk

variable {cfg : Config} {events : List BoardEvent} {system after : System} {thread : Thread}
  {point : Point} {result : StepResult}

/-- Steps that keep the frame and stack memory keep the contexts. -/
theorem framed
    (ok : ContextsOk cfg events system) (core : Core after) (stacksOk : StacksOk cfg after)
    (framed : system.kernel.Framed after.kernel)
    (stackMemory : after.kernel.stackMemory = system.kernel.stackMemory)
    (frames : system.BuildsNothing after) :
    ContextsOk cfg events after :=
  ok.quiet core stacksOk framed.toSameSlots framed.idleTask framed.running framed.currentTask
    (fun unhalted => framed.halted ▸ unhalted)
    (fun _ _ _ address _ => congrFun stackMemory address) frames

/-- A step of a call other than `fr_task_create` completes no stack. -/
theorem built_of_advance
    {call : Call} {outcome : Outcome} {frames : Thread → Frame} {thread other : Thread}
    {outTask : Bool} {config : Option TaskConfig} {index : Nat} {initialSp : Word}
    (different : ∀ outTask config, call ≠ .taskCreate outTask config)
    (inCall : Function.update frames thread (outcome.frame call) other =
      .inCall (.taskCreate outTask config) (.built index initialSp)) :
    frames other = .inCall (.taskCreate outTask config) (.built index initialSp) := by
  by_cases own : other = thread
  · rw [own, Function.update_self] at inCall
    cases outcome with
    | goto next => exact absurd (Frame.inCall.inj inCall).1 (different outTask config)
    | reply value => cases inCall
  · rwa [Function.update_of_ne own] at inCall

/-! ## Task creation -/

/-- A new slot is not dispatched before it is published. -/
theorem reserves
    {reserved : Kernel} {config : TaskConfig} (ok : ContextsOk cfg events system)
    (core : Core after) (stacksOk : StacksOk cfg after)
    (reserves : taskCreateReserve cfg system.kernel config = some reserved)
    (kernel : after.kernel = reserved) (live : system.kernel.halted = none)
    (frames : system.BuildsNothing after) :
    ContextsOk cfg events after := by
  obtain ⟨_, rfl⟩ := taskCreateReserve_some reserves
  have tasks : ∀ index, index ≠ system.kernel.taskCount →
      after.kernel.tasks index = system.kernel.tasks index := by
    intro index other
    rw [kernel]
    exact Kernel.setTask_tasks_of_ne _ _ other
  have taskCount : after.kernel.taskCount = system.kernel.taskCount + 1 := by rw [kernel]
  have own : (after.kernel.tasks system.kernel.taskCount).state = .created := by
    rw [kernel]
    change ((system.kernel.setTask _ _).tasks _).state = _
    rw [Kernel.setTask_tasks_self]
    rfl
  have idleTask : after.kernel.idleTask = system.kernel.idleTask := by rw [kernel]; rfl
  have running : after.kernel.running = system.kernel.running := by rw [kernel]; rfl
  have currentTask : after.kernel.currentTask = system.kernel.currentTask := by rw [kernel]; rfl
  have stackMemory : after.kernel.stackMemory = system.kernel.stackMemory := by rw [kernel]; rfl
  have earlier : ∀ ref, after.kernel.Dispatchable ref →
      system.kernel.Dispatchable ref ∧ after.kernel.taskAt ref = system.kernel.taskAt ref := by
    intro ref dispatchable
    cases ref with
    | idle => exact ⟨running.symm.trans dispatchable, idleTask⟩
    | user index =>
        obtain ⟨small, published⟩ := dispatchable
        have other : index ≠ system.kernel.taskCount := fun same => published (same ▸ own)
        rw [taskCount] at small
        exact ⟨⟨by omega, tasks index other ▸ published⟩, tasks index other⟩
  refine ⟨core, stacksOk, ?_, ?_, ?_, ?_⟩
  · rw [running, idleTask]
    exact ok.idle
  · intro _ ref dispatchable other
    obtain ⟨before, same⟩ := earlier ref dispatchable
    rw [same, stackMemory]
    exact ok.held live ref before (currentTask ▸ other)
  · intro _ thread outTask config index initialSp inCall
    have built := frames thread outTask config index initialSp inCall
    have small := (ok.core.reserved thread index (by rw [built]; rfl)).1
    rw [tasks index small.ne, stackMemory]
    exact ok.built live thread outTask config index initialSp built
  · intro ref preempted
    have before := ok.fresh ref preempted
    cases ref with
    | idle => exact running.trans before
    | user index =>
        obtain ⟨small, published⟩ := before
        refine ⟨by omega, ?_⟩
        rw [tasks index small.ne]
        exact published

/-- Building the stack of a reserved slot spares every other stack. -/
theorem builds
    {outTask : Bool} {config : Option TaskConfig} {index : Nat}
    (ok : ContextsOk cfg events system) (apart : system.kernel.StacksApart cfg)
    (core : Core after) (stacksOk : StacksOk cfg after) (live : system.kernel.halted = none)
    (inCall : system.frames thread = .inCall (.taskCreate outTask config) (.reserved index))
    (kernel : after.kernel = (taskCreateBuild cfg system.kernel index).1)
    (frames : ∀ other, other ≠ thread → after.frames other = system.frames other)
    (own : ∃ initialSp, after.frames thread =
      .inCall (.taskCreate outTask config) (.built index initialSp)) :
    ContextsOk cfg events after := by
  obtain ⟨small, created⟩ := ok.core.reserved thread index (by rw [inCall]; rfl)
  have geometry := (ok.stacksOk.kernel.registered index small).geometry
  rw [taskCreateBuild_eq geometry] at kernel
  have stackMemory : after.kernel.stackMemory =
      (system.kernel.tasks index).freshStack cfg system.kernel.stackMemory := by
    rw [kernel]
    rfl
  have tasks : after.kernel.tasks = system.kernel.tasks := by rw [kernel]
  have spared : ∀ ref ∈ system.kernel.stackOwners, ref ≠ .user index → ∀ address,
      (system.kernel.stackTask cfg ref).OnStack address →
      after.kernel.stackMemory address = system.kernel.stackMemory address := by
    intro ref member other address inside
    have outside := apart.not_onStack member (Kernel.user_owner small) other inside
    rw [stackMemory]
    exact geometry.freshStack_of_apart _ (Task.outside_of_not_onStack outside)
  have notCreated : ∀ ref, system.kernel.Dispatchable ref → ref ≠ .user index := by
    rintro ref dispatchable rfl
    exact dispatchable.2 created
  have taskAt : ∀ ref, after.kernel.taskAt ref = system.kernel.taskAt ref := by
    intro ref
    rw [kernel]
    cases ref <;> rfl
  have dispatchable : ∀ ref, after.kernel.Dispatchable ref ↔ system.kernel.Dispatchable ref := by
    intro ref
    rw [kernel]
    cases ref <;> exact Iff.rfl
  refine ⟨core, stacksOk, ?_, ?_, ?_, ?_⟩
  · rw [kernel]
    exact ok.idle
  · intro _ ref published other
    have before := (dispatchable ref).mp published
    rw [kernel] at other
    rw [taskAt]
    exact (ok.held live ref before other).kept (.refl _) fun address inside =>
      spared ref before.owner (notCreated ref before) address
        ((ok.onStack_iff before address).mpr inside)
  · intro _ other otherOut otherConfig slot initialSp built
    by_cases same : other = thread
    · obtain ⟨_, mine⟩ := own
      rw [same, mine] at built
      obtain ⟨_, rfl, _⟩ := Frame.inCall.inj built
      rw [tasks, stackMemory]
      exact portTaskStackInit_firstContext _
    · rw [frames other same] at built
      obtain ⟨registered, _⟩ := ok.core.reserved other slot (by rw [built]; rfl)
      have different : TaskRef.user slot ≠ .user index := by
        rintro ⟨⟩
        exact same (ok.core.exclusive other thread index (by rw [built]; rfl)
          (by rw [inCall]; rfl))
      have place := (ok.stacksOk.kernel.registered slot registered).geometry
      rw [tasks, savedContext_congr fun i inside =>
        spared _ (Kernel.user_owner registered) different _ (place.initial_onStack inside)]
      exact ok.built live other otherOut otherConfig slot initialSp built
  · intro ref preempted
    exact (dispatchable ref).mpr (ok.fresh ref preempted)

/-- A published task holds its first context. -/
theorem publishes
    {outTask : Bool} {config : Option TaskConfig} {index : Nat} {initialSp : Word}
    (ok : ContextsOk cfg events system) (core : Core after) (stacksOk : StacksOk cfg after)
    (live : system.kernel.halted = none)
    (inCall : system.frames thread =
      .inCall (.taskCreate outTask config) (.built index initialSp))
    (kernel : after.kernel = taskCreatePublish system.kernel index initialSp)
    (frames : ∀ other, other ≠ thread → after.frames other = system.frames other)
    (own : after.frames thread = .user) : ContextsOk cfg events after := by
  obtain ⟨small, created⟩ := ok.core.reserved thread index (by rw [inCall]; rfl)
  have geometry := (ok.stacksOk.kernel.registered index small).geometry
  have initial := ok.stacksOk.built inCall
  have first := ok.built live thread outTask config index initialSp inCall
  rw [initial, taskCreatePublish_eq _ _ (schedulerSavedSpValid_ne_zero geometry.initialSp_valid)]
    at kernel
  have others : ∀ slot, slot ≠ index → after.kernel.tasks slot = system.kernel.tasks slot := by
    intro slot different
    rw [kernel]
    exact Kernel.setTask_tasks_of_ne _ _ different
  have mine : after.kernel.tasks index =
      (system.kernel.tasks index).publish (system.kernel.tasks index).initialSp := by
    rw [kernel]
    exact Kernel.setTask_tasks_self _ _ _
  have idleTask : after.kernel.idleTask = system.kernel.idleTask := by rw [kernel]; rfl
  have running : after.kernel.running = system.kernel.running := by rw [kernel]; rfl
  have currentTask : after.kernel.currentTask = system.kernel.currentTask := by rw [kernel]; rfl
  have taskCount : after.kernel.taskCount = system.kernel.taskCount := by rw [kernel]; rfl
  have stackMemory : after.kernel.stackMemory = system.kernel.stackMemory := by rw [kernel]; rfl
  refine ⟨core, stacksOk, ?_, ?_, ?_, ?_⟩
  · rw [running, idleTask]
    exact ok.idle
  · intro _ ref dispatchable other
    rw [currentTask] at other
    rw [stackMemory]
    cases ref with
    | idle =>
        change after.kernel.idleTask.Holds cfg _ _
        rw [idleTask]
        exact ok.held live .idle (running.symm.trans dispatchable) other
    | user slot =>
        change (after.kernel.tasks slot).Holds cfg _ _
        by_cases same : slot = index
        · subst same
          have never : lastPreempted (.user slot) events = none := by
            by_contra preempted
            exact (ok.fresh _ preempted).2 created
          obtain ⟨start, _, room⟩ := geometry.initialSp_toNat
          rw [mine, never]
          refine ⟨?_, ?_, first⟩
          · rw [BitVec.le_def]
            change (system.kernel.tasks slot).stackBase.toNat ≤
              (system.kernel.tasks slot).initialSp.toNat
            omega
          · change (system.kernel.tasks slot).initialSp.toNat + 64 ≤
              (system.kernel.tasks slot).stackTop.toNat
            omega
        · rw [others slot same]
          exact ok.held live (.user slot)
            ⟨taskCount ▸ dispatchable.1, others slot same ▸ dispatchable.2⟩ other
  · intro _ other otherOut otherConfig slot otherSp built
    by_cases same : other = thread
    · rw [same, own] at built
      cases built
    · rw [frames other same] at built
      have different : slot ≠ index := by
        rintro rfl
        exact same (ok.core.exclusive other thread slot (by rw [built]; rfl)
          (by rw [inCall]; rfl))
      rw [others slot different, stackMemory]
      exact ok.built live other otherOut otherConfig slot otherSp built
  · intro ref preempted
    have before := ok.fresh ref preempted
    cases ref with
    | idle => exact running.trans before
    | user slot =>
        refine ⟨taskCount.symm ▸ before.1, ?_⟩
        rw [others slot fun same => before.2 (same ▸ created)]
        exact before.2

/-! ## The first dispatch -/

end ContextsOk

/-- Starting the first task changes states only. -/
theorem schedulerStartFirst_taskAt (kernel : Kernel) (first ref : TaskRef) :
    ∃ state, (schedulerStartFirst kernel first).taskAt ref =
      { kernel.taskAt ref with state := state } := by
  have written : (schedulerStartFirst kernel first).taskAt ref =
      (kernel.setTaskAt first { kernel.taskAt first with state := .running }).taskAt ref := by
    cases ref <;> cases first <;> rfl
  rw [written, Kernel.setTaskAt_taskAt]
  split
  · rename_i same
    exact ⟨.running, by rw [same]⟩
  · exact ⟨_, rfl⟩

/-- What `fr_scheduler_start` leaves behind, with its `svc` masked or not. -/
structure StartedFrom (cfg : Config) (before after : Kernel) : Prop where
  running : after.running = true
  taskCount : after.taskCount = before.taskCount
  stackMemory : after.stackMemory = (portTaskStackInit cfg before.stackMemory
    (schedulerIdleTask cfg).stackTop (schedulerIdleTask cfg).entry
    (schedulerIdleTask cfg).argument).1
  idleTask : ∃ state, after.idleTask = { schedulerIdleTask cfg with state := state }
  tasks : ∀ index, ∃ state, after.tasks index = { before.tasks index with state := state }

theorem schedulerStartFirst_kept (kernel : Kernel) (first : TaskRef) :
    (schedulerStartFirst kernel first).taskCount = kernel.taskCount ∧
      (schedulerStartFirst kernel first).stackMemory = kernel.stackMemory := by
  cases first <;> exact ⟨rfl, rfl⟩

/-- The section of `fr_scheduler_start` up to its `svc`. -/
theorem schedulerStartFirst_startedFrom (cfg : Config) (kernel : Kernel) (first : TaskRef) :
    StartedFrom cfg kernel (schedulerStartFirst (schedulerInitializeIdle cfg kernel) first) := by
  obtain ⟨taskCount, stackMemory⟩ :=
    schedulerStartFirst_kept (schedulerInitializeIdle cfg kernel) first
  obtain ⟨idleState, idleTask⟩ :=
    schedulerStartFirst_taskAt (schedulerInitializeIdle cfg kernel) first .idle
  have tasks := fun index =>
    schedulerStartFirst_taskAt (schedulerInitializeIdle cfg kernel) first (.user index)
  rw [schedulerInitializeIdle_eq] at *
  exact ⟨rfl, taskCount, stackMemory, ⟨idleState, idleTask⟩, tasks⟩

/-- `fr_scheduler_start` as a whole. -/
theorem Kernel.StacksOk.startedFrom
    {cfg : Config} {cpu : Cpu} {kernel after : Kernel} (stacksOk : kernel.StacksOk cfg)
    (live : kernel.halted = none) (started : schedulerStart cfg cpu kernel = some after) :
    StartedFrom cfg kernel after := by
  have same := stacksOk.schedulerStart_eq (schedulerStart_stopped started) live cpu
  dsimp only at same
  rw [started] at same
  have facts := schedulerStartFirst_startedFrom cfg kernel
    (taskOrIdle (schedulerSelectHighestReady (schedulerInitializeIdle cfg kernel)))
  obtain rfl := Option.some.inj same
  split
  · exact ⟨facts.running, facts.taskCount, facts.stackMemory, facts.idleTask, facts.tasks⟩
  · exact facts

namespace ContextsOk

/-- Every task that the first dispatch may choose holds its first context. -/
theorem holds_of_start
    {kernel : Kernel} {ref : TaskRef} (ok : ContextsOk cfg events system)
    (apart : system.kernel.StacksApart cfg) (stopped : system.kernel.running = false)
    (live : system.kernel.halted = none) (started : StartedFrom cfg system.kernel kernel)
    (created : ∀ index, (kernel.tasks index).state = .created ↔
      (system.kernel.tasks index).state = .created)
    (dispatchable : kernel.Dispatchable ref) :
    (kernel.taskAt ref).Holds cfg kernel.stackMemory (lastPreempted ref events) := by
  have geometry := Task.StackOk.idle cfg
  obtain ⟨start, enough, room⟩ := geometry.initialSp_toNat
  cases ref with
  | idle =>
      have never : lastPreempted .idle events = none := by
        by_contra preempted
        have running : system.kernel.running = true := ok.fresh _ preempted
        rw [stopped] at running
        cases running
      obtain ⟨state, same⟩ := started.idleTask
      change kernel.idleTask.Holds cfg _ _
      rw [never, same, started.stackMemory]
      refine ⟨?_, ?_, portTaskStackInit_firstContext _⟩
      · rw [BitVec.le_def]
        change (schedulerIdleTask cfg).stackBase.toNat ≤ (schedulerIdleTask cfg).initialSp.toNat
        omega
      · change (schedulerIdleTask cfg).initialSp.toNat + 64 ≤
          (schedulerIdleTask cfg).stackTop.toNat
        omega
  | user index =>
      obtain ⟨small, published⟩ := dispatchable
      rw [started.taskCount] at small
      have before : system.kernel.Dispatchable (.user index) :=
        ⟨small, fun early => published ((created index).mpr early)⟩
      have absent : system.kernel.currentTask ≠ some (.user index) := by
        rw [(ok.core.control.stopped stopped).1]
        exact (Option.some_ne_none _).symm
      obtain ⟨state, same⟩ := started.tasks index
      refine (ok.held live _ before absent).kept ?_ ?_
      · change (system.kernel.tasks index).SameStack (kernel.tasks index)
        rw [same]
        exact ⟨rfl, rfl, rfl, rfl, rfl, rfl, rfl, rfl⟩
      · intro address inside
        have idleOwner : TaskRef.idle ∈ system.kernel.stackOwners := List.mem_cons_self
        have outside : ¬(schedulerIdleTask cfg).OnStack address :=
          apart.not_onStack before.owner idleOwner TaskRef.noConfusion inside
        have beyond := Task.outside_of_not_onStack outside
        rw [BitVec.lt_def, BitVec.le_def] at beyond
        rw [started.stackMemory]
        exact portTaskStackInit_of_apart cfg enough (by omega)

/-- The first dispatch keeps the contexts. -/
theorem starts
    (ok : ContextsOk cfg events system) (apart : system.kernel.StacksApart cfg)
    (core : Core after) (stacksOk : StacksOk cfg after)
    (stopped : system.kernel.running = false) (live : system.kernel.halted = none)
    (started : StartedFrom cfg system.kernel after.kernel)
    (created : ∀ index, (after.kernel.tasks index).state = .created ↔
      (system.kernel.tasks index).state = .created)
    (frames : ∀ index, after.frames (.task index) = system.frames (.task index)) :
    ContextsOk cfg events after where
  core := core
  stacksOk := stacksOk
  idle _ := by
    obtain ⟨state, same⟩ := started.idleTask
    exact ⟨_, state, same⟩
  held _ _ dispatchable _ := ok.holds_of_start apart stopped live started created dispatchable
  built := by
    intro _ thread outTask config index initialSp inCall
    cases thread with
    | boot =>
        obtain ⟨call, departed⟩ := core.departed started.running
        rw [departed] at inCall
        cases inCall
    | task slot =>
        rw [frames, ok.core.dormant stopped] at inCall
        cases inCall
  fresh ref preempted := by
    have before := ok.fresh ref preempted
    cases ref with
    | idle => exact started.running
    | user index =>
        exact ⟨started.taskCount.symm ▸ before.1, fun early => before.2 ((created index).mp early)⟩

end ContextsOk

/-! ## All steps but switches -/

/-- A step of the kernel: it keeps the contexts, and if it starts the scheduler every task holds
the context that the first dispatch needs. -/
structure ContextStep (cfg : Config) (events : List BoardEvent) (system after : System) : Prop where
  ok : ContextsOk cfg events after
  first : system.kernel.running = false → after.kernel.running = true →
    ∀ ref, after.kernel.Dispatchable ref →
      (after.kernel.taskAt ref).Holds cfg after.kernel.stackMemory (lastPreempted ref events)

namespace ContextStep

variable {cfg : Config} {events : List BoardEvent} {system after : System} {thread : Thread}
  {point : Point} {result : StepResult}

/-- A step that does not start the scheduler has only to keep the contexts. -/
theorem unstarted
    (ok : ContextsOk cfg events after) (running : after.kernel.running = system.kernel.running) :
    ContextStep cfg events system after where
  ok := ok
  first stopped started := by
    rw [running, stopped] at started
    cases started

/-- The parts of `fr_task_create`. -/
theorem taskCreate
    {outTask : Bool} {config : Option TaskConfig} (ok : ContextsOk cfg events system)
    (apart : system.kernel.StacksApart cfg) (active : system.activeThread = some thread)
    (inCall : system.frames thread = .inCall (.taskCreate outTask config) point)
    (stepped : taskCreateStep cfg system.kernel system.memory outTask config point =
      some result) :
    ContextStep cfg events system ({ system with
      kernel := result.kernel
      memory := result.memory }.setFrame thread
        (result.outcome.frame (.taskCreate outTask config))) := by
  have core := ok.core.advance active inCall stepped
  have stacksOk := ok.stacksOk.advance ok.core active inCall stepped
  have live := (ok.core.active_cases active).1
  have others : ∀ frame other, other ≠ thread →
      Function.update system.frames thread frame other = system.frames other :=
    fun frame _ different => Function.update_of_ne different frame system.frames
  cases taskCreateStep_cases stepped with
  | refuses =>
      refine unstarted (ok.framed core stacksOk (.of_tasks rfl rfl rfl rfl rfl rfl rfl) rfl ?_) rfl
      intro other _ _ _ _ built
      by_cases own : other = thread
      · rw [own] at built
        exact absurd ((Function.update_self thread _ system.frames).symm.trans built)
          Frame.noConfusion
      · exact (others _ other own).symm.trans built
  | @reserves _ after _ reserved =>
      obtain ⟨_, same⟩ := taskCreateReserve_some reserved
      refine unstarted (ok.reserves core stacksOk reserved rfl live ?_) ?_
      · intro other _ _ _ _ built
        by_cases own : other = thread
        · rw [own] at built
          have mine := (Function.update_self thread _ system.frames).symm.trans built
          cases (Frame.inCall.inj mine).2
        · exact (others _ other own).symm.trans built
      · change after.running = system.kernel.running
        rw [same]
        rfl
  | @builds _ index =>
      refine unstarted (ok.builds apart core stacksOk live inCall rfl (others _)
        ⟨_, Function.update_self thread _ system.frames⟩) ?_
      exact (taskCreateBuild_facts cfg system.kernel index).1.running
  | @publishes _ index initialSp =>
      refine unstarted (ok.publishes core stacksOk live inCall rfl (others _)
        (Function.update_self thread _ system.frames)) ?_
      exact (taskCreatePublish_facts system.kernel index initialSp).1.running

/-- `fr_task_yield` keeps the contexts. -/
theorem taskYield
    (ok : ContextsOk cfg events system) (active : system.activeThread = some thread)
    (inCall : system.frames thread = .inCall .taskYield point)
    (stepped : Call.taskYield.step cfg system.cpu system.kernel system.memory thread.slot point =
      some result) :
    ContextStep cfg events system ({ system with
      kernel := result.kernel
      memory := result.memory }.setFrame thread (result.outcome.frame .taskYield)) := by
  have live := (ok.core.active_cases active).1
  have quiet : result.kernel.idleTask = system.kernel.idleTask ∧
      result.kernel.running = system.kernel.running ∧
      result.kernel.currentTask = system.kernel.currentTask ∧
      result.kernel.stackMemory = system.kernel.stackMemory := by
    cases point with
    | entry | svc =>
        simp only [Call.step, taskYieldStep] at stepped
        split at stepped
        · obtain rfl := Option.some.inj stepped
          exact ⟨rfl, rfl, rfl, rfl⟩
        · obtain rfl := Option.some.inj stepped
          exact ⟨rfl, rfl, rfl, rfl⟩
    | _ => cases stepped
  obtain ⟨idleTask, running, currentTask, stackMemory⟩ := quiet
  have slots := ok.core.advance_sameSlots (fun _ _ => Call.noConfusion) stepped
  refine unstarted (ok.quiet (ok.core.advance active inCall stepped)
    (ok.stacksOk.advance ok.core active inCall stepped) slots idleTask running currentTask
    (fun _ => live) (fun _ _ _ address _ => congrFun stackMemory address) ?_) running
  intro _ _ _ _ _ built
  exact ContextsOk.built_of_advance (fun _ _ => Call.noConfusion) built

/-- At the start every task holds its first context. -/
theorem schedulerStart
    (ok : ContextsOk cfg events system) (apart : system.kernel.StacksApart cfg)
    (active : system.activeThread = some thread)
    (inCall : system.frames thread = .inCall .schedulerStart point)
    (stepped : Call.schedulerStart.step cfg system.cpu system.kernel system.memory thread.slot
      point = some result) :
    ContextStep cfg events system ({ system with
      kernel := result.kernel
      memory := result.memory }.setFrame thread (result.outcome.frame .schedulerStart)) := by
  obtain ⟨live, position⟩ := ok.core.active_cases active
  have core := ok.core.advance active inCall stepped
  have stacksOk := ok.stacksOk.advance ok.core active inCall stepped
  have slots := ok.core.advance_sameSlots (fun _ _ => Call.noConfusion) stepped
  cases point with
  | entry =>
      simp only [Call.step, schedulerStartStep] at stepped
      split at stepped
      · rename_i kernel called
        obtain rfl := Option.some.inj stepped
        have stopped := schedulerStart_stopped called
        have started := ok.stacksOk.kernel.startedFrom live called
        have created : ∀ index, (kernel.tasks index).state = .created ↔
            (system.kernel.tasks index).state = .created :=
          fun index => (slots.states index).created_iff
        refine ⟨ok.starts apart core stacksOk stopped live started created ?_, ?_⟩
        · intro index
          rcases position with ⟨rfl, _⟩ | ⟨_, _, runs, _⟩
          · have other : Thread.task index ≠ .boot := Thread.noConfusion
            exact Function.update_of_ne other (Frame.inCall .schedulerStart .departed) system.frames
          · rw [runs.running] at stopped
            cases stopped
        · exact fun _ _ ref dispatchable =>
            ok.holds_of_start apart stopped live started created dispatchable
      · obtain rfl := Option.some.inj stepped
        refine unstarted (ok.framed core stacksOk (.of_tasks rfl rfl rfl rfl rfl rfl rfl) rfl ?_)
          rfl
        intro _ _ _ _ _ built
        exact ContextsOk.built_of_advance (fun _ _ => Call.noConfusion) built
  | _ => cases stepped

/-- Every step of a call keeps the contexts. -/
theorem advance
    {call : Call} (ok : ContextsOk cfg events system) (apart : system.kernel.StacksApart cfg)
    (active : system.activeThread = some thread)
    (inCall : system.frames thread = .inCall call point)
    (stepped : call.step cfg system.cpu system.kernel system.memory thread.slot point =
      some result) :
    ContextStep cfg events system ({ system with
      kernel := result.kernel
      memory := result.memory }.setFrame thread (result.outcome.frame call)) := by
  cases plain : call.isPlain with
  | true =>
      have updates := Call.step_updates plain stepped
      refine unstarted (ok.framed (ok.core.advance active inCall stepped)
        (ok.stacksOk.advance ok.core active inCall stepped) updates.framed updates.stackMemory ?_)
        updates.framed.running
      intro _ _ _ _ _ built
      refine ContextsOk.built_of_advance ?_ built
      rintro outTask config rfl
      cases plain
  | false =>
      cases call with
      | taskCreate => exact taskCreate ok apart active inCall stepped
      | taskYield => exact taskYield ok active inCall stepped
      | schedulerStart => exact schedulerStart ok apart active inCall stepped
      | _ => cases plain

/-- Every step but a switch and a store to the stacks. -/
theorem of_step
    {action : Action} {emitted : List Event} (ok : ContextsOk cfg events system)
    (apart : system.kernel.StacksApart cfg) (step : system.step cfg action = some (after, emitted))
    (noSwitch : ∀ psp, action ≠ .pendSv psp)
    (noStore : ∀ address value, action ≠ .storeWord address value) :
    ContextStep cfg events system after := by
  have core := ok.core.step step
  have stacksOk := ok.stacksOk.step ok.core step
  cases System.stepped step with
  | sysTick =>
      have ticked : system.kernel.Framed system.kernel.ticked :=
        .of_tasks rfl rfl rfl rfl rfl rfl rfl
      have updates := sysTickHandler_updates system.kernel
      have framed := ticked.trans updates.framed
      exact unstarted (ok.framed core stacksOk framed updates.stackMemory
        fun _ _ _ _ _ built => built) framed.running
  | @pendSv psp => exact absurd rfl (noSwitch psp)
  | @invoke thread call =>
      refine unstarted (ok.framed core stacksOk (.of_tasks rfl rfl rfl rfl rfl rfl rfl) rfl ?_) rfl
      intro other outTask config index initialSp built
      by_cases own : other = thread
      · rw [own] at built
        have mine := (Function.update_self thread _ system.frames).symm.trans built
        cases (Frame.inCall.inj mine).2
      · exact (Function.update_of_ne own _ system.frames).symm.trans built
  | advance active inCall stepped => exact advance ok apart active inCall stepped
  | user _ _ _ _ words =>
      have stackMemory := words.resolve_right fun ⟨address, value, stores⟩ =>
        noStore address value stores
      exact unstarted (ok.framed core stacksOk (.of_tasks rfl rfl rfl rfl rfl rfl rfl) stackMemory
        fun _ _ _ _ _ built => built) rfl

end ContextStep

end ForgeKernel
