import ForgeKernel.Invariant.Stacks
import ForgeKernel.Invariant.Flags
import ForgeKernel.Invariant.Expiry
import ForgeKernel.Property.Preemption

/-!
# Runtime self-check

`fr_kernel_check_invariants` scans the registry for identifiers, priorities, stacks, saved stack
pointers, wait fields and the current task.  In a run that creates every task before the start a
task that calls it gets no alarm; in any other run an unfinished creation raises exactly two.
-/

namespace ForgeKernel

open Inheritance Machines Scans

/-! ## Priorities -/

/-- No effective priority exceeds the configured maximum. -/
def PrioritiesLe (cfg : Config) (kernel : Kernel) : Prop :=
  ∀ index, kernel.priorityOf index ≤ cfg.maxTaskPriority

theorem PrioritiesLe.lowered
    {cfg : Config} {before after : Kernel} (bounded : PrioritiesLe cfg before)
    (lower : ∀ index, after.priorityOf index ≤ before.priorityOf index) :
    PrioritiesLe cfg after :=
  fun index => (lower index).trans (bounded index)

/-- Recomputing never raises a priority, and a donated priority is one that a task has. -/
theorem PrioritiesLe.changed
    {cfg : Config} {before after : Kernel} (bounded : PrioritiesLe cfg before)
    (ok : InheritanceOk before) (stacksOk : after.StacksOk cfg)
    (change : MutexChange cfg before after) : PrioritiesLe cfg after := by
  cases change with
  | same view => exact bounded.lowered fun index => (congrFun view.priorities index).le
  | @reserves config _ _ reserved =>
      intro index
      unfold Kernel.priorityOf
      by_cases new : index = before.taskCount
      · have small : before.taskCount < after.taskCount := by
          obtain ⟨_, rfl⟩ := taskCreateReserve_some reserved
          exact Nat.lt_succ_self _
        have base := (stacksOk.registered before.taskCount small).base
        rw [taskCreateReserve_own reserved] at base
        rw [new, taskCreateReserve_own reserved]
        exact base
      · rw [taskCreateReserve_others reserved new]
        exact bounded index
  | stores => exact bounded
  | @locks index current owner ticks trace =>
      refine donate_le (fun other => ?_) (bounded current)
      rw [Kernel.blockTask_priorityOf]
      exact bounded other
  | unlocks relinked _ view =>
      refine bounded.lowered fun index => ?_
      rw [view.priorities]
      exact (relinked.settling ok).lower index

/-- A tick gives no priority above the maximum. -/
theorem PrioritiesLe.sysTick
    {cfg : Config} {kernel : Kernel} (bounded : PrioritiesLe cfg kernel)
    (ok : InheritanceOk kernel) (named : kernel.WaitsNamed) :
    PrioritiesLe cfg (sysTickHandler kernel) := by
  cases running : kernel.running with
  | false =>
      rw [sysTickHandler_stopped running]
      exact bounded
  | true =>
      have passed := ExpiredOver.of_order kernel.ticked.tickCount named.ticked
        (ok.of_view (.of_tasks rfl rfl rfl)) (.refl (List.range kernel.taskCount))
      rw [sysTickHandler_running running]
      exact bounded.lowered passed.settling.lower

/-- Along every run no effective priority exceeds the maximum. -/
theorem PrioritiesLe.of_run
    {cfg : Config} {allowed : System → Action → Prop} {events : List Event} {system : System}
    (run : (forge cfg).Run allowed events system) : PrioritiesLe cfg system.kernel :=
  (run.stateInvariant (motive := fun state => Core state ∧ StacksOk cfg state ∧
      InheritanceOk state.kernel ∧ PrioritiesLe cfg state.kernel)
    ⟨Core.initial, .initial cfg, .initial, fun _ => Nat.zero_le _⟩
    fun _ state next action held _ stepped => by
      obtain ⟨core, stacksOk, ok, bounded⟩ := held
      have stacksAfter := stacksOk.step core stepped
      refine ⟨core.step stepped, stacksAfter, ok.step core stepped, ?_⟩
      by_cases tick : action = .sysTick
      · subst tick
        change state.step cfg .sysTick = _ at stepped
        cases System.stepped stepped with
        | sysTick => exact bounded.sysTick ok core.waitsNamed
        | user _ _ _ plain => exact absurd rfl plain
      · exact bounded.changed ok stacksAfter.kernel (ok.change core stepped tick)).2.2.2

/-! ## Wait fields -/

/-- A task that waits for anything but event flags holds no event-flags request. -/
def Task.RequestOwned (task : Task) : Prop :=
  task.state = .blocked → task.waitReason ≠ .eventFlags →
    task.waitFlagsMask = 0 ∧ task.waitFlagsAll = false ∧ task.waitFlagsClearOnExit = false

theorem Call.prepare_of_other
    {call : Call} {reason : WaitReason} {object : Option ObjectRef} {task : Task}
    (wait : call.wait = some (reason, object)) (other : reason ≠ .eventFlags) :
    call.prepare task = task := by
  cases call with
  | eventFlagsWait flags =>
      cases flags with
      | none => cases wait
      | some index => exact absurd (Prod.mk.inj (Option.some.inj wait)).1.symm other
  | _ => rfl

/-- A task that blocks was running, so its wait fields were clear. -/
theorem Core.advance_requestOwned
    {cfg : Config} {system : System} {index : Nat} {call : Call} {point : Point}
    {result : StepResult} (core : Core system)
    (active : system.activeThread = some (.task index))
    (step : Advance cfg system.cpu system.kernel system.memory index call point result) :
    (result.kernel.tasks index).RequestOwned := by
  have awake := core.active_awake active
  have runs := core.active_current active
  have calm : (system.kernel.tasks index).state ≠ .blocked := by
    rw [awake]
    decide
  have cleared := (core.slots index).cleared calm
  obtain ⟨effect, _, _, _⟩ := step
  generalize result.outcome = outcome at effect
  generalize result.kernel = after at *
  intro blocked other
  cases effect with
  | passes _ _ tasks =>
      rw [tasks] at blocked
      exact absurd blocked calm
  | @resets current _ present same =>
      obtain rfl : index = current := by
        simpa using runs.currentTask.symm.trans present
      rw [same, Kernel.setTask_tasks_self] at blocked
      exact absurd blocked calm
  | wakes _ _ woken =>
      rcases woken.tasks index with ⟨same⟩ | ⟨was, _, _⟩
      · rw [same] at blocked
        exact absurd blocked calm
      · exact absurd was calm
  | @waits current reason object ticks trace priorities _ waiting wait _ _ same =>
      obtain rfl : index = current := by
        simpa using runs.currentTask.symm.trans waiting.currentTask
      have own := system.kernel.waiting_self call index reason object ticks trace priorities
      change after = system.kernel.waiting call index reason object ticks trace priorities at same
      rw [same, own] at other ⊢
      rw [Call.prepare_of_other wait other]
      exact ⟨cleared.mask, cleared.all, cleared.clearOnExit⟩
  | reserves _ _ reserved =>
      rw [taskCreateReserve_others reserved (core.current_lt runs.currentTask).ne] at blocked
      exact absurd blocked calm
  | @builds position _ built =>
      rw [built, (taskCreateBuild_facts cfg system.kernel position).2.2] at blocked
      exact absurd blocked calm
  | @publishes position initialSp _ _ published =>
      rw [published, (taskCreatePublish_facts system.kernel position initialSp).2.2] at blocked
      by_cases own : index = position
      · rw [own, Function.update_self] at blocked
        cases blocked
      · rw [Function.update_of_ne own] at blocked
        exact absurd blocked calm
  | starts _ started =>
      have running := runs.running
      rw [schedulerStart_stopped started] at running
      cases running

/-- Event-flag requests stay with the waits they belong to. -/
theorem Core.step_requestOwned
    {cfg : Config} {system after : System} {action : Action} {events : List Event} {index : Nat}
    (core : Core system) (owned : (system.kernel.tasks index).RequestOwned)
    (step : system.step cfg action = some (after, events)) :
    (after.kernel.tasks index).RequestOwned := by
  cases core.taskStep step index with
  | invokes => exact owned
  | advances active _ stepped =>
      exact core.advance_requestOwned active (Call.step_advance stepped)
  | watches _ _ move =>
      intro blocked other
      cases move with
      | stays same part =>
          have reason : (after.kernel.tasks index).waitReason =
              (system.kernel.tasks index).waitReason := congrArg WaitPart.reason part
          obtain ⟨mask, all, clear⟩ := owned (same.mp blocked) (reason ▸ other)
          exact ⟨(congrArg WaitPart.mask part).trans mask, (congrArg WaitPart.all part).trans all,
            (congrArg WaitPart.clearOnExit part).trans clear⟩
      | fresh _ free => exact absurd blocked free
      | expires _ _ free => exact absurd blocked free
      | signaled _ _ _ free => exact absurd blocked free

theorem RequestOwned.of_run
    {cfg : Config} {allowed : System → Action → Prop} {events : List Event} {system : System}
    (run : (forge cfg).Run allowed events system) (index : Nat) :
    (system.kernel.tasks index).RequestOwned :=
  (run.stateInvariant
    (motive := fun state => Core state ∧ (state.kernel.tasks index).RequestOwned)
    ⟨Core.initial, fun _ _ => ⟨rfl, rfl, rfl⟩⟩
    fun _ _ _ _ held _ stepped => ⟨held.1.step stepped,
      held.1.step_requestOwned held.2 stepped⟩).2

/-! ## Checks of one task -/

theorem kernelStackGeometryValid_of_ok
    {cfg : Config} {task : Task} (geometry : task.StackOk cfg) :
    kernelStackGeometryValid cfg task = true := by
  have zero : ∀ word : Word, word = 0 ↔ word.toNat = 0 := fun word => BitVec.toNat_eq
  have topBound := task.stackTop.isLt
  obtain ⟨positive, enough, even, aligned, top⟩ := geometry
  have small : task.stackSizeWords.toNat ≤ 0x3FFFFFFF := by omega
  have bytes : (task.stackSizeWords * 4).toNat = 4 * task.stackSizeWords.toNat := by
    rw [BitVec.toNat_mul]
    change task.stackSizeWords.toNat * 4 % 2 ^ 32 = _
    omega
  unfold kernelStackGeometryValid
  rw [if_neg, if_neg]
  · dsimp only
    rw [if_neg, decide_eq_true_eq]
    · apply BitVec.toNat_injective
      rw [BitVec.toNat_add, bytes, top]
      omega
    · rw [ne_eq, ne_eq, Word.aligned_iff, Word.aligned_iff, top]
      rintro (odd | odd | large)
      · exact odd aligned
      · exact odd (by omega)
      · rw [BitVec.lt_def, BitVec.toNat_sub_of_le, bytes] at large
        · change 0xFFFFFFFF - _ < _ at large
          omega
        · rw [BitVec.le_def, bytes]
          change _ ≤ 0xFFFFFFFF
          omega
  · rw [show 0xFFFFFFFF#32 / 4 = 0x3FFFFFFF#32 by decide, BitVec.lt_def]
    exact Nat.not_lt.mpr small
  · rw [ne_eq, zero, zero, Word.even_iff]
    omega

theorem kernelSavedSpValid_of_valid
    {task : Task} (valid : schedulerSavedSpValid task task.savedSp = true) :
    kernelSavedSpValid task = true := by
  obtain ⟨_, _, nonzero, above, below, aligned⟩ := schedulerSavedSpValid_iff.mp valid
  unfold kernelSavedSpValid
  rw [decide_eq_true_eq, BitVec.le_def, BitVec.le_def, Word.aligned_iff]
  exact ⟨fun zero => absurd (congrArg BitVec.toNat zero) nonzero.ne', above, below, aligned⟩

/-- Reason and object fit together in every wait. -/
theorem Call.wait_shape
    {call : Call} {reason : WaitReason} {object : Option ObjectRef}
    (wait : call.wait = some (reason, object)) :
    (reason = .sleep → object = none) ∧
      (reason ≠ .sleep → reason.usesObject = true ∧ object ≠ none) ∧
      (reason = .eventFlags → ∃ flags, object = some (.eventFlags flags)) := by
  unfold Call.wait at wait
  split at wait
  · obtain ⟨rfl, rfl⟩ := Prod.mk.inj (Option.some.inj wait)
    simp
  · obtain ⟨rfl, rfl⟩ := Prod.mk.inj (Option.some.inj wait)
    simp [WaitReason.usesObject]
  · obtain ⟨rfl, rfl⟩ := Prod.mk.inj (Option.some.inj wait)
    simp [WaitReason.usesObject]
  · obtain ⟨rfl, rfl⟩ := Prod.mk.inj (Option.some.inj wait)
    simp [WaitReason.usesObject]
  · obtain ⟨rfl, rfl⟩ := Prod.mk.inj (Option.some.inj wait)
    simp [WaitReason.usesObject]
  · obtain ⟨rfl, rfl⟩ := Prod.mk.inj (Option.some.inj wait)
    simp [WaitReason.usesObject]
  · cases wait

/-- The wait fields of every task in every reached state. -/
theorem Core.waitStateValid
    {system : System} (core : Core system) {index : Nat}
    (flagsOk : ∀ flags, FlagsOk flags system)
    (owned : (system.kernel.tasks index).RequestOwned) :
    kernelWaitStateValid (system.kernel.tasks index) = true := by
  have slot := core.slots index
  unfold kernelWaitStateValid
  split
  · rename_i blocked
    obtain ⟨call, point, _, _, wait⟩ := slot.suspended blocked
    obtain ⟨sleeps, waits, flagged⟩ := Call.wait_shape wait
    have named := Call.wait_reason_ne_none wait
    rw [if_neg, if_neg, if_neg, if_neg]
    · split
      · rename_i reason
        obtain ⟨flags, object⟩ := flagged reason
        exact decide_eq_true ((flagsOk flags).unmet core blocked reason object).1
      · rename_i other
        exact decide_eq_true (owned blocked other)
    · rintro ⟨other, unused⟩
      rw [(waits other).1] at unused
      cases unused
    · rintro ⟨other, _, missing⟩
      exact (waits other).2 missing
    · rintro ⟨reason, present⟩
      exact present (sleeps reason)
    · rintro (missing | ended)
      · exact named missing
      · exact ended (slot.pending blocked)
  · rename_i free
    have cleared := slot.cleared free
    rw [decide_eq_true_eq]
    exact ⟨cleared.reason, cleared.object, cleared.hasDeadline, cleared.deadline, cleared.mask,
      cleared.all, cleared.clearOnExit⟩

/-- What the scan finds in a slot: everything is in order, but for the missing stack pointer of a
task that is still being created. -/
structure Task.Passes (cfg : Config) (index : Nat) (task : Task) : Prop where
  id : task.id = index + 1
  priority : task.priority ≤ cfg.maxTaskPriority
  base : task.basePriority ≤ task.priority
  geometry : kernelStackGeometryValid cfg task = true
  saved : kernelSavedSpValid task = false ↔ task.state = .created
  wait : kernelWaitStateValid task = true
  known : task.state = .created ∨ task.state.Live

/-- A task that passes the tests is noted at most for its creation. -/
theorem kernelCheckTask_of_passes
    {cfg : Config} {index : Nat} {task : Task} (passes : task.Passes cfg index)
    (report : InvariantReport) :
    kernelCheckTask cfg task (index + 1) report =
      report.noteIf (task.state = .created) .savedSp task.id := by
  have priority := passes.priority
  have base := passes.base
  have prices : ¬(cfg.maxTaskPriority < task.priority ∨
      cfg.maxTaskPriority < task.basePriority ∨ task.priority < task.basePriority) := by
    omega
  unfold kernelCheckTask InvariantReport.noteIf
  dsimp only
  rw [if_neg (not_not.mpr passes.id), if_neg prices, passes.geometry, passes.wait]
  simp only [passes.saved, Bool.true_eq_false, if_false]

/-! ## The scan -/

/-- The two alarms that the slot of an unfinished creation raises while the scheduler runs. -/
def creationMask : Word :=
  Violation.taskState.bit ||| Violation.savedSp.bit

/-- The scan after `count` slots: only unfinished creations raised alarms, every slot is counted
once, and only the caller is running. -/
structure Scanned (kernel : Kernel) (caller count : Nat) (scan : Scan) : Prop where
  taskCount : scan.report.taskCount = kernel.taskCount
  silent : (∀ index < count, (kernel.tasks index).state ≠ .created) →
    scan.report.violationMask = 0
  alarmed : ∀ index < count, (kernel.tasks index).state = .created →
    scan.report.violationMask = creationMask
  counted : scan.report.createdTasks + scan.report.readyTasks + scan.report.runningTasks +
    scan.report.blockedTasks = count
  running : scan.report.runningTasks = if caller < count then 1 else 0
  found : scan.currentTaskFound = decide (caller < count)
  current : caller < count → scan.report.currentTaskId = (kernel.tasks caller).id

theorem Scanned.mask_or_creationMask
    {kernel : Kernel} {caller count : Nat} {scan : Scan}
    (scanned : Scanned kernel caller count scan) :
    scan.report.violationMask ||| Violation.savedSp.bit ||| Violation.taskState.bit =
      creationMask := by
  by_cases published : ∀ index < count, (kernel.tasks index).state ≠ .created
  · rw [scanned.silent published]
    decide
  · push Not at published
    obtain ⟨index, small, created⟩ := published
    rw [scanned.alarmed index small created]
    decide

/-- A slot whose task is published leaves the alarms as they are. -/
theorem Scanned.published
    {kernel : Kernel} {caller index : Nat} {before : Scan}
    (scanned : Scanned kernel caller index before)
    (published : (kernel.tasks index).state ≠ .created) :
    ((∀ slot < index + 1, (kernel.tasks slot).state ≠ .created) →
        before.report.violationMask = 0) ∧
      ∀ slot < index + 1, (kernel.tasks slot).state = .created →
        before.report.violationMask = creationMask := by
  refine ⟨fun all => scanned.silent fun slot small => all slot (by omega), ?_⟩
  intro slot small created
  have earlier : slot ≠ index := fun same => published (same ▸ created)
  exact scanned.alarmed slot (by omega) created

theorem InvariantReport.noteIf_of_not
    {condition : Prop} [Decidable condition] (fails : ¬condition) (report : InvariantReport)
    (violation : Violation) (taskId : Nat) :
    report.noteIf condition violation taskId = report :=
  if_neg fails

theorem InvariantReport.noteIf_of
    {condition : Prop} [Decidable condition] (holds : condition) (report : InvariantReport)
    (violation : Violation) (taskId : Nat) :
    report.noteIf condition violation taskId = kernelNoteViolation report violation taskId :=
  if_pos holds

/-- One turn of the scan over a task that passes its tests. -/
theorem Scanned.step
    {cfg : Config} {kernel : Kernel} {caller index : Nat} {scan : Scan}
    (scanned : Scanned kernel caller index scan) (small : index < kernel.taskCount)
    (runs : kernel.Runs caller) (passes : (kernel.tasks index).Passes cfg index)
    (sole : (kernel.tasks index).state = .running ↔ index = caller) :
    Scanned kernel caller (index + 1) (kernelScanStep cfg kernel scan index) := by
  have present : schedulerCurrentTask kernel = some caller :=
    schedulerCurrentTask_eq_some.mpr runs.currentTask
  have located : taskInternalAt kernel index = some index := by
    unfold taskInternalAt
    rw [if_neg (Nat.not_le.mpr small)]
  have masked := scanned.mask_or_creationMask
  have kept := scanned.published
  obtain ⟨taskCount, _, _, counted, running, found, current⟩ := scanned
  unfold kernelScanStep
  rw [located]
  dsimp only
  rw [kernelCheckTask_of_passes passes, present]
  by_cases own : index = caller
  · subst own
    have state := sole.mpr rfl
    obtain ⟨silent, alarmed⟩ := kept (by rw [state]; decide)
    rw [if_pos rfl, InvariantReport.noteIf_of_not (by rw [state]; decide)]
    unfold kernelCountState
    rw [state]
    have first : ¬index < index := lt_irrefl index
    rw [if_neg first] at running
    exact ⟨taskCount, silent, alarmed, by dsimp only; omega, by simp [running], by simp,
      fun _ => rfl⟩
  · rw [if_neg fun same => own (Option.some.inj same).symm]
    have resting : (kernel.tasks index).state ≠ .running := mt sole.mp own
    have bound : caller < index + 1 ↔ caller < index := by omega
    have nowRunning : scan.report.runningTasks = if caller < index + 1 then 1 else 0 := by
      simpa only [bound] using running
    have nowFound : scan.currentTaskFound = decide (caller < index + 1) := by
      simpa only [bound] using found
    rcases passes.known with state | state | state | state
    · rw [InvariantReport.noteIf_of state]
      unfold kernelCountState
      rw [state]
      dsimp only
      rw [InvariantReport.noteIf_of runs.running]
      refine ⟨taskCount, fun all => absurd state (all index (by omega)), fun _ _ _ => masked, ?_,
        nowRunning, nowFound, fun seen => current (bound.mp seen)⟩
      change scan.report.createdTasks + 1 + _ + _ + _ = _
      simp only [kernelNoteViolation]
      omega
    · obtain ⟨silent, alarmed⟩ := kept (by rw [state]; decide)
      rw [InvariantReport.noteIf_of_not (by rw [state]; decide)]
      unfold kernelCountState
      rw [state]
      exact ⟨taskCount, silent, alarmed, by dsimp only; omega, nowRunning, nowFound,
        fun seen => current (bound.mp seen)⟩
    · exact absurd state resting
    · obtain ⟨silent, alarmed⟩ := kept (by rw [state]; decide)
      rw [InvariantReport.noteIf_of_not (by rw [state]; decide)]
      unfold kernelCountState
      rw [state]
      exact ⟨taskCount, silent, alarmed, by dsimp only; omega, nowRunning, nowFound,
        fun seen => current (bound.mp seen)⟩

/-- After the last slot the two remaining checks are silent too. -/
theorem Scanned.settles
    {kernel : Kernel} {caller : Nat} {scan : Scan} (runs : kernel.Runs caller)
    (registered : caller < kernel.taskCount)
    (scanned : Scanned kernel caller kernel.taskCount scan) :
    kernelCheckCurrent kernel { scan with
      report := scan.report.noteIf (1 < scan.report.runningTasks)
        .runningCount kernelInvariantNoTaskId } = scan.report := by
  have present : schedulerCurrentTask kernel = some caller :=
    schedulerCurrentTask_eq_some.mpr runs.currentTask
  have single : scan.report.runningTasks = 1 := by
    rw [scanned.running, if_pos registered]
  have found : scan.currentTaskFound = true := by
    rw [scanned.found, decide_eq_true registered]
  rw [InvariantReport.noteIf_of_not (by omega)]
  unfold kernelCheckCurrent
  dsimp only
  rw [runs.running, if_pos rfl, present]
  dsimp only
  rw [InvariantReport.noteIf_of_not]
  rw [found, runs.state, single]
  decide

/-- A registry whose slots all pass, scanned by the running task. -/
theorem kernelCheckInvariants_passes
    {cfg : Config} {kernel : Kernel} {caller : Nat} (runs : kernel.Runs caller)
    (registered : caller < kernel.taskCount) (count : kernel.taskCount ≤ cfg.maxTasks)
    (passes : ∀ index < kernel.taskCount, (kernel.tasks index).Passes cfg index)
    (sole : ∀ index, (kernel.tasks index).state = .running → index = caller) :
    ∃ scan, kernelCheckInvariants cfg kernel =
        (scan.report, decide (scan.report.violationMask = 0)) ∧
      Scanned kernel caller kernel.taskCount scan := by
  have fits : ¬cfg.maxTasks < kernel.taskCount := Nat.not_lt.mpr count
  have scanned : Scanned kernel caller kernel.taskCount
      ((List.range kernel.taskCount).foldl (kernelScanStep cfg kernel)
        ⟨{ InvariantReport.empty with
          taskCount := kernel.taskCount
          schedulerRunning := kernel.running }, false⟩) :=
    foldl_range_invariant (motive := fun count scan => Scanned kernel caller count scan)
      kernel.taskCount _
      ⟨rfl, fun _ => rfl, fun _ impossible => absurd impossible (Nat.not_lt_zero _), rfl, rfl,
        rfl, fun impossible => absurd impossible (Nat.not_lt_zero _)⟩
      fun scan index small reached => reached.step small runs (passes index small)
        ⟨sole index, fun same => same ▸ runs.state⟩
  refine ⟨_, ?_, scanned⟩
  unfold kernelCheckInvariants
  dsimp only
  rw [InvariantReport.noteIf_of_not fits, if_neg fits, scanned.settles runs registered]

/-! ## Every run -/

/-- Once the scheduler runs no slot is unpublished. -/
def Kernel.AllPublished (kernel : Kernel) : Prop :=
  kernel.running = true → ∀ index, (kernel.tasks index).state ≠ .created

theorem Kernel.AllPublished.step
    {cfg : Config} {system after : System} {action : Action} {events : List Event}
    (published : system.kernel.AllPublished) (core : Core system) (absent : system.NoCreation)
    (step : system.step cfg action = some (after, events)) : after.kernel.AllPublished := by
  have coreAfter := core.step step
  cases System.stepped step with
  | sysTick =>
      have framed := (sysTickHandler_updates system.kernel).framed
      intro running index created
      exact published (framed.running ▸ running) index
        ((framed.states index).created_iff.mp created)
  | @pendSv psp live =>
      have outcome := pendSvHandler_outcome psp core.control live
      have states := outcome.states.2
      intro running index created
      refine published ?_ index ((states index).created_iff.mp created)
      cases outcome with
      | trapped stopped => exact stopped.running ▸ running
      | switched resumed => exact resumed.active
  | invoke => exact published
  | @advance thread call point result active inCall stepped =>
      intro running index created
      rcases (core.active_cases active).2 with ⟨rfl, stopped⟩ | ⟨current, rfl, runs, _⟩
      · obtain ⟨other, reserves⟩ := coreAfter.created index created
        cases other with
        | boot =>
            obtain ⟨_, gone⟩ := coreAfter.departed running
            rw [gone] at reserves
            cases reserves
        | task slot =>
            simp only [System.setFrame] at reserves
            rw [Function.update_of_ne (by simp), core.dormant stopped slot] at reserves
            cases reserves
      · have same := core.advance_sameSlots (fun outTask config creates =>
          absent current outTask config point (creates ▸ inCall)) stepped
        exact published runs.running index ((same.states index).created_iff.mp created)
  | user => exact published

/-- When all tasks are created before the start, none is half created later. -/
theorem Kernel.AllPublished.of_run
    {cfg : Config} {events : List Event} {system : System}
    (run : (forge cfg).Run createsBeforeStart events system) : system.kernel.AllPublished :=
  (run.stateInvariant (motive := fun state => Core state ∧ state.NoCreation ∧
      state.kernel.AllPublished)
    ⟨Core.initial, fun _ _ _ _ => by simp [forge, System.boot],
      fun running => absurd running (by simp [forge, System.boot, Kernel.reset])⟩
    fun _ _ _ _ held allowed stepped => ⟨held.1.step stepped,
      held.2.1.step held.1 allowed stepped, held.2.2.step held.1 held.2.1 stepped⟩).2.2

/-- A task that is being created has no stack pointer yet. -/
def Task.UnsavedIfCreated (task : Task) : Prop :=
  task.state = .created → task.savedSp = 0

theorem Task.UnsavedIfCreated.kept
    {before after : Task} (unsaved : before.UnsavedIfCreated)
    (states : StateMove before.state after.state) (savedSp : after.savedSp = before.savedSp) :
    after.UnsavedIfCreated :=
  fun created => savedSp.trans (unsaved (states.created_iff.mp created))

theorem CreateStep.unsaved
    {cfg : Config} {kernel : Kernel} {memory : Memory} {config : Option TaskConfig}
    {point : Point} {result : StepResult} {index : Nat}
    (unsaved : (kernel.tasks index).UnsavedIfCreated)
    (step : CreateStep cfg kernel memory config point result) :
    (result.kernel.tasks index).UnsavedIfCreated := by
  cases step with
  | refuses => exact unsaved
  | reserves _ reserved =>
      obtain ⟨_, rfl⟩ := taskCreateReserve_some reserved
      change ((kernel.setTask _ _).tasks index).UnsavedIfCreated
      by_cases new : index = kernel.taskCount
      · rw [new, Kernel.setTask_tasks_self]
        exact fun _ => rfl
      · rw [Kernel.setTask_tasks_of_ne _ _ new]
        exact unsaved
  | @builds _ slot =>
      obtain ⟨_, _, tasks⟩ := taskCreateBuild_facts cfg kernel slot
      exact (congrFun tasks index).symm ▸ unsaved
  | @publishes _ slot initialSp =>
      obtain ⟨_, _, tasks⟩ := taskCreatePublish_facts kernel slot initialSp
      change ((taskCreatePublish _ _ _).tasks index).UnsavedIfCreated
      rw [tasks]
      by_cases own : index = slot
      · rw [own, Function.update_self]
        exact fun created => by cases created
      · rw [Function.update_of_ne own]
        exact unsaved

/-- No step saves a stack pointer in a reserved slot. -/
theorem Core.step_unsaved
    {cfg : Config} {system after : System} {action : Action} {events : List Event} {index : Nat}
    (core : Core system) (unsaved : (system.kernel.tasks index).UnsavedIfCreated)
    (step : system.step cfg action = some (after, events)) :
    (after.kernel.tasks index).UnsavedIfCreated := by
  cases System.stepped step with
  | sysTick =>
      have same := (sysTickHandler_updates system.kernel).framed.toSameSlots
      exact unsaved.kept (same.states index) (same.kept index).savedSp
  | @pendSv psp live =>
      have outcome := pendSvHandler_outcome psp core.control live
      have states := outcome.states.2 index
      intro created
      have before := states.created_iff.mp created
      have elsewhere : system.kernel.currentTask ≠ some (.user index) := fun present => by
        rcases core.control.current_active present with state | state
        · rw [Kernel.taskAt, before] at state
          cases state
        · rw [Kernel.taskAt, before] at state
          cases state
      cases outcome with
      | trapped stopped =>
          rw [stopped.others index elsewhere]
          exact unsaved before
      | switched resumed =>
          rw [resumed.tasks]
          exact (if_neg elsewhere).trans (unsaved before)
  | invoke => exact unsaved
  | @advance thread call point result active inCall stepped =>
      by_cases creates : ∃ outTask config, call = .taskCreate outTask config
      · obtain ⟨outTask, config, rfl⟩ := creates
        exact (taskCreateStep_cases stepped).unsaved unsaved
      · have same := core.advance_sameSlots
          (fun outTask config same => creates ⟨outTask, config, same⟩) stepped
        exact unsaved.kept (same.states index) (same.kept index).savedSp
  | user => exact unsaved

theorem unsaved_of_run
    {cfg : Config} {allowed : System → Action → Prop} {events : List Event} {system : System}
    (run : (forge cfg).Run allowed events system) (index : Nat) :
    (system.kernel.tasks index).UnsavedIfCreated :=
  (run.stateInvariant
    (motive := fun state => Core state ∧ (state.kernel.tasks index).UnsavedIfCreated)
    ⟨Core.initial, fun created => by cases created⟩
    fun _ _ _ _ held _ stepped =>
      ⟨held.1.step stepped, held.1.step_unsaved held.2 stepped⟩).2

/-- What the scan finds in a registered slot of a reached state. -/
theorem passes_of_run
    {cfg : Config} {allowed : System → Action → Prop} {events : List Event} {system : System}
    (run : (forge cfg).Run allowed events system) {index : Nat}
    (small : index < system.kernel.taskCount) :
    (system.kernel.tasks index).Passes cfg index := by
  have core := Core.of_run run
  have registered := (StacksOk.of_run run).kernel.registered index small
  obtain ⟨valid, unsuspended⟩ := core.states index small
  refine ⟨registered.id, PrioritiesLe.of_run run index,
    ((InheritanceOk.of_run run).priorities index).base_le,
    kernelStackGeometryValid_of_ok registered.geometry, ⟨?_, ?_⟩,
    core.waitStateValid (fun flags => .of_run flags run) (RequestOwned.of_run run index), ?_⟩
  · intro invalid
    by_contra published
    rw [kernelSavedSpValid_of_valid (registered.saved published)] at invalid
    cases invalid
  · intro created
    unfold kernelSavedSpValid
    rw [unsaved_of_run run index created]
    exact decide_eq_false fun passes => passes.1 rfl
  · unfold TaskState.Live
    cases state : (system.kernel.tasks index).state with
    | invalid => exact absurd state valid
    | created => exact Or.inl rfl
    | ready => exact Or.inr (Or.inl rfl)
    | running => exact Or.inr (Or.inr (Or.inl rfl))
    | blocked => exact Or.inr (Or.inr (Or.inr rfl))
    | suspended => exact absurd state unsuspended

/-- The check as a task runs it, in any run. -/
theorem checked_of_run
    {cfg : Config} {allowed : System → Action → Prop} {events : List Event} {system : System}
    {caller : Nat} (run : (forge cfg).Run allowed events system)
    (active : system.activeThread = some (.task caller))
    (calls : system.frames (.task caller) = .inCall (.kernelCheckInvariants true) .entry) :
    ∃ after scan, system.step cfg .advance = some (after,
        [.returned (.task caller) (.kernelCheckInvariants true)
          (.report (some (scan.report, decide (scan.report.violationMask = 0))))]) ∧
      Scanned system.kernel caller system.kernel.taskCount scan := by
  have core := Core.of_run run
  have runs := core.active_current active
  obtain ⟨scan, checked, scanned⟩ := kernelCheckInvariants_passes runs
    (core.current_lt runs.currentTask) (StacksOk.of_run run).kernel.count
    (fun index small => passes_of_run run small)
    (fun index state => by
      have present := core.control.sole index state
      rw [runs.currentTask] at present
      exact (TaskRef.user.inj (Option.some.inj present)).symm)
  refine ⟨system.setFrame (.task caller) .user, scan, ?_, scanned⟩
  change system.activeThread.bind (system.advance cfg) = _
  rw [active]
  change system.advance cfg (.task caller) = _
  unfold System.advance
  rw [calls]
  change some (system.setFrame (.task caller) .user, [Event.returned (.task caller)
    (.kernelCheckInvariants true) (.report (some (kernelCheckInvariants cfg system.kernel)))]) = _
  rw [checked]

/-- A task that calls `fr_kernel_check_invariants` gets `true`, a report without violations that
counts every task once, and its own identifier as that of the only running task. -/
theorem self_check_never_alarms
    {cfg : Config} {events : List Event} {system : System} {caller : Nat}
    (run : (forge cfg).Run createsBeforeStart events system)
    (active : system.activeThread = some (.task caller))
    (calls : system.frames (.task caller) = .inCall (.kernelCheckInvariants true) .entry) :
    ∃ after report, system.step cfg .advance = some (after,
        [.returned (.task caller) (.kernelCheckInvariants true) (.report (some (report, true)))]) ∧
      report.violationMask = 0 ∧
      report.createdTasks + report.readyTasks + report.runningTasks + report.blockedTasks =
        report.taskCount ∧
      report.taskCount = system.kernel.taskCount ∧ report.runningTasks = 1 ∧
      report.currentTaskId = (system.kernel.tasks caller).id := by
  have core := Core.of_run run
  have runs := core.active_current active
  have registered := core.current_lt runs.currentTask
  obtain ⟨after, scan, stepped, scanned⟩ := checked_of_run run active calls
  have silent := scanned.silent fun index _ =>
    Kernel.AllPublished.of_run run runs.running index
  rw [decide_eq_true silent] at stepped
  refine ⟨after, scan.report, stepped, silent, scanned.counted.trans scanned.taskCount.symm,
    scanned.taskCount, ?_, scanned.current registered⟩
  rw [scanned.running, if_pos registered]

/-- The second task is woken by the tick before its own switch, waits for flags and leaves the
first task to run the check. -/
def checkedWhileWaiting : List Action :=
  Action.bootProgram [.eventFlagsInit (some 0)] [1, 2] ++
    ([.invoke (.taskSleep 1), .advance, .sysTick, .switchFrom 1, .advance,
       .invoke (.eventFlagsWait (some 0) ⟨5, true, true⟩ 7 true), .advance, .advance,
       .switchFrom 1, .invoke (.kernelCheckInvariants true)] : List Action)

/-- A check while another task waits. -/
theorem self_check_while_waiting :
    ∃ (system after : System) (report : InvariantReport), (system.kernel.tasks 1).state = .blocked ∧
      system.step Config.default .advance = some (after, [.returned (.task 0)
        (.kernelCheckInvariants true) (.report (some (report, true)))]) ∧
      report.violationMask = 0 ∧ report.runningTasks = 1 ∧ report.taskCount = 2 := by
  obtain ⟨events, system, run, checked⟩ :=
    Machine.RunFrom.exists_of_execFrom (forge Config.default) createsBeforeStart System.boot
      checkedWhileWaiting (fun _ system => decide ((system.kernel.tasks 1).state = .blocked ∧
        system.kernel.taskCount = 2 ∧ system.activeThread = some (.task 0) ∧
        system.frames (.task 0) = .inCall (.kernelCheckInvariants true) .entry))
      (by decide +kernel)
  rw [decide_eq_true_eq] at checked
  obtain ⟨blocked, count, active, inCall⟩ := checked
  obtain ⟨after, report, stepped, clean, _, tasks, running, _⟩ :=
    self_check_never_alarms run active inCall
  exact ⟨system, after, report, blocked, stepped, clean, running, tasks.trans count⟩

end ForgeKernel
