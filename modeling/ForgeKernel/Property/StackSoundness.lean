import ForgeKernel.Model.StackInfo
import ForgeKernel.Invariant.StackMemory
import ForgeKernel.Property.SelfCheck

/-!
# Accepted stacks

Which configurations `fr_task_create` accepts, and what its later parts, the scheduler, the
self-check and the stack diagnostics make of an accepted one.  The sixteen words of the first
frame and the eight words of the guard are checked against the minimum stack size one at a
time, so a minimum below their sum admits stacks in which they overlap.
-/

namespace ForgeKernel

open WordMemory

/-! ## Acceptance -/

theorem taskStackIsValid_iff {cfg : Config} {config : TaskConfig} :
    taskStackIsValid cfg config = true ↔
      config.stackMemory ≠ 0 ∧ config.stackMemory.toNat % 8 = 0 ∧
        config.stackSizeWords.toNat % 2 = 0 ∧
        cfg.minTaskStackWords ≤ config.stackSizeWords.toNat ∧
        config.stackMemory.toNat + 4 * config.stackSizeWords.toNat ≤ 2 ^ 32 - 1 := by
  constructor
  · intro valid
    obtain ⟨positive, enough, even, aligned, top⟩ :=
      Task.StackOk.of_valid valid Task.zero 0
    have bound := (Task.zero.reserve 0 config).stackTop.isLt
    rw [top] at bound
    refine ⟨?_, aligned, even, enough, Nat.le_sub_one_of_lt bound⟩
    intro null
    change 0 < config.stackMemory.toNat at positive
    rw [null] at positive
    exact absurd positive (by decide)
  · rintro ⟨present, aligned, even, enough, fits⟩
    have bytes : (config.stackSizeWords * 4).toNat = 4 * config.stackSizeWords.toNat := by
      rw [BitVec.toNat_mul]
      change config.stackSizeWords.toNat * 4 % 2 ^ 32 = _
      omega
    have top : (config.stackMemory + config.stackSizeWords * 4).toNat =
        config.stackMemory.toNat + 4 * config.stackSizeWords.toNat := by
      rw [BitVec.toNat_add, bytes]
      omega
    unfold taskStackIsValid
    rw [show 0xFFFFFFFF#32 / 4 = 0x3FFFFFFF#32 by decide]
    rw [if_neg present, if_neg (Nat.not_lt.mpr enough), if_neg, if_neg, if_neg]
    · dsimp only
      rw [if_neg, decide_eq_true_eq, Word.aligned_iff, top]
      · omega
      · rw [BitVec.lt_def, BitVec.toNat_sub_of_le, bytes]
        · change ¬0xFFFFFFFF - _ < _
          omega
        · rw [BitVec.le_def, bytes]
          change _ ≤ 0xFFFFFFFF
          omega
    · rw [BitVec.lt_def]
      change ¬0x3FFFFFFF < _
      omega
    · rw [not_not, Word.aligned_iff]
      exact aligned
    · rw [not_not, Word.even_iff]
      exact even

theorem taskCreateCheck_ok_iff {cfg : Config} {config : TaskConfig} :
    taskCreateCheck cfg config = .ok ↔
      config.entry ≠ 0 ∧ config.priority ≤ cfg.maxTaskPriority ∧
        taskStackIsValid cfg config = true := by
  unfold taskCreateCheck
  split
  · rename_i null
    simp [null]
  · rename_i present
    split
    · rename_i high
      simp [Nat.not_le.mpr high]
    · rename_i admitted
      split
      · rename_i refused
        simp [refused]
      · rename_i accepted
        exact ⟨fun _ => ⟨present, Nat.le_of_not_lt admitted,
          Bool.eq_true_of_not_eq_false accepted⟩, fun _ => rfl⟩

/-- The control block of an accepted configuration. -/
def TaskConfig.task (config : TaskConfig) (slot : Task) (index : Nat) : Task :=
  let reserved := slot.reserve index config
  reserved.publish reserved.initialSp

/-- What `fr_task_create` leaves behind when it accepts a configuration and nothing preempts
the caller. -/
structure Created (cfg : Config) (before : Kernel) (config : TaskConfig) (after : Kernel) :
    Prop where
  task : after.tasks before.taskCount =
    config.task (before.tasks before.taskCount) before.taskCount
  taskCount : after.taskCount = before.taskCount + 1
  halted : after.halted = before.halted
  stackMemory : after.stackMemory =
    (after.tasks before.taskCount).freshStack cfg before.stackMemory

theorem TaskConfig.task_stackOk
    {cfg : Config} {config : TaskConfig} (checked : taskCreateCheck cfg config = .ok)
    (slot : Task) (index : Nat) : (config.task slot index).StackOk cfg := by
  have geometry := Task.StackOk.of_valid (taskCreateCheck_ok checked).2 slot index
  exact ⟨geometry.positive, geometry.enough, geometry.even, geometry.aligned, geometry.top⟩

/-- Building and publishing a reserved slot. -/
theorem taskCreate_finishes
    {cfg : Config} {kernel : Kernel} {index : Nat}
    (geometry : (kernel.tasks index).StackOk cfg) :
    let built := taskCreateBuild cfg kernel index
    let after := taskCreatePublish built.1 index built.2
    after.tasks index = (kernel.tasks index).publish (kernel.tasks index).initialSp ∧
      after.taskCount = kernel.taskCount ∧ after.halted = kernel.halted ∧
      after.stackMemory = (kernel.tasks index).freshStack cfg kernel.stackMemory := by
  rw [taskCreateBuild_eq geometry]
  dsimp only
  rw [taskCreatePublish_eq _ _ (schedulerSavedSpValid_ne_zero geometry.initialSp_valid)]
  exact ⟨Kernel.setTask_tasks_self _ _ _, rfl, rfl, rfl⟩

/-- The three parts of `fr_task_create` in a row. -/
theorem taskCreate_accepted
    {cfg : Config} {kernel : Kernel} {config : TaskConfig}
    (free : kernel.taskCount < cfg.maxTasks) (checked : taskCreateCheck cfg config = .ok) :
    (taskCreate cfg kernel config).2 = .ok ∧
      Created cfg kernel config (taskCreate cfg kernel config).1 := by
  have geometry := Task.StackOk.of_valid (taskCreateCheck_ok checked).2
    (kernel.tasks kernel.taskCount) kernel.taskCount
  let reserved : Kernel := { kernel.setTask kernel.taskCount
    ((kernel.tasks kernel.taskCount).reserve kernel.taskCount config) with
      taskCount := kernel.taskCount + 1 }
  have taken : taskCreateReserve cfg kernel config = some reserved := by
    unfold taskCreateReserve
    rw [if_neg (Nat.not_le.mpr free)]
  have own : reserved.tasks kernel.taskCount =
      (kernel.tasks kernel.taskCount).reserve kernel.taskCount config :=
    kernel.setTask_tasks_self _ _
  rw [← own] at geometry
  obtain ⟨task, taskCount, halted, stackMemory⟩ := taskCreate_finishes geometry
  unfold taskCreate
  rw [checked]
  dsimp only
  rw [taken]
  refine ⟨rfl, ?_, taskCount, halted, ?_⟩
  · rw [task, own]
    rfl
  · rw [stackMemory, task]
    rfl

/-- The function agrees with the steps of the running system when nothing comes between
them. -/
theorem taskCreate_steps
    (cfg : Config) (kernel : Kernel) (memory : Memory) (config : TaskConfig) :
    let created := taskCreate cfg kernel config
    let step := fun kernel => taskCreateStep cfg kernel memory true (some config)
    if created.2 = .ok then
      ∃ reserved built initialSp,
        step kernel .entry = some (.goto reserved memory (.reserved kernel.taskCount)) ∧
        step reserved (.reserved kernel.taskCount) =
          some (.goto built memory (.built kernel.taskCount initialSp)) ∧
        step built (.built kernel.taskCount initialSp) =
          some (.reply created.1 memory (.taskStatus .ok (some kernel.taskCount)))
    else step kernel .entry = some (.reply created.1 memory (.taskStatus created.2 none)) := by
  dsimp only
  unfold taskCreate
  simp only [taskCreateStep]
  cases taskCreateCheck cfg config with
  | ok =>
      cases taken : taskCreateReserve cfg kernel config with
      | none => rfl
      | some reserved => exact ⟨reserved, _, _, rfl, rfl, rfl⟩
  | _ => rfl

/-- `fr_task_create` returns `FR_TASK_OK` for the configurations that pass its checks. -/
theorem taskCreate_ok_iff
    {cfg : Config} {kernel : Kernel} {config : TaskConfig}
    (free : kernel.taskCount < cfg.maxTasks) :
    (taskCreate cfg kernel config).2 = .ok ↔ taskCreateCheck cfg config = .ok := by
  constructor
  · intro returned
    unfold taskCreate at returned
    cases checked : taskCreateCheck cfg config with
    | ok => rfl
    | _ =>
        rw [checked] at returned
        cases returned
  · intro checked
    exact (taskCreate_accepted free checked).1

/-! ## Diagnostics of a fresh stack -/

/-- The scan for free words stops at the first word that lost the pattern. -/
theorem taskStackFreeLoop_eq
    {memory : Word → Word} {stackBase : Word} {free : Nat}
    (used : memory (wordAt stackBase free) ≠ taskStackFillPattern)
    {start remaining : Nat} (below : start ≤ free) (enough : free - start < remaining)
    (untouched : ∀ i, start ≤ i → i < free →
      memory (wordAt stackBase i) = taskStackFillPattern) :
    taskStackFreeLoop memory stackBase remaining start = free := by
  induction remaining generalizing start with
  | zero => omega
  | succ remaining inductionHypothesis =>
      unfold taskStackFreeLoop
      by_cases reached : start = free
      · subst reached
        exact if_neg used
      · rw [if_pos]
        · apply inductionHypothesis
          · omega
          · omega
          · intro i above
            exact untouched i (by omega)
        · exact untouched start (Nat.le_refl start) (by omega)

theorem taskStackGuardIntact_iff {memory : Word → Word} {stackBase : Word} :
    taskStackGuardIntact memory stackBase = true ↔
      ∀ i < 8, memory (wordAt stackBase i) = taskStackFillPattern := by
  unfold taskStackGuardIntact
  rw [List.all_eq_true]
  simp only [List.mem_range, decide_eq_true_eq]
  rfl

/-- The stack of a task that has not run: pattern below, frame above. -/
structure Task.Untouched (cfg : Config) (memory : Word → Word) (task : Task) : Prop where
  free : ∀ i < task.stackSizeWords.toNat - 16,
    memory (wordAt task.stackBase i) = taskStackFillPattern
  frame : ∀ i < 16, memory (wordAt task.stackBase (task.stackSizeWords.toNat - 16 + i)) =
    (initialContext task.entry task.argument cfg.taskReturnTrap).getD i 0

namespace Task.Untouched

variable {cfg : Config} {memory : Word → Word} {task : Task}

/-- The lowest word of the frame is the initial R4, which is not the pattern. -/
theorem first_used (untouched : task.Untouched cfg memory) :
    memory (wordAt task.stackBase (task.stackSizeWords.toNat - 16)) ≠ taskStackFillPattern := by
  rw [← Nat.add_zero (task.stackSizeWords.toNat - 16), untouched.frame 0 (by decide)]
  change 0x44444444#32 ≠ 0xA5A5A5A5#32
  decide

/-- The frame leaves the guard alone exactly when both fit into the stack. -/
theorem guardIntact_iff (untouched : task.Untouched cfg memory) :
    taskStackGuardIntact memory task.stackBase = true ↔ 24 ≤ task.stackSizeWords.toNat := by
  rw [taskStackGuardIntact_iff]
  constructor
  · intro intact
    by_contra short
    exact untouched.first_used (intact _ (by omega))
  · intro large i small
    exact untouched.free i (by omega)

theorem minimumFreeWords (untouched : task.Untouched cfg memory) (geometry : task.StackOk cfg) :
    (taskStackMinimumFreeWords memory task.stackBase task.stackSizeWords).toNat =
      task.stackSizeWords.toNat - 16 := by
  have enough := geometry.enough
  have context := cfg.context_le_minStack
  have bound := task.stackSizeWords.isLt
  unfold taskStackMinimumFreeWords
  rw [taskStackFreeLoop_eq untouched.first_used (Nat.zero_le _) (by omega)
    (fun i _ => untouched.free i), BitVec.toNat_ofNat]
  omega

end Task.Untouched

/-- Nobody but the task itself has a reason to write to its stack before it runs: its slot and
the words of its stack are as `fr_task_create` left them. -/
structure Unrun (created later : Kernel) (slot : Nat) : Prop where
  registered : slot < later.taskCount
  kept : (created.tasks slot).SameStack (later.tasks slot)
  words : ∀ address, (created.tasks slot).stackBase ≤ address →
    address < (created.tasks slot).stackTop →
    later.stackMemory address = created.stackMemory address

/-- Right after the return. -/
theorem Created.unrun
    {cfg : Config} {before after : Kernel} {config : TaskConfig}
    (created : Created cfg before config after) : Unrun after after before.taskCount where
  registered := by
    rw [created.taskCount]
    exact Nat.lt_succ_self _
  kept := .refl _
  words _ _ _ := rfl

theorem Created.untouched
    {cfg : Config} {before after later : Kernel} {config : TaskConfig}
    (created : Created cfg before config after) (checked : taskCreateCheck cfg config = .ok)
    (unrun : Unrun after later before.taskCount) :
    (later.tasks before.taskCount).StackOk cfg ∧
      (later.tasks before.taskCount).Untouched cfg later.stackMemory := by
  have geometry : (after.tasks before.taskCount).StackOk cfg := by
    rw [created.task]
    exact TaskConfig.task_stackOk checked _ _
  have kept := unrun.kept
  have words := unrun.words
  rw [created.stackMemory] at words
  generalize after.tasks before.taskCount = task at *
  generalize later.tasks before.taskCount = moved at *
  have top := geometry.top
  have bound := task.stackTop.isLt
  have inside : ∀ i < task.stackSizeWords.toNat,
      later.stackMemory (wordAt task.stackBase i) =
        task.freshStack cfg before.stackMemory (wordAt task.stackBase i) := by
    intro i small
    have place : (wordAt task.stackBase i).toNat = task.stackBase.toNat + 4 * i :=
      wordAt_toNat (by omega)
    apply words
    · rw [BitVec.le_def, place]
      omega
    · rw [BitVec.lt_def, place]
      omega
  refine ⟨geometry.kept kept, ?_, ?_⟩
  · intro i below
    rw [kept.stackSizeWords] at below
    rw [kept.stackBase, inside i (by omega)]
    exact geometry.freshStack_free _ below
  · intro i small
    have enough := geometry.enough
    have context := cfg.context_le_minStack
    rw [kept.stackBase, kept.stackSizeWords, kept.entry, kept.argument, inside _ (by omega)]
    exact geometry.freshStack_frame _ small

/-- The handle that `fr_task_create` hands out is valid for `fr_task_stack_get_info`. -/
theorem Created.getInfo
    {cfg : Config} {before after later : Kernel} {config : TaskConfig}
    (created : Created cfg before config after) (unrun : Unrun after later before.taskCount) :
    taskStackGetInfo later (some before.taskCount) true =
      some (taskStackInfo later.stackMemory (later.tasks before.taskCount)) := by
  have named : (later.tasks before.taskCount).id = before.taskCount + 1 := by
    rw [unrun.kept.id, created.task]
    rfl
  have valid : taskHandleIsValid later (some before.taskCount) = true := by
    unfold taskHandleIsValid
    rw [decide_eq_true_eq, named]
    exact ⟨unrun.registered, Nat.succ_ne_zero _⟩
  unfold taskStackGetInfo
  rw [if_neg Bool.noConfusion, if_neg (by rw [valid]; exact Bool.noConfusion)]
  rfl

theorem Created.saved
    {cfg : Config} {before after : Kernel} {config : TaskConfig}
    (created : Created cfg before config after) (checked : taskCreateCheck cfg config = .ok) :
    (after.tasks before.taskCount).StackOk cfg ∧
      (after.tasks before.taskCount).savedSp = (after.tasks before.taskCount).initialSp ∧
      schedulerSavedSpValid (after.tasks before.taskCount)
        (after.tasks before.taskCount).savedSp = true := by
  rw [created.task]
  have geometry := TaskConfig.task_stackOk checked (before.tasks before.taskCount)
    before.taskCount
  exact ⟨geometry, rfl, geometry.initialSp_valid⟩

/-- The stack pointer of a task that has not run stays in bounds. -/
theorem Unrun.inBounds
    {created later : Kernel} {slot : Nat} (unrun : Unrun created later slot)
    (valid : schedulerSavedSpValid (created.tasks slot) (created.tasks slot).savedSp = true) :
    (later.tasks slot).stackBase ≤ (later.tasks slot).savedSp ∧
      (later.tasks slot).savedSp ≤ (later.tasks slot).stackTop := by
  obtain ⟨_, _, _, above, below, _⟩ := schedulerSavedSpValid_iff.mp valid
  have kept := unrun.kept
  rw [kept.stackBase, kept.savedSp, kept.stackTop]
  exact ⟨above, below⟩

/-- Words of the first frame. -/
theorem Task.StackOk.frame_inside
    {cfg : Config} {task : Task} (geometry : task.StackOk cfg) {i : Nat} (small : i < 16) :
    (wordAt task.initialSp i).toNat = task.stackTop.toNat - 64 + 4 * i ∧
      (wordAt task.initialSp i).toNat + 4 ≤ task.stackTop.toNat := by
  obtain ⟨start, room, _⟩ := geometry.initialSp_toNat
  have bound := task.stackTop.isLt
  have place : (wordAt task.initialSp i).toNat = task.initialSp.toNat + 4 * i :=
    wordAt_toNat (by omega)
  rw [start] at place
  exact ⟨place, by omega⟩

/-! ## Main results -/

/-- What `fr_task_stack_get_info` reports for a stack of `words` words before its task runs. -/
structure TaskStackInfo.Fresh (words : Nat) (info : TaskStackInfo) : Prop where
  guardIntact : info.guardIntact = true
  overflowDetected : info.overflowDetected = false
  minimumFreeWords : info.minimumFreeWords.toNat = words - 16
  minimumUsableFreeWords : info.minimumUsableFreeWords.toNat = words - 24
  peakUsedWords : info.peakUsedWords.toNat = 16

theorem Task.Untouched.info_fresh
    {cfg : Config} {memory : Word → Word} {task : Task}
    (untouched : task.Untouched cfg memory) (geometry : task.StackOk cfg)
    (large : 24 ≤ task.stackSizeWords.toNat)
    (inBounds : task.stackBase ≤ task.savedSp ∧ task.savedSp ≤ task.stackTop) :
    (taskStackInfo memory task).Fresh task.stackSizeWords.toNat := by
  have intact := untouched.guardIntact_iff.mpr large
  have free := untouched.minimumFreeWords geometry
  have bound := task.stackSizeWords.isLt
  have guard : (BitVec.ofNat 32 taskStackGuardWords).toNat = 8 := rfl
  refine ⟨intact, ?_, free, ?_, ?_⟩
  · change (!taskStackGuardIntact memory task.stackBase || !decide _) = false
    rw [intact, decide_eq_true inBounds]
    rfl
  · change BitVec.toNat (if BitVec.ofNat 32 taskStackGuardWords <
      taskStackMinimumFreeWords memory task.stackBase task.stackSizeWords then _ else 0) = _
    by_cases spare : 24 < task.stackSizeWords.toNat
    · rw [if_pos, BitVec.toNat_sub_of_le, free, guard]
      · omega
      · rw [BitVec.le_def, free, guard]
        omega
      · rw [BitVec.lt_def, free, guard]
        omega
    · rw [if_neg]
      · change 0 = _
        omega
      · rw [BitVec.lt_def, free, guard]
        omega
  · change (task.stackSizeWords -
      taskStackMinimumFreeWords memory task.stackBase task.stackSizeWords).toNat = 16
    rw [BitVec.toNat_sub_of_le, free]
    · omega
    · rw [BitVec.le_def, free]
      omega

/-- With the repository's minimum of 32 words and maximal priority of 31, `fr_task_create`
accepts exactly the stated configurations while a slot is free; the stack of an accepted one
does not wrap, its first frame lies above the guard, no assertion fails, the scheduler and the
self-check accept the task, and until it runs the stack diagnostics find everything but the
sixteen words of the frame free. -/
theorem accepted_stacks_sound
    {cfg : Config} (minimum : cfg.minTaskStackWords = 32) (highest : cfg.maxTaskPriority = 31)
    {kernel : Kernel} (free : kernel.taskCount < cfg.maxTasks) (config : TaskConfig) :
    let created := taskCreate cfg kernel config
    let base := config.stackMemory.toNat
    let words := config.stackSizeWords.toNat
    (created.2 = .ok ↔ config.entry ≠ 0 ∧ config.priority ≤ 31 ∧ config.stackMemory ≠ 0 ∧
      base % 8 = 0 ∧ words % 2 = 0 ∧ 32 ≤ words ∧ base + 4 * words ≤ 2 ^ 32 - 1) ∧
    (created.2 = .ok →
      let task := created.1.tasks kernel.taskCount
      task.stackBase = config.stackMemory ∧ task.stackTop.toNat = base + 4 * words ∧
      (∀ i < 16, base + 4 * taskStackGuardWords ≤ (wordAt task.savedSp i).toNat ∧
        (wordAt task.savedSp i).toNat + 4 ≤ task.stackTop.toNat) ∧
      (∀ memory address, (∀ i < 16, address ≠ wordAt task.savedSp i) →
        (portTaskStackInit cfg memory task.stackTop task.entry task.argument).1 address =
          memory address) ∧
      created.1.halted = kernel.halted ∧
      kernelStackGeometryValid cfg task = true ∧ kernelSavedSpValid task = true ∧
      schedulerSavedSpValid task task.savedSp = true ∧
      ∀ later, Unrun created.1 later kernel.taskCount →
        ∃ info, taskStackGetInfo later (some kernel.taskCount) true = some info ∧
          info.Fresh words) := by
  dsimp only
  constructor
  · rw [taskCreate_ok_iff free, taskCreateCheck_ok_iff, taskStackIsValid_iff, minimum, highest]
  · intro returned
    have checked := (taskCreate_ok_iff free).mp returned
    have created := (taskCreate_accepted free checked).2
    have enough := (taskStackIsValid_iff.mp (taskCreateCheck_ok checked).2).2.2.2.1
    obtain ⟨geometry, saved, valid⟩ := created.saved checked
    have base : ((taskCreate cfg kernel config).1.tasks kernel.taskCount).stackBase =
        config.stackMemory := by
      rw [created.task]
      rfl
    have size : ((taskCreate cfg kernel config).1.tasks kernel.taskCount).stackSizeWords =
        config.stackSizeWords := by
      rw [created.task]
      rfl
    have top := geometry.top
    rw [base, size] at top
    refine ⟨base, top, ?_, ?_, created.halted, kernelStackGeometryValid_of_ok geometry,
      kernelSavedSpValid_of_valid valid, valid, ?_⟩
    · intro i small
      rw [saved]
      obtain ⟨place, inside⟩ := geometry.frame_inside small
      refine ⟨?_, inside⟩
      rw [place, top]
      change _ + 4 * 8 ≤ _
      omega
    · intro memory address outside
      rw [saved] at outside
      change storeWords memory _ _ address = _
      rw [storeWords_eq]
      exact writeBlock_of_outside outside
    · intro later unrun
      obtain ⟨moved, untouched⟩ := created.untouched checked unrun
      have same : (later.tasks kernel.taskCount).stackSizeWords = config.stackSizeWords :=
        unrun.kept.stackSizeWords.trans size
      refine ⟨_, created.getInfo unrun, ?_⟩
      rw [← same]
      exact untouched.info_fresh moved (by rw [same]; omega) (unrun.inBounds valid)

/-- The smallest stack, at the highest address where it fits. -/
def highestStack : TaskConfig := ⟨0x08001001#32, 7, 0xFFFFFF78#32, 32, 31⟩

theorem highest_stack_sound :
    (taskCreate Config.default Kernel.reset highestStack).2 = .ok ∧
      ∃ info, taskStackGetInfo (taskCreate Config.default Kernel.reset highestStack).1 (some 0)
        true = some info ∧ info.Fresh 32 := by
  have free : Kernel.reset.taskCount < Config.default.maxTasks := by decide
  obtain ⟨accepts, sound⟩ := accepted_stacks_sound rfl rfl free highestStack
  have returned := accepts.mpr (by decide)
  have created := (taskCreate_accepted free ((taskCreate_ok_iff free).mp returned)).2
  obtain ⟨_, _, _, _, _, _, _, _, reports⟩ := sound returned
  exact ⟨returned, reports _ created.unrun⟩

/-- The first frame spares the guard exactly when the stack has room for both. -/
theorem first_frame_spares_guard_iff
    {cfg : Config} {kernel : Kernel} {config : TaskConfig}
    (free : kernel.taskCount < cfg.maxTasks)
    (accepted : (taskCreate cfg kernel config).2 = .ok) :
    let created := (taskCreate cfg kernel config).1
    let task := created.tasks kernel.taskCount
    ((∀ i < 16, ∀ j < taskStackGuardWords, wordAt task.savedSp i ≠ wordAt task.stackBase j) ∧
      ∃ info, taskStackGetInfo created (some kernel.taskCount) true = some info ∧
        info.guardIntact = true ∧ info.overflowDetected = false) ↔
      24 ≤ config.stackSizeWords.toNat := by
  dsimp only
  have checked := (taskCreate_ok_iff free).mp accepted
  have created := (taskCreate_accepted free checked).2
  have reported := created.getInfo created.unrun
  obtain ⟨geometry, untouched⟩ := created.untouched checked created.unrun
  obtain ⟨_, saved, valid⟩ := created.saved checked
  have inBounds := created.unrun.inBounds valid
  have size : ((taskCreate cfg kernel config).1.tasks kernel.taskCount).stackSizeWords =
      config.stackSizeWords := by
    rw [created.task]
    rfl
  generalize (taskCreate cfg kernel config).1 = after at *
  generalize after.tasks kernel.taskCount = task at *
  rw [← size]
  constructor
  · rintro ⟨_, info, same, intact, _⟩
    rw [reported] at same
    rw [← Option.some.inj same] at intact
    exact untouched.guardIntact_iff.mp intact
  · intro large
    have fresh := untouched.info_fresh geometry large inBounds
    refine ⟨?_, _, reported, fresh.guardIntact, fresh.overflowDetected⟩
    intro i small j guarded same
    have bound := task.stackTop.isLt
    have top := geometry.top
    change j < 8 at guarded
    have place := (geometry.frame_inside small).1
    rw [← saved, same, wordAt_toNat (by omega)] at place
    omega

/-- A configuration that passes every static assertion with the smallest minimum. -/
def contextSizedStacks : Config :=
  { Config.default with
    minTaskStackWords := 16
    guard_lt_minStack := by decide
    context_le_minStack := by decide
    minStack_le_idleStack := by decide }

/-- A stack with room for the first frame and nothing else. -/
def contextSizedStack : TaskConfig := ⟨0x08001001#32, 0, 0x20001000#32, 16, 1⟩

theorem context_sized_stack_overflows :
    (taskCreate contextSizedStacks Kernel.reset contextSizedStack).2 = .ok ∧
      ¬∃ info, taskStackGetInfo (taskCreate contextSizedStacks Kernel.reset contextSizedStack).1
        (some 0) true = some info ∧ info.guardIntact = true ∧ info.overflowDetected = false := by
  have reported : (taskStackGetInfo (taskCreate contextSizedStacks Kernel.reset
      contextSizedStack).1 (some 0) true).map TaskStackInfo.guardIntact = some false := by
    decide +kernel
  refine ⟨by decide +kernel, ?_⟩
  rintro ⟨info, same, intact, _⟩
  rw [same, Option.map_some, intact] at reported
  exact absurd (Option.some.inj reported) Bool.noConfusion

/-- The smallest stack that keeps its guard. -/
theorem guard_sized_stack_spared :
    let config : TaskConfig := { contextSizedStack with stackSizeWords := 24 }
    (taskCreate contextSizedStacks Kernel.reset config).2 = .ok ∧
      ∃ info, taskStackGetInfo (taskCreate contextSizedStacks Kernel.reset config).1 (some 0)
        true = some info ∧ info.guardIntact = true ∧ info.overflowDetected = false := by
  dsimp only
  have free : Kernel.reset.taskCount < contextSizedStacks.maxTasks := by decide
  have accepted : (taskCreate contextSizedStacks Kernel.reset
      { contextSizedStack with stackSizeWords := 24 }).2 = .ok := by decide +kernel
  exact ⟨accepted, ((first_frame_spares_guard_iff free accepted).mpr (by decide)).2⟩

end ForgeKernel
