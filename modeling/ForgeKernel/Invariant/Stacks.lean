import ForgeKernel.Invariant.Updates
import ForgeKernel.Invariant.CoreSteps

/-!
# Stacks and saved stack pointers

Every registered task has the stack geometry that `fr_task_create` checked, and every task
that can be dispatched has a saved stack pointer inside it.  With process stack pointers
inside the stack of the switched-out task, no assertion fails and no trap is reached; any
other stack pointer stops the machine before it is stored.
-/

namespace ForgeKernel

open Machines Scans

/-! ## Geometry -/

/-- The alignment check of the source, in natural numbers. -/
theorem Word.aligned_iff (word : Word) : word &&& 7 = 0 ↔ word.toNat % 8 = 0 := by
  have masked : (word &&& 7).toNat = word.toNat % 8 := by
    rw [BitVec.toNat_and]
    exact Nat.and_two_pow_sub_one_eq_mod word.toNat 3
  rw [← masked, BitVec.toNat_eq]
  rfl

theorem Word.even_iff (word : Word) : word &&& 1 = 0 ↔ word.toNat % 2 = 0 := by
  have masked : (word &&& 1).toNat = word.toNat % 2 := by
    rw [BitVec.toNat_and]
    exact Nat.and_two_pow_sub_one_eq_mod word.toNat 1
  rw [← masked, BitVec.toNat_eq]
  rfl

/-- The geometry that `fr_task_stack_is_valid` accepts, in natural numbers. -/
structure Task.StackOk (cfg : Config) (task : Task) : Prop where
  positive : 0 < task.stackBase.toNat
  enough : cfg.minTaskStackWords ≤ task.stackSizeWords.toNat
  even : task.stackSizeWords.toNat % 2 = 0
  aligned : task.stackBase.toNat % 8 = 0
  top : task.stackTop.toNat = task.stackBase.toNat + 4 * task.stackSizeWords.toNat

/-- `fr_scheduler_saved_sp_valid` in natural numbers. -/
theorem schedulerSavedSpValid_iff {task : Task} {sp : Word} :
    schedulerSavedSpValid task sp = true ↔
      0 < task.stackBase.toNat ∧ 0 < task.stackTop.toNat ∧ 0 < sp.toNat ∧
        task.stackBase.toNat ≤ sp.toNat ∧ sp.toNat ≤ task.stackTop.toNat ∧
        sp.toNat % 8 = 0 := by
  have zero : ∀ word : Word, word = 0 ↔ word.toNat = 0 := fun word => BitVec.toNat_eq
  unfold schedulerSavedSpValid
  split
  · rename_i null
    rw [zero, zero, zero] at null
    constructor
    · intro absurdity
      cases absurdity
    · rintro ⟨base, top, pointer, _⟩
      omega
  · rename_i present
    rw [zero, zero, zero] at present
    rw [decide_eq_true_eq, BitVec.le_def, BitVec.le_def, Word.aligned_iff]
    omega

/-- The stack pointer of the synthetic frame. -/
def Task.initialSp (task : Task) : Word :=
  task.stackTop - initialContextBytes

namespace Task.StackOk

variable {cfg : Config} {task : Task}

/-- A stack that `fr_task_stack_is_valid` accepts has this geometry. -/
theorem of_valid
    {config : TaskConfig} (valid : taskStackIsValid cfg config = true) (slot : Task)
    (index : Nat) : (slot.reserve index config).StackOk cfg := by
  unfold taskStackIsValid at valid
  rw [show 0xFFFFFFFF#32 / 4 = 0x3FFFFFFF#32 by decide] at valid
  split at valid
  · cases valid
  · rename_i present
    split at valid
    · cases valid
    · rename_i enough
      split at valid
      · cases valid
      · rename_i even
        split at valid
        · cases valid
        · rename_i aligned
          split at valid
          · cases valid
          · rename_i small
            dsimp only at valid
            split at valid
            · cases valid
            · rename_i fits
              rw [not_not] at even aligned
              have sizeSmall : config.stackSizeWords.toNat ≤ 0x3FFFFFFF :=
                Nat.le_of_not_lt small
              have bytes : (config.stackSizeWords * 4).toNat =
                  4 * config.stackSizeWords.toNat := by
                rw [BitVec.toNat_mul]
                change config.stackSizeWords.toNat * 4 % 2 ^ 32 = _
                omega
              have room : config.stackMemory.toNat + 4 * config.stackSizeWords.toNat < 2 ^ 32 := by
                have bound : config.stackMemory.toNat ≤
                    (0xFFFFFFFF#32 - config.stackSizeWords * 4).toNat := Nat.le_of_not_lt fits
                rw [BitVec.toNat_sub_of_le, bytes] at bound
                · change _ ≤ 0xFFFFFFFF - _ at bound
                  omega
                · rw [BitVec.le_def, bytes]
                  change _ ≤ 0xFFFFFFFF
                  omega
              refine ⟨?_, Nat.le_of_not_lt enough, (Word.even_iff _).mp even,
                (Word.aligned_iff _).mp aligned, ?_⟩
              · exact Nat.pos_of_ne_zero fun zero => present (BitVec.toNat_eq.mpr zero)
              · change (config.stackMemory + config.stackSizeWords * 4).toNat =
                  config.stackMemory.toNat + 4 * config.stackSizeWords.toNat
                rw [BitVec.toNat_add, bytes]
                exact Nat.mod_eq_of_lt room

/-- The first frame lies inside the stack. -/
theorem initialSp_toNat (geometry : task.StackOk cfg) :
    task.initialSp.toNat = task.stackTop.toNat - 64 ∧ 64 ≤ task.stackTop.toNat ∧
      task.stackBase.toNat + 64 ≤ task.stackTop.toNat := by
  have enough := geometry.enough
  have context := cfg.context_le_minStack
  have top := geometry.top
  have large : task.stackBase.toNat + 64 ≤ task.stackTop.toNat := by omega
  refine ⟨?_, by omega, large⟩
  unfold Task.initialSp initialContextBytes
  rw [BitVec.toNat_sub_of_le]
  · rfl
  · rw [BitVec.le_def]
    change 64 ≤ _
    omega

/-- The first stack pointer passes the check of the scheduler. -/
theorem initialSp_valid (geometry : task.StackOk cfg) :
    schedulerSavedSpValid task task.initialSp = true := by
  obtain ⟨value, _, large⟩ := geometry.initialSp_toNat
  have positive := geometry.positive
  have aligned := geometry.aligned
  have even := geometry.even
  have top := geometry.top
  rw [schedulerSavedSpValid_iff, value]
  omega

/-- The idle stack has this geometry too. -/
theorem idle (cfg : Config) : (schedulerIdleTask cfg).StackOk cfg where
  positive := Nat.pos_of_ne_zero fun zero => cfg.idleStack_ne_null (BitVec.toNat_eq.mpr zero)
  enough := cfg.minStack_le_idleStack
  even := show (128#32).toNat % 2 = 0 by decide
  aligned := (Word.aligned_iff _).mp cfg.idleStack_aligned
  top := by
    change (cfg.idleStackBase + 512#32).toNat = cfg.idleStackBase.toNat + 512
    rw [BitVec.toNat_add]
    exact Nat.mod_eq_of_lt cfg.idleStack_fits

end Task.StackOk

/-! ## The invariant -/

/-- The process stack pointer that `PendSV_Handler` hands over is aligned and inside the stack
of the switched-out task. -/
def soundPsp (system : System) : Action → Prop
  | .pendSv psp => ∀ current ∈ system.kernel.currentTask,
      psp &&& 7 = 0 ∧ (system.kernel.taskAt current).stackBase ≤ psp ∧
        psp ≤ (system.kernel.taskAt current).stackTop
  | _ => True

instance soundPspDecidable (system : System) :
    (action : Action) → Decidable (soundPsp system action)
  | .pendSv _ => inferInstanceAs (Decidable (∀ current ∈ system.kernel.currentTask, _ ∧ _ ∧ _))
  | .sysTick | .invoke _ | .advance | .storeByte _ _ | .storeWord _ _ | .setMasks _ _ _ =>
      .isTrue trivial

/-- A registered task as `fr_task_create` admitted it, with a stack pointer to resume from once
it is published. -/
structure Task.Registered (cfg : Config) (index : Nat) (task : Task) : Prop where
  id : task.id = index + 1
  base : task.basePriority ≤ cfg.maxTaskPriority
  geometry : task.StackOk cfg
  saved : task.state ≠ .created → schedulerSavedSpValid task task.savedSp = true

/-- The idle task once the scheduler has built it. -/
structure Task.IdleBuilt (cfg : Config) (task : Task) : Prop where
  id : task.id = 0
  geometry : task.StackOk cfg
  saved : schedulerSavedSpValid task task.savedSp = true

/-- Stacks of all tasks. -/
structure Kernel.StacksOk (cfg : Config) (kernel : Kernel) : Prop where
  count : kernel.taskCount ≤ cfg.maxTasks
  registered : ∀ index < kernel.taskCount, (kernel.tasks index).Registered cfg index
  idle : kernel.running = true → kernel.idleTask.IdleBuilt cfg
  pending : kernel.pendSv = true → kernel.running = true

/-- Locals of a call that its later parts rely on. -/
def Frame.Prepared (kernel : Kernel) : Frame → Prop
  | .inCall (.taskCreate _ _) (.built index initialSp) =>
      initialSp = (kernel.tasks index).initialSp
  | .inCall .taskYield .svc => kernel.running = true
  | _ => True

/-- Stacks of the tasks and stack pointers in the frames of unfinished calls. -/
structure StacksOk (cfg : Config) (system : System) : Prop where
  kernel : system.kernel.StacksOk cfg
  frames : ∀ thread, (system.frames thread).Prepared system.kernel

/-- The invariant holds when boot code starts. -/
theorem StacksOk.initial (cfg : Config) : StacksOk cfg .boot where
  kernel :=
    { count := Nat.zero_le _
      registered := fun _ small => absurd small (Nat.not_lt_zero _)
      idle := fun running => absurd running Bool.false_ne_true
      pending := fun pending => absurd pending Bool.false_ne_true }
  frames _ := trivial

theorem Frame.Prepared.moved
    {before after : Kernel} {frame : Frame} (prepared : frame.Prepared before)
    (running : before.running = true → after.running = true)
    (tops : ∀ index, frame.reserves = some index →
      (after.tasks index).stackTop = (before.tasks index).stackTop) : frame.Prepared after := by
  unfold Frame.Prepared at prepared ⊢
  split
  · rename_i index initialSp
    rw [show (after.tasks index).initialSp = (before.tasks index).initialSp by
      unfold Task.initialSp
      rw [tops index rfl]]
    exact prepared
  · exact running prepared
  · trivial

/-- The frame of one thread changes. -/
theorem StacksOk.of_step
    {cfg : Config} {system : System} {kernel : Kernel} {memory : Memory} {thread : Thread}
    {frame : Frame} (stacksOk : StacksOk cfg system) (kernelOk : kernel.StacksOk cfg)
    (running : system.kernel.running = true → kernel.running = true)
    (tops : ∀ other index, (system.frames other).reserves = some index →
      (kernel.tasks index).stackTop = (system.kernel.tasks index).stackTop)
    (prepared : frame.Prepared kernel) :
    StacksOk cfg ({ system with
      kernel := kernel
      memory := memory }.setFrame thread frame) where
  kernel := kernelOk
  frames other := by
    change (Function.update system.frames thread frame other).Prepared kernel
    by_cases own : other = thread
    · rw [own, Function.update_self]
      exact prepared
    · rw [Function.update_of_ne own]
      exact (stacksOk.frames other).moved running (tops other)

/-! ## Sequences of primitive updates -/

/-- A task that keeps its stack keeps the geometry. -/
theorem Task.StackOk.kept
    {cfg : Config} {before after : Task} (geometry : before.StackOk cfg)
    (same : before.SameStack after) : after.StackOk cfg := by
  obtain ⟨positive, enough, even, aligned, top⟩ := geometry
  rw [← same.stackBase] at positive aligned top
  rw [← same.stackSizeWords] at enough even top
  rw [← same.stackTop] at top
  exact ⟨positive, enough, even, aligned, top⟩

/-- The check of the saved stack pointer depends on the stack only. -/
theorem Task.SameStack.savedSpValid
    {before after : Task} (same : before.SameStack after) :
    schedulerSavedSpValid after after.savedSp = schedulerSavedSpValid before before.savedSp := by
  unfold schedulerSavedSpValid
  rw [same.savedSp, same.stackBase, same.stackTop]

/-- A task that keeps its stack stays registered as it was. -/
theorem Task.Registered.kept
    {cfg : Config} {index : Nat} {before after : Task} (registered : before.Registered cfg index)
    (same : before.SameStack after) (created : after.state = .created ↔ before.state = .created) :
    after.Registered cfg index where
  id := same.id.trans registered.id
  base := same.basePriority ▸ registered.base
  geometry := registered.geometry.kept same
  saved published := by
    rw [same.savedSpValid]
    exact registered.saved (mt created.mpr published)

/-- Primitive updates keep the stacks. -/
theorem Kernel.StacksOk.framed
    {cfg : Config} {before after : Kernel} (stacksOk : before.StacksOk cfg)
    (framed : before.Framed after) : after.StacksOk cfg where
  count := framed.taskCount ▸ stacksOk.count
  registered index small := (stacksOk.registered index (framed.taskCount ▸ small)).kept
    (framed.kept index) (framed.states index).created_iff
  idle running := by
    rw [framed.idleTask]
    exact stacksOk.idle (framed.running ▸ running)
  pending pending := by
    rw [framed.running]
    rcases framed.pendSv pending with earlier | running
    · exact stacksOk.pending earlier
    · exact running

/-- So do steps made of them. -/
theorem StacksOk.framed
    {cfg : Config} {system after : System} (stacksOk : StacksOk cfg system)
    (framed : system.kernel.Framed after.kernel) (frames : after.frames = system.frames) :
    StacksOk cfg after where
  kernel := stacksOk.kernel.framed framed
  frames thread := by
    rw [frames]
    exact (stacksOk.frames thread).moved (fun running => framed.running.trans running)
      fun index _ => (framed.kept index).stackTop

/-! ## PendSV -/

theorem Kernel.setTaskAt_taskAt (kernel : Kernel) (ref other : TaskRef) (task : Task) :
    (kernel.setTaskAt ref task).taskAt other =
      if other = ref then task else kernel.taskAt other := by
  cases other with
  | idle =>
      change (kernel.setTaskAt ref task).idleTask = _
      rw [setTaskAt_idleTask]
      simp only [eq_comm]
      rfl
  | user index =>
      change (kernel.setTaskAt ref task).tasks index = _
      rw [setTaskAt_tasks]
      simp only [eq_comm]
      rfl

/-- Saving the stack pointer, for user tasks and idle alike. -/
theorem Kernel.savedAt_taskAt (kernel : Kernel) (current : TaskRef) (psp : Word) (ref : TaskRef) :
    (kernel.savedAt current psp).taskAt ref = { kernel.taskAt ref with
      savedSp := if ref = current then psp else (kernel.taskAt ref).savedSp } := by
  unfold savedAt
  rw [setTaskAt_taskAt]
  split
  · rename_i same
    rw [same]
  · rfl

/-- A switch writes the stack pointer of the task it leaves, and states. -/
theorem SwitchDone.taskAt
    {kernel : Kernel} {psp : Word} {current next : TaskRef} {result : Kernel × Word}
    (done : SwitchDone kernel psp current next result) (ref : TaskRef) :
    ∃ state, result.1.taskAt ref = { kernel.taskAt ref with
      savedSp := if ref = current then psp else (kernel.taskAt ref).savedSp
      state := state } := by
  rw [done.kernel]
  split
  · rw [Kernel.savedAt_taskAt]
    exact ⟨_, rfl⟩
  · have stored : ∃ state, ((kernel.savedAt current psp).demoted current).taskAt ref =
        { (kernel.savedAt current psp).taskAt ref with state := state } := by
      unfold Kernel.demoted
      split
      · rw [Kernel.setTaskAt_taskAt]
        split
        · rename_i same
          exact ⟨.ready, by rw [same]⟩
        · exact ⟨_, rfl⟩
      · exact ⟨_, rfl⟩
    obtain ⟨state, stored⟩ := stored
    have switched : ∃ state, (schedulerSwitchTo (kernel.savedAt current psp) current next).taskAt
        ref = { ((kernel.savedAt current psp).demoted current).taskAt ref with
          state := state } := by
      have written : (schedulerSwitchTo (kernel.savedAt current psp) current next).taskAt ref =
          (((kernel.savedAt current psp).demoted current).setTaskAt next
            { ((kernel.savedAt current psp).demoted current).taskAt next with
              state := .running }).taskAt ref := by
        cases ref <;> rfl
      rw [written, Kernel.setTaskAt_taskAt]
      split
      · rename_i same
        exact ⟨.running, by rw [same]⟩
      · exact ⟨_, rfl⟩
    obtain ⟨last, switched⟩ := switched
    exact ⟨last, by rw [switched, stored, Kernel.savedAt_taskAt]⟩

/-- The current task runs or has just blocked. -/
theorem ControlOk.current_active
    {kernel : Kernel} {current : TaskRef} (control : ControlOk kernel)
    (present : kernel.currentTask = some current) :
    (kernel.taskAt current).state = .running ∨ (kernel.taskAt current).state = .blocked := by
  cases current with
  | idle => exact Or.inl (control.idle present)
  | user index => exact (control.user index present).2.2.imp_right And.left

namespace Kernel.StacksOk

variable {cfg : Config} {kernel : Kernel} {psp : Word} {current : TaskRef}

/-- The current task has a stack. -/
theorem current_geometry
    (stacksOk : kernel.StacksOk cfg) (control : ControlOk kernel)
    (running : kernel.running = true) (present : kernel.currentTask = some current) :
    (kernel.taskAt current).StackOk cfg := by
  cases current with
  | idle => exact (stacksOk.idle running).geometry
  | user index => exact (stacksOk.registered index (control.user index present).1).geometry

/-- Every candidate of the scheduler has a stack pointer to resume from. -/
theorem candidate_saved
    (stacksOk : kernel.StacksOk cfg) (running : kernel.running = true) {next : Option Nat}
    (selected : IsBest kernel.priorityOf kernel.candidates next) :
    schedulerSavedSpValid (kernel.taskAt (taskOrIdle next))
      (kernel.taskAt (taskOrIdle next)).savedSp = true := by
  cases next with
  | none => exact (stacksOk.idle running).saved
  | some index =>
      obtain ⟨small, state⟩ := selected.1
      refine (stacksOk.registered index small).saved fun created => ?_
      rcases state with ready | ⟨_, active⟩
      · rw [created] at ready
        cases ready
      · rw [created] at active
        cases active

/-- Its last saved stack pointer passes the check. -/
theorem current_saved
    (stacksOk : kernel.StacksOk cfg) (control : ControlOk kernel)
    (running : kernel.running = true) (present : kernel.currentTask = some current) :
    schedulerSavedSpValid (kernel.taskAt current) (kernel.taskAt current).savedSp = true := by
  cases current with
  | idle => exact (stacksOk.idle running).saved
  | user index =>
      obtain ⟨small, _, state⟩ := control.user index present
      refine (stacksOk.registered index small).saved fun created => ?_
      rcases state with state | ⟨state, _⟩
      · rw [created] at state
        cases state
      · rw [created] at state
        cases state

/-- The stack pointers that the switch accepts. -/
theorem psp_valid_iff
    (stacksOk : kernel.StacksOk cfg) (control : ControlOk kernel)
    (running : kernel.running = true) (present : kernel.currentTask = some current) :
    schedulerSavedSpValid (kernel.taskAt current) psp = true ↔
      psp &&& 7 = 0 ∧ (kernel.taskAt current).stackBase ≤ psp ∧
        psp ≤ (kernel.taskAt current).stackTop := by
  have positive := (stacksOk.current_geometry control running present).positive
  rw [schedulerSavedSpValid_iff, ← Word.aligned_iff, BitVec.le_def, BitVec.le_def]
  constructor
  · rintro ⟨_, _, _, above, below, aligned⟩
    exact ⟨aligned, above, below⟩
  · rintro ⟨aligned, above, below⟩
    exact ⟨positive, by omega, by omega, above, below, aligned⟩

/-- With a stack pointer that the switch accepts every later check passes too. -/
theorem switches
    (stacksOk : kernel.StacksOk cfg) (control : ControlOk kernel)
    (running : kernel.running = true) (present : kernel.currentTask = some current)
    (valid : schedulerSavedSpValid (kernel.taskAt current) psp = true) :
    ∃ next, IsBest kernel.priorityOf kernel.candidates next ∧
      SwitchDone { kernel with pendSv := false } psp current (taskOrIdle next)
        (schedulerSwitchFromIsr { kernel with pendSv := false } psp) := by
  obtain ⟨next, selected, selects⟩ := control.selects_saved running present psp
  have sameTask : ∀ ref, ({ kernel with pendSv := false } : Kernel).taskAt ref =
      kernel.taskAt ref := by
    intro ref
    cases ref <;> rfl
  have active := control.current_active present
  have nextValid : schedulerSavedSpValid
      (({ kernel with pendSv := false }.savedAt current psp).taskAt (taskOrIdle next))
      (({ kernel with pendSv := false }.savedAt current psp).taskAt (taskOrIdle next)).savedSp =
        true := by
    rw [Kernel.savedAt_taskAt, sameTask]
    by_cases same : taskOrIdle next = current
    · rw [if_pos same, same]
      exact valid
    · rw [if_neg same]
      exact stacksOk.candidate_saved running selected
  have cleared : ({ kernel with pendSv := false } : Kernel).currentTask = some current := present
  have done := schedulerSwitchFromIsr_eq cleared running ((sameTask current).symm ▸ active)
    ((sameTask current).symm ▸ valid) selects nextValid
  exact ⟨next, selected, present, running, (sameTask current).symm ▸ active,
    (sameTask current).symm ▸ valid, selects, nextValid, by rw [done], by rw [done]⟩

end Kernel.StacksOk

theorem SwitchDone.control
    {kernel : Kernel} {psp : Word} {current next : TaskRef} {result : Kernel × Word}
    (done : SwitchDone kernel psp current next result) :
    result.1.running = kernel.running ∧ result.1.halted = kernel.halted := by
  have saved := kernel.setTaskAt_control current
    { kernel.taskAt current with savedSp := psp }
  rw [done.kernel]
  split
  · exact ⟨saved.2.1, saved.2.2.2⟩
  · have demoted := (Kernel.demoted_facts (kernel.savedAt current psp) current).2.2
    have stored := Kernel.setTaskAt_control ((kernel.savedAt current psp).demoted current) next
      { ((kernel.savedAt current psp).demoted current).taskAt next with state := .running }
    exact ⟨(stored.2.1.trans demoted.1).trans saved.2.1,
      (stored.2.2.2.trans demoted.2.2).trans saved.2.2.2⟩

/-- A switch whose checks pass reaches no trap. -/
theorem SwitchDone.handler
    {kernel : Kernel} {psp : Word} {current next : TaskRef}
    (done : SwitchDone { kernel with pendSv := false } psp current next
      (schedulerSwitchFromIsr { kernel with pendSv := false } psp))
    (live : kernel.halted = none) :
    pendSvHandler kernel psp = (schedulerSwitchFromIsr { kernel with pendSv := false } psp).1 ∧
      (schedulerSwitchFromIsr { kernel with pendSv := false } psp).2 ≠ 0 := by
  have nonzero : (schedulerSwitchFromIsr { kernel with pendSv := false } psp).2 ≠ 0 := by
    rw [done.stackPointer]
    exact schedulerSavedSpValid_ne_zero done.nextValid
  have running : (schedulerSwitchFromIsr { kernel with pendSv := false } psp).1.halted = none :=
    done.control.2.trans live
  refine ⟨?_, nonzero⟩
  unfold pendSvHandler
  dsimp only
  rw [running, Option.isSome_none, if_neg Bool.false_ne_true, if_neg nonzero]

/-- A stack pointer that fails the check stops the machine. -/
theorem schedulerSwitchFromIsr_rejects
    {kernel : Kernel} {psp : Word} {current : TaskRef}
    (present : kernel.currentTask = some current) (running : kernel.running = true)
    (active : (kernel.taskAt current).state = .running ∨
      (kernel.taskAt current).state = .blocked) (nonzero : psp ≠ 0)
    (refused : schedulerSavedSpValid (kernel.taskAt current) psp = false) :
    schedulerSwitchFromIsr kernel psp = (kernel.halt .assertion, 0) := by
  unfold schedulerSwitchFromIsr
  rw [if_neg nonzero, present]
  dsimp only
  rw [if_neg, if_pos refused]
  rw [running]
  rcases active with state | state <;> simp [state]

/-- Any other stack pointer stops the machine and is not stored. -/
theorem pendSvHandler_rejects
    {kernel : Kernel} {psp : Word} {current : TaskRef} (control : ControlOk kernel)
    (running : kernel.running = true) (present : kernel.currentTask = some current)
    (live : kernel.halted = none)
    (refused : schedulerSavedSpValid (kernel.taskAt current) psp = false) :
    ∃ reason, pendSvHandler kernel psp = { kernel with pendSv := false }.halt reason := by
  have sameTask : ({ kernel with pendSv := false } : Kernel).taskAt current =
      kernel.taskAt current := by
    cases current <;> rfl
  have active := control.current_active present
  rw [← sameTask] at active refused
  unfold pendSvHandler
  dsimp only
  by_cases zero : psp = 0
  · refine ⟨.pendSvInvalid, ?_⟩
    unfold schedulerSwitchFromIsr
    rw [if_pos zero]
    simp [live]
  · refine ⟨.assertion, ?_⟩
    have rejected : schedulerSwitchFromIsr { kernel with pendSv := false } psp = (_, 0) :=
      schedulerSwitchFromIsr_rejects present running active zero refused
    rw [rejected]
    rfl

theorem Kernel.StacksOk.switched
    {cfg : Config} {kernel : Kernel} {psp : Word} {current next : TaskRef}
    (stacksOk : kernel.StacksOk cfg) (control : ControlOk kernel) (live : kernel.halted = none)
    (done : SwitchDone { kernel with pendSv := false } psp current next
      (schedulerSwitchFromIsr { kernel with pendSv := false } psp)) :
    (pendSvHandler kernel psp).StacksOk cfg := by
  obtain ⟨handled, _⟩ := done.handler live
  have idle := done.taskAt .idle
  rw [← handled] at idle
  have halted := done.control.2
  rw [← handled] at halted
  cases pendSvHandler_outcome psp control live with
  | trapped stopped =>
      have stopped := stopped.halted
      rw [halted, live] at stopped
      cases stopped
  | switched resumed =>
      generalize pendSvHandler kernel psp = after at *
      refine ⟨?_, ?_, ?_, fun _ => ?_⟩
      · rw [resumed.taskCount]
        exact stacksOk.count
      · intro index small
        have registered := stacksOk.registered index (resumed.taskCount ▸ small)
        have geometry := registered.geometry
        have unpublished := (resumed.stateMove index).created_iff
        refine ⟨?_, ?_, ?_, fun published => ?_⟩
        · rw [resumed.tasks]
          exact registered.id
        · rw [resumed.tasks]
          exact registered.base
        · rw [resumed.tasks]
          exact ⟨geometry.positive, geometry.enough, geometry.even, geometry.aligned,
            geometry.top⟩
        · have saved := registered.saved (mt unpublished.mpr published)
          rw [resumed.tasks]
          dsimp only
          split
          · rename_i left
            obtain rfl := Option.some.inj (done.present.symm.trans left)
            exact done.valid
          · exact saved
      · intro _
        obtain ⟨state, same⟩ := idle
        obtain ⟨named, geometry, saved⟩ := stacksOk.idle resumed.active
        change after.idleTask = _ at same
        rw [same]
        refine ⟨named, ⟨geometry.positive, geometry.enough, geometry.even, geometry.aligned,
          geometry.top⟩, ?_⟩
        dsimp only
        split
        · rename_i left
          subst left
          exact done.valid
        · exact saved
      · exact resumed.running.trans resumed.active

/-! ## Task creation -/

/-- The steps of `fr_task_create`: a refusal, or its three parts. -/
inductive CreateStep (cfg : Config) (kernel : Kernel) (memory : Memory) :
    Option TaskConfig → Point → StepResult → Prop
  | refuses {config : Option TaskConfig} {status : TaskStatus} (error : status ≠ .ok) :
      CreateStep cfg kernel memory config .entry
        (.reply kernel memory (.taskStatus status none))
  | reserves {config : TaskConfig} {after : Kernel}
      (checked : taskCreateCheck cfg config = .ok)
      (reserved : taskCreateReserve cfg kernel config = some after) :
      CreateStep cfg kernel memory (some config) .entry
        (.goto after memory (.reserved kernel.taskCount))
  | builds {config : Option TaskConfig} {index : Nat} :
      CreateStep cfg kernel memory config (.reserved index)
        (.goto (taskCreateBuild cfg kernel index).1 memory
          (.built index (taskCreateBuild cfg kernel index).2))
  | publishes {config : Option TaskConfig} {index : Nat} {initialSp : Word} :
      CreateStep cfg kernel memory config (.built index initialSp)
        (.reply (taskCreatePublish kernel index initialSp) memory
          (.taskStatus .ok (some index)))

/-- The parts of `fr_task_create`. -/
theorem taskCreateStep_cases
    {cfg : Config} {kernel : Kernel} {memory : Memory} {outTask : Bool}
    {config : Option TaskConfig} {point : Point} {result : StepResult}
    (stepped : taskCreateStep cfg kernel memory outTask config point = some result) :
    CreateStep cfg kernel memory config point result := by
  cases point with
  | entry =>
      simp only [taskCreateStep] at stepped
      split at stepped
      · split at stepped
        · rename_i checked
          split at stepped
          · rename_i reserved
            obtain rfl := Option.some.inj stepped
            exact .reserves checked reserved
          · obtain rfl := Option.some.inj stepped
            exact .refuses (by decide)
        · rename_i error
          obtain rfl := Option.some.inj stepped
          exact .refuses error
      · obtain rfl := Option.some.inj stepped
        exact .refuses (by decide)
  | reserved index =>
      obtain rfl := Option.some.inj stepped
      exact .builds
  | built index initialSp =>
      obtain rfl := Option.some.inj stepped
      exact .publishes
  | _ => cases stepped

/-- A configuration that passes the checks has a valid priority and stack. -/
theorem taskCreateCheck_ok
    {cfg : Config} {config : TaskConfig} (checked : taskCreateCheck cfg config = .ok) :
    config.priority ≤ cfg.maxTaskPriority ∧ taskStackIsValid cfg config = true := by
  unfold taskCreateCheck at checked
  split at checked
  · cases checked
  · split at checked
    · cases checked
    · rename_i priority
      split at checked
      · cases checked
      · rename_i valid
        exact ⟨Nat.le_of_not_lt priority, Bool.eq_true_of_not_eq_false valid⟩

/-- A reservation adds a checked stack. -/
theorem Kernel.StacksOk.reserves
    {cfg : Config} {kernel after : Kernel} {config : TaskConfig} (stacksOk : kernel.StacksOk cfg)
    (checked : taskCreateCheck cfg config = .ok)
    (reserved : taskCreateReserve cfg kernel config = some after) : after.StacksOk cfg := by
  obtain ⟨priority, valid⟩ := taskCreateCheck_ok checked
  obtain ⟨room, rfl⟩ := taskCreateReserve_some reserved
  refine ⟨room, ?_, stacksOk.idle, stacksOk.pending⟩
  intro index small
  change ((kernel.setTask kernel.taskCount
    ((kernel.tasks kernel.taskCount).reserve kernel.taskCount config)).tasks index).Registered cfg
      index
  by_cases new : index = kernel.taskCount
  · rw [new, Kernel.setTask_tasks_self]
    exact ⟨rfl, priority, .of_valid valid _ _, fun published => absurd rfl published⟩
  · have earlier : index < kernel.taskCount := by
      change index < kernel.taskCount + 1 at small
      omega
    rw [Kernel.setTask_tasks_of_ne _ _ new]
    exact stacksOk.registered index earlier

/-- The four assertions on the initial stack pointer hold. -/
theorem taskCreateBuild_eq
    {cfg : Config} {kernel : Kernel} {index : Nat}
    (geometry : (kernel.tasks index).StackOk cfg) :
    taskCreateBuild cfg kernel index =
      ({ kernel with stackMemory := (portTaskStackInit cfg
          (taskStackFill kernel.stackMemory (kernel.tasks index).stackBase
            (kernel.tasks index).stackSizeWords)
          (kernel.tasks index).stackTop (kernel.tasks index).entry
          (kernel.tasks index).argument).1 }, (kernel.tasks index).initialSp) := by
  obtain ⟨_, _, nonzero, above, below, aligned⟩ :=
    schedulerSavedSpValid_iff.mp geometry.initialSp_valid
  unfold taskCreateBuild
  dsimp only
  rw [if_pos]
  · rfl
  · refine ⟨?_, above, below, (Word.aligned_iff _).mpr aligned⟩
    intro zero
    change (kernel.tasks index).initialSp = 0 at zero
    rw [zero] at nonzero
    exact absurd nonzero (by decide)

/-- The assertions of the publishing section hold. -/
theorem taskCreatePublish_eq
    (kernel : Kernel) (index : Nat) {initialSp : Word} (nonzero : initialSp ≠ 0) :
    taskCreatePublish kernel index initialSp =
      (kernel.setTask index ((kernel.tasks index).publish initialSp)).record .taskCreate
        (kernel.tasks index).id (BitVec.ofNat 32 (kernel.tasks index).basePriority)
        (kernel.tasks index).stackSizeWords := by
  unfold taskCreatePublish
  dsimp only
  rw [if_pos]
  · rfl
  · exact ⟨nonzero, rfl, rfl, rfl⟩

/-- A published task resumes from its first frame. -/
theorem Kernel.StacksOk.publishes
    {cfg : Config} {kernel : Kernel} {index : Nat} (stacksOk : kernel.StacksOk cfg)
    (small : index < kernel.taskCount) :
    (taskCreatePublish kernel index (kernel.tasks index).initialSp).StacksOk cfg := by
  have registered := stacksOk.registered index small
  have geometry := registered.geometry
  rw [taskCreatePublish_eq kernel index (schedulerSavedSpValid_ne_zero geometry.initialSp_valid)]
  refine ⟨stacksOk.count, ?_, stacksOk.idle, stacksOk.pending⟩
  intro other bound
  change ((kernel.setTask index ((kernel.tasks index).publish
    (kernel.tasks index).initialSp)).tasks other).Registered cfg other
  by_cases own : other = index
  · rw [own, Kernel.setTask_tasks_self]
    exact ⟨registered.id, registered.base, ⟨geometry.positive, geometry.enough, geometry.even,
      geometry.aligned, geometry.top⟩, fun _ => geometry.initialSp_valid⟩
  · rw [Kernel.setTask_tasks_of_ne _ _ own]
    exact stacksOk.registered other bound

/-! ## Starting the scheduler -/

/-- The assertion on the stack pointer of the idle task holds. -/
theorem schedulerInitializeIdle_eq (cfg : Config) (kernel : Kernel) :
    schedulerInitializeIdle cfg kernel = { kernel with
      stackMemory := (portTaskStackInit cfg kernel.stackMemory (schedulerIdleTask cfg).stackTop
        (schedulerIdleTask cfg).entry (schedulerIdleTask cfg).argument).1
      idleTask := schedulerIdleTask cfg } := by
  have valid := (Task.StackOk.idle cfg).initialSp_valid
  unfold schedulerInitializeIdle
  dsimp only
  rw [if_pos]
  · rfl
  · exact valid

theorem Task.IdleBuilt.of_start (cfg : Config) : (schedulerIdleTask cfg).IdleBuilt cfg where
  id := rfl
  geometry := .idle cfg
  saved := (Task.StackOk.idle cfg).initialSp_valid

section Start

variable {cfg : Config} {kernel : Kernel}

/-- The task that `fr_scheduler_start` selects is idle, or ready. -/
theorem schedulerSelectHighestReady_some
    {index : Nat} (selected : schedulerSelectHighestReady kernel = some index) :
    index < kernel.taskCount ∧ (kernel.tasks index).state = .ready := by
  have best := kernel.selectBest_isBest fun task => task.state = .ready
  change schedulerSelectHighestReady kernel = some index at selected
  unfold schedulerSelectHighestReady at selected
  rw [selected] at best
  exact ⟨best.1.2, of_decide_eq_true best.1.1⟩

/-- The first task of the scheduler has a valid saved stack pointer. -/
theorem Kernel.StacksOk.first_saved
    (stacksOk : kernel.StacksOk cfg) (idle : kernel.idleTask.IdleBuilt cfg) :
    schedulerSavedSpValid (kernel.taskAt (taskOrIdle (schedulerSelectHighestReady kernel)))
      (kernel.taskAt (taskOrIdle (schedulerSelectHighestReady kernel))).savedSp = true := by
  cases selected : schedulerSelectHighestReady kernel with
  | none => exact idle.saved
  | some index =>
      obtain ⟨small, ready⟩ := schedulerSelectHighestReady_some selected
      refine (stacksOk.registered index small).saved fun created => ?_
      rw [created] at ready
      cases ready

/-- Initializing the idle task keeps the stacks. -/
theorem Kernel.StacksOk.prepares (stacksOk : kernel.StacksOk cfg) :
    (schedulerInitializeIdle cfg kernel).StacksOk cfg := by
  rw [schedulerInitializeIdle_eq]
  exact ⟨stacksOk.count, stacksOk.registered, fun _ => .of_start cfg, stacksOk.pending⟩

/-- So does starting the first task. -/
theorem Kernel.StacksOk.startsFirst
    (stacksOk : kernel.StacksOk cfg) (idle : kernel.idleTask.IdleBuilt cfg) :
    (schedulerStartFirst kernel
      (taskOrIdle (schedulerSelectHighestReady kernel))).StacksOk cfg := by
  cases selected : schedulerSelectHighestReady kernel with
  | none =>
      exact ⟨stacksOk.count, stacksOk.registered, fun _ => ⟨idle.id, ⟨idle.geometry.positive,
        idle.geometry.enough, idle.geometry.even, idle.geometry.aligned, idle.geometry.top⟩,
        idle.saved⟩, fun _ => rfl⟩
  | some first =>
      obtain ⟨_, ready⟩ := schedulerSelectHighestReady_some selected
      refine ⟨stacksOk.count, ?_, fun _ => idle, fun _ => rfl⟩
      intro index small
      change ((kernel.setTask first { kernel.tasks first with state := .running }).tasks
        index).Registered cfg index
      have registered := stacksOk.registered index small
      by_cases own : index = first
      · subst own
        rw [Kernel.setTask_tasks_self]
        exact registered.kept ⟨rfl, rfl, rfl, rfl, rfl, rfl, rfl, rfl⟩ (by simp [ready])
      · rw [Kernel.setTask_tasks_of_ne _ _ own]
        exact registered

/-- `fr_scheduler_start` dispatches its first task, unless the `svc` is masked. -/
theorem Kernel.StacksOk.schedulerStart_eq
    (stacksOk : kernel.StacksOk cfg) (stopped : kernel.running = false)
    (live : kernel.halted = none) (cpu : Cpu) :
    let ready := schedulerInitializeIdle cfg kernel
    let started := schedulerStartFirst ready (taskOrIdle (schedulerSelectHighestReady ready))
    schedulerStart cfg cpu kernel = some (if cpu.primask || cpu.faultmask then
      started.halt .svcEscalated else started) := by
  have idle : (schedulerInitializeIdle cfg kernel).idleTask.IdleBuilt cfg := by
    rw [schedulerInitializeIdle_eq]
    exact .of_start cfg
  have unhalted : (schedulerInitializeIdle cfg kernel).halted = none := by
    rw [schedulerInitializeIdle_eq]
    exact live
  have valid := stacksOk.prepares.first_saved idle
  unfold schedulerStart
  rw [if_neg (by simp [stopped])]
  dsimp only
  generalize schedulerInitializeIdle cfg kernel = ready at *
  generalize taskOrIdle (schedulerSelectHighestReady ready) = first at *
  rw [unhalted, Option.isSome_none, if_neg Bool.false_ne_true, if_pos valid]
  have nonzero : ((schedulerStartFirst ready first).taskAt first).savedSp ≠ 0 := by
    have same : ((schedulerStartFirst ready first).taskAt first).savedSp =
        (ready.taskAt first).savedSp := by
      cases first with
      | idle => rfl
      | user index =>
          change (Function.update ready.tasks index _ index).savedSp = _
          rw [Function.update_self]
    rw [same]
    exact schedulerSavedSpValid_ne_zero valid
  unfold portStartFirstTask
  rw [if_neg nonzero]

/-- What stops the first dispatch, if anything. -/
theorem schedulerStart_live
    {cpu : Cpu} {after : Kernel} (stacksOk : kernel.StacksOk cfg) (live : kernel.halted = none)
    (started : schedulerStart cfg cpu kernel = some after) :
    after.halted = none ∨ after.halted = some .svcEscalated := by
  rw [stacksOk.schedulerStart_eq (schedulerStart_stopped started) live cpu] at started
  obtain rfl := Option.some.inj started
  split
  · exact Or.inr rfl
  · left
    rw [schedulerInitializeIdle_eq]
    exact (Kernel.setTaskAt_control _ _ _).2.2.2.trans live

/-- So does `fr_scheduler_start` as a whole. -/
theorem Kernel.StacksOk.starts
    {cpu : Cpu} {after : Kernel} (stacksOk : kernel.StacksOk cfg) (live : kernel.halted = none)
    (started : schedulerStart cfg cpu kernel = some after) : after.StacksOk cfg := by
  have idle : (schedulerInitializeIdle cfg kernel).idleTask.IdleBuilt cfg := by
    rw [schedulerInitializeIdle_eq]
    exact .of_start cfg
  have launched := stacksOk.prepares.startsFirst idle
  rw [stacksOk.schedulerStart_eq (schedulerStart_stopped started) live cpu] at started
  obtain rfl := Option.some.inj started
  split
  · exact ⟨launched.count, launched.registered, launched.idle, launched.pending⟩
  · exact launched

end Start

/-! ## All steps -/

/-- Calls of critical sections only keep no locals for later. -/
theorem Frame.Prepared.plain
    {call : Call} (plain : call.isPlain = true) (kernel : Kernel) (outcome : Outcome) :
    (outcome.frame call).Prepared kernel := by
  cases outcome with
  | reply => trivial
  | goto point =>
      cases call with
      | taskCreate => cases plain
      | taskYield => cases plain
      | schedulerStart => trivial
      | _ => trivial

theorem taskYieldSection_running
    {kernel : Kernel} (yields : taskYieldSection kernel = true) : kernel.running = true := by
  unfold taskYieldSection at yields
  cases running : kernel.running with
  | true => rfl
  | false => simp [running] at yields

namespace StacksOk

variable {cfg : Config} {system : System} {thread : Thread} {point : Point} {result : StepResult}

/-- The stack pointer that a creation will publish is that of the first frame. -/
theorem built
    {outTask : Bool} {config : Option TaskConfig} {index : Nat} {initialSp : Word}
    (stacksOk : StacksOk cfg system)
    (inCall : system.frames thread =
      .inCall (.taskCreate outTask config) (.built index initialSp)) :
    initialSp = (system.kernel.tasks index).initialSp := by
  have prepared := stacksOk.frames thread
  rw [inCall] at prepared
  exact prepared

/-- The three parts of `fr_task_create`. -/
theorem taskCreate
    {outTask : Bool} {config : Option TaskConfig}
    (stacksOk : StacksOk cfg system) (core : Core system)
    (inCall : system.frames thread = .inCall (.taskCreate outTask config) point)
    (stepped : taskCreateStep cfg system.kernel system.memory outTask config point =
      some result) :
    StacksOk cfg ({ system with
      kernel := result.kernel
      memory := result.memory }.setFrame thread
        (result.outcome.frame (.taskCreate outTask config))) := by
  cases taskCreateStep_cases stepped with
  | refuses => exact stacksOk.of_step stacksOk.kernel id (fun _ _ _ => rfl) trivial
  | reserves checked reserved =>
      have kernelOk := stacksOk.kernel.reserves checked reserved
      obtain ⟨_, rfl⟩ := taskCreateReserve_some reserved
      refine stacksOk.of_step kernelOk id (fun other index holds => ?_) trivial
      have older := (core.reserved other index holds).1
      exact congrArg Task.stackTop (Kernel.setTask_tasks_of_ne _ _ older.ne)
  | @builds _ index =>
      have small := (core.reserved thread index (by rw [inCall]; rfl)).1
      rw [taskCreateBuild_eq (stacksOk.kernel.registered index small).geometry]
      have kernelOk := stacksOk.kernel
      exact stacksOk.of_step ⟨kernelOk.count, kernelOk.registered, kernelOk.idle,
        kernelOk.pending⟩ id (fun _ _ _ => rfl) rfl
  | @publishes _ index initialSp =>
      have small := (core.reserved thread index (by rw [inCall]; rfl)).1
      obtain rfl := stacksOk.built inCall
      obtain ⟨control, _, tasks⟩ := taskCreatePublish_facts system.kernel index
        (system.kernel.tasks index).initialSp
      refine stacksOk.of_step (stacksOk.kernel.publishes small)
        (fun running => control.running.trans running) (fun other position _ => ?_) trivial
      change ((taskCreatePublish _ _ _).tasks position).stackTop = _
      rw [tasks]
      by_cases own : position = index
      · rw [own, Function.update_self]
        rfl
      · rw [Function.update_of_ne own]

theorem taskYield
    (stacksOk : StacksOk cfg system)
    (inCall : system.frames thread = .inCall .taskYield point)
    (stepped : taskYieldStep system.cpu system.kernel system.memory point = some result) :
    StacksOk cfg ({ system with
      kernel := result.kernel
      memory := result.memory }.setFrame thread (result.outcome.frame .taskYield)) := by
  have kernelOk := stacksOk.kernel
  cases point with
  | entry =>
      simp only [taskYieldStep] at stepped
      split at stepped
      · rename_i yields
        obtain rfl := Option.some.inj stepped
        exact stacksOk.of_step kernelOk id (fun _ _ _ => rfl) (taskYieldSection_running yields)
      · obtain rfl := Option.some.inj stepped
        exact stacksOk.of_step kernelOk id (fun _ _ _ => rfl) trivial
  | svc =>
      have running := stacksOk.frames thread
      rw [inCall] at running
      simp only [taskYieldStep] at stepped
      split at stepped
      · obtain rfl := Option.some.inj stepped
        exact stacksOk.of_step ⟨kernelOk.count, kernelOk.registered, kernelOk.idle,
          kernelOk.pending⟩ id (fun _ _ _ => rfl) trivial
      · obtain rfl := Option.some.inj stepped
        exact stacksOk.of_step ⟨kernelOk.count, kernelOk.registered, kernelOk.idle,
          fun _ => running⟩ id (fun _ _ _ => rfl) trivial
  | _ => cases stepped

theorem schedulerStart
    (stacksOk : StacksOk cfg system) (core : Core system)
    (active : system.activeThread = some thread)
    (stepped : schedulerStartStep cfg system.cpu system.kernel system.memory point =
      some result) :
    StacksOk cfg ({ system with
      kernel := result.kernel
      memory := result.memory }.setFrame thread (result.outcome.frame .schedulerStart)) := by
  cases point with
  | entry =>
      simp only [schedulerStartStep] at stepped
      split at stepped
      · rename_i after started
        obtain rfl := Option.some.inj stepped
        have stopped := schedulerStart_stopped started
        have outcome := schedulerStart_outcome cfg system.cpu system.kernel
        rw [started] at outcome
        obtain ⟨_, _, _, tasks, _⟩ := outcome.facts core.control stopped
        refine stacksOk.of_step (stacksOk.kernel.starts (core.active_cases active).1 started)
          (fun running => ?_) (fun _ index _ => ?_) trivial
        · rw [stopped] at running
          cases running
        · obtain ⟨state, same, _⟩ := tasks index
          change (after.tasks index).stackTop = _
          rw [same]
      · obtain rfl := Option.some.inj stepped
        exact stacksOk.of_step stacksOk.kernel id (fun _ _ _ => rfl) trivial
  | _ => cases stepped

/-- Every step of a call keeps the stacks. -/
theorem advance
    {call : Call} (stacksOk : StacksOk cfg system) (core : Core system)
    (active : system.activeThread = some thread)
    (inCall : system.frames thread = .inCall call point)
    (stepped : call.step cfg system.cpu system.kernel system.memory thread.slot point =
      some result) :
    StacksOk cfg ({ system with
      kernel := result.kernel
      memory := result.memory }.setFrame thread (result.outcome.frame call)) := by
  cases plain : call.isPlain with
  | true =>
      have framed := (Call.step_updates plain stepped).framed
      exact stacksOk.of_step (stacksOk.kernel.framed framed)
        (fun running => framed.running.trans running)
        (fun _ index _ => (framed.kept index).stackTop)
        (.plain plain _ _)
  | false =>
      cases call with
      | taskCreate => exact stacksOk.taskCreate core inCall stepped
      | taskYield => exact stacksOk.taskYield inCall stepped
      | schedulerStart => exact stacksOk.schedulerStart core active stepped
      | _ => cases plain

/-- A switch keeps the stacks. -/
theorem pendSv
    (stacksOk : StacksOk cfg system) (core : Core system) (psp : Word)
    (live : system.kernel.halted = none) (due : system.pendSvDue = true) :
    StacksOk cfg { system with kernel := pendSvHandler system.kernel psp } := by
  have running := stacksOk.kernel.pending ((Bool.and_eq_true _ _).mp due).1
  obtain ⟨current, present⟩ := core.control.started running
  cases valid : schedulerSavedSpValid (system.kernel.taskAt current) psp with
  | true =>
      obtain ⟨next, _, done⟩ := stacksOk.kernel.switches core.control running present valid
      refine ⟨stacksOk.kernel.switched core.control live done, fun thread => ?_⟩
      obtain ⟨handled, _⟩ := done.handler live
      dsimp only
      rw [handled]
      refine (stacksOk.frames thread).moved (fun _ => done.control.1.trans running)
        fun index _ => ?_
      obtain ⟨state, same⟩ := done.taskAt (.user index)
      change ((schedulerSwitchFromIsr _ _).1.taskAt (.user index)).stackTop = _
      rw [same]
      rfl
  | false =>
      obtain ⟨reason, stopped⟩ :=
        pendSvHandler_rejects core.control running present live valid
      have kernelOk := stacksOk.kernel
      rw [stopped]
      exact ⟨⟨kernelOk.count, kernelOk.registered, kernelOk.idle, fun _ => running⟩,
        fun thread => (stacksOk.frames thread).moved id fun _ _ => rfl⟩

/-- Every step keeps the stacks in order. -/
theorem step
    {after : System} {action : Action} {events : List Event}
    (stacksOk : StacksOk cfg system) (core : Core system)
    (step : system.step cfg action = some (after, events)) : StacksOk cfg after := by
  cases System.stepped step with
  | sysTick =>
      have ticked : system.kernel.Framed system.kernel.ticked :=
        .of_tasks rfl rfl rfl rfl rfl rfl rfl
      exact stacksOk.framed (ticked.trans (sysTickHandler_updates system.kernel).framed) rfl
  | pendSv live due => exact stacksOk.pendSv core _ live due
  | @invoke thread call active user =>
      refine ⟨stacksOk.kernel, fun other => ?_⟩
      change (Function.update system.frames thread (.inCall call .entry) other).Prepared _
      by_cases own : other = thread
      · rw [own, Function.update_self]
        cases call <;> trivial
      · rw [Function.update_of_ne own]
        exact stacksOk.frames other
  | advance active inCall stepped => exact stacksOk.advance core active inCall stepped
  | user =>
      have kernelOk := stacksOk.kernel
      exact ⟨⟨kernelOk.count, kernelOk.registered, kernelOk.idle, kernelOk.pending⟩,
        fun thread => (stacksOk.frames thread).moved id fun _ _ => rfl⟩

/-- The stacks are in order in every state that any run reaches. -/
theorem of_run
    {allowed : System → Action → Prop} {events : List Event}
    (run : (forge cfg).Run allowed events system) : StacksOk cfg system :=
  (run.stateInvariant (motive := fun state => Core state ∧ StacksOk cfg state)
    ⟨Core.initial, .initial cfg⟩
    fun _ _ _ _ held _ stepped => ⟨held.1.step stepped, held.2.step held.1 stepped⟩).2

/-! ## Ways to stop -/

/-- Only an `svc` with interrupts masked stops a call. -/
theorem advance_live
    {call : Call} (stacksOk : StacksOk cfg system) (core : Core system)
    (active : system.activeThread = some thread)
    (inCall : system.frames thread = .inCall call point)
    (stepped : call.step cfg system.cpu system.kernel system.memory thread.slot point =
      some result) :
    result.kernel.halted = none ∨ result.kernel.halted = some .svcEscalated := by
  have live := (core.active_cases active).1
  cases plain : call.isPlain with
  | true => exact Or.inl ((Call.step_updates plain stepped).framed.halted.trans live)
  | false =>
      cases call with
      | taskCreate outTask config =>
          left
          cases taskCreateStep_cases stepped with
          | refuses => exact live
          | reserves _ reserved =>
              obtain ⟨_, rfl⟩ := taskCreateReserve_some reserved
              exact live
          | @builds _ index =>
              have small := (core.reserved thread index (by rw [inCall]; rfl)).1
              rw [taskCreateBuild_eq (stacksOk.kernel.registered index small).geometry]
              exact live
          | @publishes _ index initialSp =>
              have small := (core.reserved thread index (by rw [inCall]; rfl)).1
              have valid := (stacksOk.kernel.registered index small).geometry.initialSp_valid
              obtain rfl := stacksOk.built inCall
              rw [taskCreatePublish_eq _ _ (schedulerSavedSpValid_ne_zero valid)]
              exact live
      | taskYield =>
          cases point with
          | entry =>
              simp only [Call.step, taskYieldStep] at stepped
              split at stepped <;> obtain rfl := Option.some.inj stepped <;> exact Or.inl live
          | svc =>
              simp only [Call.step, taskYieldStep] at stepped
              split at stepped
              · obtain rfl := Option.some.inj stepped
                exact Or.inr rfl
              · obtain rfl := Option.some.inj stepped
                exact Or.inl live
          | _ => cases stepped
      | schedulerStart =>
          cases point with
          | entry =>
              simp only [Call.step, schedulerStartStep] at stepped
              split at stepped
              · rename_i after started
                obtain rfl := Option.some.inj stepped
                exact schedulerStart_live stacksOk.kernel live started
              · obtain rfl := Option.some.inj stepped
                exact Or.inl live
          | _ => cases stepped
      | _ => cases plain

end StacksOk

/-! ## Steps that create no task -/

/-- Calls other than `fr_task_create` leave the slots alone. -/
theorem Core.advance_sameSlots
    {cfg : Config} {system : System} {self : Nat} {call : Call} {point : Point}
    {result : StepResult} (core : Core system)
    (other : ∀ outTask config, call ≠ .taskCreate outTask config)
    (stepped : call.step cfg system.cpu system.kernel system.memory self point = some result) :
    system.kernel.SameSlots result.kernel := by
  cases plain : call.isPlain with
  | true => exact (Call.step_updates plain stepped).framed.toSameSlots
  | false =>
      cases call with
      | taskCreate outTask config => exact absurd rfl (other outTask config)
      | taskYield =>
          cases point with
          | entry | svc =>
              simp only [Call.step, taskYieldStep] at stepped
              split at stepped
              · obtain rfl := Option.some.inj stepped
                exact .of_tasks rfl rfl
              · obtain rfl := Option.some.inj stepped
                exact .of_tasks rfl rfl
          | _ => cases stepped
      | schedulerStart =>
          cases point with
          | entry =>
              simp only [Call.step, schedulerStartStep] at stepped
              split at stepped
              · rename_i after started
                obtain rfl := Option.some.inj stepped
                have outcome := schedulerStart_outcome cfg system.cpu system.kernel
                rw [started] at outcome
                obtain ⟨taskCount, _, states, tasks, _⟩ :=
                  outcome.facts core.control (schedulerStart_stopped started)
                refine ⟨taskCount, fun index => ?_, states⟩
                obtain ⟨state, same, _⟩ := tasks index
                change (system.kernel.tasks index).SameStack (after.tasks index)
                rw [same]
                exact ⟨rfl, rfl, rfl, rfl, rfl, rfl, rfl, rfl⟩
              · obtain rfl := Option.some.inj stepped
                exact .of_tasks rfl rfl
          | _ => cases stepped
      | _ => cases plain

/-- A switch moves states among those the scheduler knows about. -/
theorem SwitchOutcome.states
    {before after : Kernel} {psp : Word} (outcome : SwitchOutcome before psp after) :
    after.taskCount = before.taskCount ∧
      ∀ index, StateMove (before.tasks index).state (after.tasks index).state := by
  cases outcome with
  | trapped stopped =>
      refine ⟨stopped.taskCount, fun index => Or.inl ?_⟩
      obtain ⟨savedSp, same⟩ := stopped.tasks index
      rw [same]
  | switched resumed => exact ⟨resumed.taskCount, resumed.stateMove⟩

end ForgeKernel
