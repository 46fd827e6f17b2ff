import Mathlib.Data.List.GetD
import ForgeKernel.Invariant.StackMemory
import ForgeKernel.Model.Context

/-!
# Saved contexts

A task that is not running keeps its context in sixteen words at its saved stack pointer: the
context with which it was last preempted, or the synthetic one that `fr_task_create` built.  The
words lie inside its stack, so whatever spares that stack spares the context.
-/

namespace ForgeKernel

open WordMemory Machines

/-! ## Contexts in memory -/

/-- The context that a restore from `savedSp` loads. -/
def savedContext (memory : Word → Word) (savedSp : Word) : Context :=
  ⟨savedSp + 32, loadEight memory savedSp, loadEight memory (savedSp + 32)⟩

theorem loadEight_apply (memory : Word → Word) (address : Word) (i : Fin 8) :
    loadEight memory address i = memory (wordAt address i) := rfl

theorem wordAt_eight (savedSp : Word) : savedSp + 32 = wordAt savedSp 8 := rfl

/-- Only the sixteen words matter. -/
theorem savedContext_congr
    {memory other : Word → Word} {savedSp : Word}
    (same : ∀ i < 16, other (wordAt savedSp i) = memory (wordAt savedSp i)) :
    savedContext other savedSp = savedContext memory savedSp := by
  have registers : loadEight other savedSp = loadEight memory savedSp :=
    funext fun i => same i (by omega)
  have frame : loadEight other (savedSp + 32) = loadEight memory (savedSp + 32) := by
    funext i
    rw [loadEight_apply, loadEight_apply, wordAt_eight, wordAt_add]
    exact same (8 + i) (by omega)
  unfold savedContext
  rw [registers, frame]

/-- Eight stored words are a block. -/
theorem storeEight_eq (memory : Word → Word) (address : Word) (words : EightWords) :
    storeEight memory address words =
      writeBlock memory address (fun i => (List.ofFn words).getD i 0) 8 := by
  unfold storeEight
  rw [storeWords_eq, List.length_ofFn]

/-- Eight words that were stored are loaded back. -/
theorem loadEight_storeEight (memory : Word → Word) (address : Word) (words : EightWords) :
    loadEight (storeEight memory address words) address = words := by
  funext i
  rw [loadEight_apply, storeEight_eq, writeBlock_wordAt _ _ _ i.isLt (by decide),
    List.getD_eq_getElem _ _ (by rw [List.length_ofFn]; exact i.isLt), List.getElem_ofFn]

/-- Registers stored below a hardware frame make a context. -/
theorem savedContext_stacked
    (memory : Word → Word) (savedSp : Word) (registers frame : EightWords) :
    savedContext (storeEight (storeEight memory (savedSp + 32) frame) savedSp registers) savedSp =
      ⟨savedSp + 32, registers, frame⟩ := by
  have spared : loadEight (storeEight (storeEight memory (savedSp + 32) frame) savedSp registers)
      (savedSp + 32) = loadEight (storeEight memory (savedSp + 32) frame) (savedSp + 32) := by
    funext i
    rw [loadEight_apply, loadEight_apply, storeEight_eq _ savedSp, writeBlock_of_outside]
    intro index small same
    rw [wordAt_eight, wordAt_add] at same
    have equal := wordAt_injective (by omega) (by omega) same
    omega
  unfold savedContext
  rw [loadEight_storeEight, spared, loadEight_storeEight]

/-- Stacking a context leaves everything else alone. -/
theorem stacked_of_apart
    {memory : Word → Word} {savedSp address : Word} {registers frame : EightWords}
    (fits : savedSp.toNat + 64 ≤ 2 ^ 32)
    (apart : address.toNat < savedSp.toNat ∨ savedSp.toNat + 64 ≤ address.toNat) :
    storeEight (storeEight memory (savedSp + 32) frame) savedSp registers address =
      memory address := by
  rw [storeEight_eq, writeBlock_of_apart (by omega) (by omega), storeEight_eq]
  apply writeBlock_of_outside
  intro index small same
  rw [wordAt_eight, wordAt_add] at same
  have place := congrArg BitVec.toNat same
  rw [wordAt_toNat (by omega)] at place
  omega

/-! ## Stacks of all tasks -/

/-- Tasks that have a stack: idle, and the registered ones. -/
def Kernel.stackOwners (kernel : Kernel) : List TaskRef :=
  .idle :: (List.range kernel.taskCount).map TaskRef.user

/-- The control block that describes the stack of a task; that of idle is written when the
scheduler starts. -/
def Kernel.stackTask (cfg : Config) (kernel : Kernel) : TaskRef → Task
  | .idle => schedulerIdleTask cfg
  | .user index => kernel.tasks index

/-- An address in a stack. -/
def Task.OnStack (task : Task) (address : Word) : Prop :=
  task.stackBase ≤ address ∧ address < task.stackTop

instance onStackDecidable (task : Task) (address : Word) : Decidable (task.OnStack address) :=
  inferInstanceAs (Decidable (_ ∧ _))

/-- Stacks of different tasks do not overlap. -/
def Kernel.StacksApart (cfg : Config) (kernel : Kernel) : Prop :=
  ∀ first ∈ kernel.stackOwners, ∀ second ∈ kernel.stackOwners, first ≠ second →
    (kernel.stackTask cfg first).stackTop ≤ (kernel.stackTask cfg second).stackBase ∨
      (kernel.stackTask cfg second).stackTop ≤ (kernel.stackTask cfg first).stackBase

instance stacksApartDecidable (cfg : Config) (kernel : Kernel) :
    Decidable (kernel.StacksApart cfg) :=
  inferInstanceAs (Decidable (∀ _ ∈ _, ∀ _ ∈ _, _ → _))

/-- Registered tasks and the idle task own a stack. -/
theorem Kernel.mem_stackOwners {kernel : Kernel} {ref : TaskRef} :
    ref ∈ kernel.stackOwners ↔ ∀ index, ref = .user index → index < kernel.taskCount := by
  cases ref with
  | idle => simp [stackOwners]
  | user index => simp [stackOwners]

theorem Kernel.user_owner {kernel : Kernel} {index : Nat} (small : index < kernel.taskCount) :
    .user index ∈ kernel.stackOwners := by
  rw [mem_stackOwners]
  rintro other ⟨⟩
  exact small

/-- An address that is not on a stack lies below or above it. -/
theorem Task.outside_of_not_onStack
    {task : Task} {address : Word} (outside : ¬task.OnStack address) :
    address < task.stackBase ∨ task.stackTop ≤ address := by
  unfold Task.OnStack at outside
  rw [BitVec.le_def, BitVec.lt_def] at *
  omega

/-- No address is on the stacks of two tasks. -/
theorem Kernel.StacksApart.not_onStack
    {cfg : Config} {kernel : Kernel} (apart : kernel.StacksApart cfg) {first second : TaskRef}
    (firstOwner : first ∈ kernel.stackOwners) (secondOwner : second ∈ kernel.stackOwners)
    (different : first ≠ second) {address : Word}
    (inside : (kernel.stackTask cfg first).OnStack address) :
    ¬(kernel.stackTask cfg second).OnStack address := by
  rintro ⟨above, below⟩
  obtain ⟨base, top⟩ := inside
  rw [BitVec.le_def, BitVec.lt_def] at *
  rcases apart first firstOwner second secondOwner different with before | after
  · rw [BitVec.le_def] at before
    omega
  · rw [BitVec.le_def] at after
    omega

/-! ## What a task that does not run keeps -/

/-- Tasks that a switch may dispatch: published ones, and idle once the scheduler runs. -/
def Kernel.Dispatchable (kernel : Kernel) : TaskRef → Prop
  | .idle => kernel.running = true
  | .user index => index < kernel.taskCount ∧ (kernel.tasks index).state ≠ .created

/-- The synthetic context of a task that has never run. -/
def Task.FirstContext (cfg : Config) (task : Task) (context : Context) : Prop :=
  context.psp = task.stackTop - 32 ∧ context.r0 = task.argument ∧
    context.lr = cfg.taskReturnTrap ||| 1 ∧ context.pc = task.entry &&& ~~~1

/-- The context in which a task goes on: that of its last preemption, or its first one. -/
def Task.Resumes (cfg : Config) (task : Task) (last : Option Context) (context : Context) : Prop :=
  match last with
  | some saved => context = saved
  | none => task.FirstContext cfg context

/-- The context with which an event leaves a task. -/
def BoardEvent.leaves (ref : TaskRef) : BoardEvent → Option Context
  | .preempted task context => if task = ref then some context else none
  | .resumed _ _ => none

/-- The last context with which a task was preempted. -/
def lastPreempted (ref : TaskRef) (events : List BoardEvent) : Option Context :=
  (events.filterMap (BoardEvent.leaves ref)).getLast?

/-- Resuming a task preempts nobody. -/
theorem lastPreempted_append_resumed
    (ref task : TaskRef) (events : List BoardEvent) (context : Context) :
    lastPreempted ref (events ++ [.resumed task context]) = lastPreempted ref events := by
  unfold lastPreempted
  rw [List.filterMap_append]
  exact congrArg List.getLast? (List.append_nil _)

/-- A preemption replaces the last context of its task only. -/
theorem lastPreempted_append_preempted
    (ref task : TaskRef) (events : List BoardEvent) (context : Context) :
    lastPreempted ref (events ++ [.preempted task context]) =
      if task = ref then some context else lastPreempted ref events := by
  unfold lastPreempted
  rw [List.filterMap_append]
  split
  · rename_i same
    have left : [BoardEvent.preempted task context].filterMap (BoardEvent.leaves ref) =
        [context] := by simp [BoardEvent.leaves, same]
    rw [left, List.getLast?_concat]
  · rename_i other
    have left : [BoardEvent.preempted task context].filterMap (BoardEvent.leaves ref) = [] := by
      simp [BoardEvent.leaves, other]
    rw [left, List.append_nil]

/-- Entry and argument, and the end of the stack, decide what a first context is. -/
theorem Task.Resumes.kept
    {cfg : Config} {before after : Task} {last : Option Context} {context : Context}
    (resumes : before.Resumes cfg last context) (same : before.SameStack after) :
    after.Resumes cfg last context := by
  cases last with
  | some saved => exact resumes
  | none =>
      obtain ⟨psp, argument, trap, entry⟩ := resumes
      exact ⟨same.stackTop.symm ▸ psp, same.argument.symm ▸ argument, trap,
        same.entry.symm ▸ entry⟩

/-- The sixteen words at the saved stack pointer are inside the stack and hold the context in
which the task goes on. -/
structure Task.Holds
    (cfg : Config) (task : Task) (memory : Word → Word) (last : Option Context) : Prop where
  above : task.stackBase ≤ task.savedSp
  below : task.savedSp.toNat + 64 ≤ task.stackTop.toNat
  resumes : task.Resumes cfg last (savedContext memory task.savedSp)

/-- The context that a task holds is on its stack. -/
theorem Task.Holds.onStack
    {cfg : Config} {task : Task} {memory : Word → Word} {last : Option Context}
    (holds : task.Holds cfg memory last) {i : Nat} (small : i < 16) :
    task.OnStack (wordAt task.savedSp i) := by
  have above := holds.above
  have below := holds.below
  have bound := task.stackTop.isLt
  unfold Task.OnStack
  rw [BitVec.le_def, BitVec.lt_def, wordAt_toNat (by omega)]
  rw [BitVec.le_def] at above
  omega

/-- What spares the stack spares the context. -/
theorem Task.Holds.kept
    {cfg : Config} {before after : Task} {memory other : Word → Word} {last : Option Context}
    (holds : before.Holds cfg memory last) (same : before.SameStack after)
    (spared : ∀ address, before.OnStack address → other address = memory address) :
    after.Holds cfg other last where
  above := by
    rw [same.stackBase, same.savedSp]
    exact holds.above
  below := by
    rw [same.savedSp, same.stackTop]
    exact holds.below
  resumes := by
    rw [same.savedSp, savedContext_congr fun i small => spared _ (holds.onStack small)]
    exact holds.resumes.kept same

/-! ## First contexts -/

/-- The synthetic frame that `fr_port_task_stack_init` writes is a first context. -/
theorem portTaskStackInit_firstContext
    {cfg : Config} {task : Task} (memory : Word → Word) :
    task.FirstContext cfg (savedContext
      (portTaskStackInit cfg memory task.stackTop task.entry task.argument).1 task.initialSp) := by
  have word : ∀ i : Fin 8, (savedContext (portTaskStackInit cfg memory task.stackTop task.entry
      task.argument).1 task.initialSp).frame i =
        (initialContext task.entry task.argument cfg.taskReturnTrap).getD (8 + i) 0 := by
    intro i
    unfold savedContext
    dsimp only
    rw [loadEight_apply, wordAt_eight, wordAt_add]
    exact portTaskStackInit_word cfg (by omega)
  refine ⟨?_, word 0, word 5, word 6⟩
  change task.stackTop - 64 + 32 = task.stackTop - 32
  grind

/-- So is the first one. -/
theorem Task.StackOk.initial_onStack
    {cfg : Config} {task : Task} (geometry : task.StackOk cfg) {i : Nat} (small : i < 16) :
    task.OnStack (wordAt task.initialSp i) := by
  obtain ⟨start, _, room⟩ := geometry.initialSp_toNat
  have bound := task.stackTop.isLt
  unfold Task.OnStack
  rw [BitVec.le_def, BitVec.lt_def, wordAt_toNat (by omega), start]
  omega

/-! ## The invariant -/

/-- Contexts of all tasks that do not run, in a system that has emitted `events`. -/
structure ContextsOk (cfg : Config) (events : List BoardEvent) (system : System) : Prop where
  core : Core system
  stacksOk : StacksOk cfg system
  idle : system.kernel.running = true → ∃ savedSp state, system.kernel.idleTask =
    { schedulerIdleTask cfg with
      savedSp := savedSp
      state := state }
  held : system.kernel.halted = none → ∀ ref, system.kernel.Dispatchable ref →
    system.kernel.currentTask ≠ some ref →
    (system.kernel.taskAt ref).Holds cfg system.kernel.stackMemory (lastPreempted ref events)
  built : system.kernel.halted = none → ∀ thread outTask config index initialSp,
    system.frames thread = .inCall (.taskCreate outTask config) (.built index initialSp) →
    (system.kernel.tasks index).FirstContext cfg
      (savedContext system.kernel.stackMemory (system.kernel.tasks index).initialSp)
  fresh : ∀ ref, lastPreempted ref events ≠ none → system.kernel.Dispatchable ref

/-- No step of a task creation has completed a stack. -/
def System.BuildsNothing (system after : System) : Prop :=
  ∀ thread outTask config index initialSp,
    after.frames thread = .inCall (.taskCreate outTask config) (.built index initialSp) →
    system.frames thread = .inCall (.taskCreate outTask config) (.built index initialSp)

/-- Before the start nobody holds a context. -/
theorem ContextsOk.initial (cfg : Config) : ContextsOk cfg [] .boot where
  core := Core.initial
  stacksOk := .initial cfg
  idle running := by cases running
  held _ ref dispatchable := by
    cases ref with
    | idle => cases dispatchable
    | user index => exact absurd dispatchable.1 (Nat.not_lt_zero index)
  built _ _ _ _ _ _ inCall := by cases inCall
  fresh _ preempted := absurd rfl preempted

/-- Events that preempt no task are of no consequence. -/
theorem ContextsOk.emits
    {cfg : Config} {events later : List BoardEvent} {system : System}
    (ok : ContextsOk cfg events system)
    (same : ∀ ref, lastPreempted ref later = lastPreempted ref events) :
    ContextsOk cfg later system where
  core := ok.core
  stacksOk := ok.stacksOk
  idle := ok.idle
  held live ref dispatchable other := same ref ▸ ok.held live ref dispatchable other
  built := ok.built
  fresh ref preempted := ok.fresh ref (same ref ▸ preempted)

section Facts

variable {cfg : Config} {events : List BoardEvent} {system : System}

/-- A task that may be dispatched owns a stack. -/
theorem Kernel.Dispatchable.owner
    {kernel : Kernel} {ref : TaskRef} (dispatchable : kernel.Dispatchable ref) :
    ref ∈ kernel.stackOwners := by
  rw [Kernel.mem_stackOwners]
  rintro index rfl
  exact dispatchable.1

/-- The stack of a task that may be dispatched is the one that its control block describes. -/
theorem ContextsOk.onStack_iff
    (ok : ContextsOk cfg events system) {ref : TaskRef}
    (dispatchable : system.kernel.Dispatchable ref) (address : Word) :
    (system.kernel.stackTask cfg ref).OnStack address ↔
      (system.kernel.taskAt ref).OnStack address := by
  cases ref with
  | idle =>
      obtain ⟨savedSp, state, same⟩ := ok.idle dispatchable
      change _ ↔ system.kernel.idleTask.OnStack address
      rw [same]
      simp only [Task.OnStack, Kernel.stackTask]
  | user index => exact Iff.rfl

/-- A current task may be dispatched. -/
theorem Core.current_dispatchable
    (core : Core system) {current : TaskRef}
    (present : system.kernel.currentTask = some current) :
    system.kernel.Dispatchable current := by
  cases current with
  | idle => exact core.running_of_current present
  | user index =>
      refine ⟨(core.control.user index present).1, fun created => ?_⟩
      rcases core.control.current_active present with state | state
      · exact absurd (created.symm.trans state) (by decide)
      · exact absurd (created.symm.trans state) (by decide)

/-- Steps that keep the slots keep who may be dispatched. -/
theorem Kernel.SameSlots.dispatchable_iff
    {before after : Kernel} (slots : before.SameSlots after)
    (running : after.running = before.running) (ref : TaskRef) :
    after.Dispatchable ref ↔ before.Dispatchable ref := by
  cases ref with
  | idle =>
      change after.running = true ↔ before.running = true
      rw [running]
  | user index =>
      change index < after.taskCount ∧ _ ↔ index < before.taskCount ∧ _
      rw [slots.taskCount, ne_eq, ne_eq, (slots.states index).created_iff]

/-- Steps that keep every control block and the current task, and write no stack but that of the
current task. -/
theorem ContextsOk.quiet
    {after : System} (ok : ContextsOk cfg events system) (core : Core after)
    (stacksOk : StacksOk cfg after) (slots : system.kernel.SameSlots after.kernel)
    (idleTask : after.kernel.idleTask = system.kernel.idleTask)
    (running : after.kernel.running = system.kernel.running)
    (currentTask : after.kernel.currentTask = system.kernel.currentTask)
    (live : after.kernel.halted = none → system.kernel.halted = none)
    (spared : ∀ ref ∈ system.kernel.stackOwners, system.kernel.currentTask ≠ some ref →
      ∀ address, (system.kernel.stackTask cfg ref).OnStack address →
        after.kernel.stackMemory address = system.kernel.stackMemory address)
    (frames : system.BuildsNothing after) :
    ContextsOk cfg events after where
  core := core
  stacksOk := stacksOk
  idle := by
    rw [running, idleTask]
    exact ok.idle
  held := by
    intro unhalted ref dispatchable other
    have before := (slots.dispatchable_iff running ref).mp dispatchable
    rw [currentTask] at other
    have same : (system.kernel.taskAt ref).SameStack (after.kernel.taskAt ref) := by
      cases ref with
      | idle =>
          change system.kernel.idleTask.SameStack after.kernel.idleTask
          rw [idleTask]
          exact .refl _
      | user index => exact slots.kept index
    exact (ok.held (live unhalted) ref before other).kept same fun address inside =>
      spared ref before.owner other address ((ok.onStack_iff before address).mpr inside)
  built := by
    intro unhalted thread outTask config index initialSp inCall
    have earlier := frames thread outTask config index initialSp inCall
    obtain ⟨small, created⟩ := ok.core.reserved thread index (by rw [earlier]; rfl)
    have geometry := (ok.stacksOk.kernel.registered index small).geometry
    have other : system.kernel.currentTask ≠ some (.user index) := fun present =>
      (ok.core.current_dispatchable present).2 created
    have first := ok.built (live unhalted) thread outTask config index initialSp earlier
    have same := slots.kept index
    have initial :
        (after.kernel.tasks index).initialSp = (system.kernel.tasks index).initialSp := by
      unfold Task.initialSp
      rw [same.stackTop]
    rw [initial, savedContext_congr fun i inside =>
      spared _ (Kernel.user_owner small) other _ (geometry.initial_onStack inside)]
    have resumes : (system.kernel.tasks index).Resumes cfg none _ := first
    exact resumes.kept same
  fresh ref preempted := (slots.dispatchable_iff running ref).mpr (ok.fresh ref preempted)

end Facts

/-! ## Updates -/

/-- No primitive update writes stack memory. -/
theorem Kernel.Update.stackMemory {before after : Kernel} (update : before.Update after) :
    after.stackMemory = before.stackMemory := by
  cases update with
  | blocks reason object ticks =>
      rcases schedulerBlockCurrentLocked_cases before reason object ticks with
        refused | ⟨current, trace, _, _, _, _, same⟩
      · rw [refused]
      · rw [same]
        rfl
  | unblocks index result =>
      rcases schedulerUnblockTaskLocked_cases before index result with
        refused | ⟨_, trace, same⟩
      · rw [refused]
      · rw [same]
        rfl
  | requests =>
      rw [schedulerRequestIfNeededLocked_eq]
      rfl
  | reprices => rfl
  | flags => rfl
  | counts => rfl
  | stores => rfl
  | traces => rfl

/-- No critical section writes a stack. -/
theorem Kernel.Updates.stackMemory {before after : Kernel} (updates : before.Updates after) :
    after.stackMemory = before.stackMemory := by
  induction updates with
  | refl => rfl
  | tail _ update inductionHypothesis => exact update.stackMemory.trans inductionHypothesis

end ForgeKernel
