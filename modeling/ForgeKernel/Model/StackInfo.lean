import ForgeKernel.Model.TaskCreate

/-!
# Stack diagnostics

`fr_task_stack_get_info` and the functions it calls, and `fr_task_create` as one
function, for a caller that nothing preempts.  A handle is null or names a slot of
the pool; pointers into the middle of a control block have no counterpart here.
-/

namespace ForgeKernel

/-- `FR_TASK_STACK_GUARD_WORDS`. -/
def taskStackGuardWords : Nat := 8

/-- `fr_task_stack_info_t`. -/
structure TaskStackInfo where
  sizeWords : Word
  guardWords : Word
  usableWords : Word
  minimumFreeWords : Word
  minimumUsableFreeWords : Word
  peakUsedWords : Word
  stackBase : Word
  stackTop : Word
  savedSp : Word
  guardIntact : Bool
  savedSpInBounds : Bool
  savedSpAligned : Bool
  overflowDetected : Bool
  deriving DecidableEq, Repr

/-- The loop of `fr_task_stack_minimum_free_words`: `freeWords` so far, with
`remaining` words left to look at. -/
def taskStackFreeLoop (memory : Word → Word) (stackBase : Word) : Nat → Nat → Nat
  | 0, freeWords => freeWords
  | remaining + 1, freeWords =>
      if memory (stackBase + 4 * BitVec.ofNat 32 freeWords) = taskStackFillPattern then
        taskStackFreeLoop memory stackBase remaining (freeWords + 1)
      else freeWords

/-- `fr_task_stack_minimum_free_words`. -/
def taskStackMinimumFreeWords (memory : Word → Word) (stackBase stackSizeWords : Word) : Word :=
  BitVec.ofNat 32 (taskStackFreeLoop memory stackBase stackSizeWords.toNat 0)

/-- `fr_task_stack_guard_intact`. -/
def taskStackGuardIntact (memory : Word → Word) (stackBase : Word) : Bool :=
  (List.range taskStackGuardWords).all fun i =>
    memory (stackBase + 4 * BitVec.ofNat 32 i) = taskStackFillPattern

/-- `fr_task_handle_is_valid`. -/
def taskHandleIsValid (kernel : Kernel) : Option Nat → Bool
  | none => false
  | some index => decide (index < kernel.taskCount ∧ (kernel.tasks index).id ≠ 0)

/-- What `fr_task_stack_get_info` stores for a control block. -/
def taskStackInfo (memory : Word → Word) (task : Task) : TaskStackInfo :=
  let guardWords := BitVec.ofNat 32 taskStackGuardWords
  let minimumFreeWords :=
    taskStackMinimumFreeWords memory task.stackBase task.stackSizeWords
  let guardIntact := taskStackGuardIntact memory task.stackBase
  let savedSpInBounds := decide (task.stackBase ≤ task.savedSp ∧ task.savedSp ≤ task.stackTop)
  { sizeWords := task.stackSizeWords
    guardWords := guardWords
    usableWords := task.stackSizeWords - guardWords
    minimumFreeWords := minimumFreeWords
    minimumUsableFreeWords :=
      if guardWords < minimumFreeWords then minimumFreeWords - guardWords else 0
    peakUsedWords := task.stackSizeWords - minimumFreeWords
    stackBase := task.stackBase
    stackTop := task.stackTop
    savedSp := task.savedSp
    guardIntact := guardIntact
    savedSpInBounds := savedSpInBounds
    savedSpAligned := task.savedSp &&& 7 = 0
    overflowDetected := !guardIntact || !savedSpInBounds }

/-- `fr_task_stack_get_info`; `none` is the `false` return. -/
def taskStackGetInfo (kernel : Kernel) (task : Option Nat) (outInfo : Bool) :
    Option TaskStackInfo :=
  if outInfo = false then none
  else if taskHandleIsValid kernel task = false then none
  else task.map fun index => taskStackInfo kernel.stackMemory (kernel.tasks index)

/-- `fr_task_info_t`. -/
structure TaskInfo where
  id : Nat
  state : TaskState
  priority : Nat
  basePriority : Nat
  stackSizeWords : Word
  stackBase : Word
  stackTop : Word
  savedSp : Word
  deriving DecidableEq, Repr

/-- `fr_task_get_info`; `none` is the `false` return. -/
def taskGetInfo (kernel : Kernel) (task : Option Nat) (outInfo : Bool) : Option TaskInfo :=
  if outInfo = false then none
  else if taskHandleIsValid kernel task = false then none
  else task.map fun index =>
    let task := kernel.tasks index
    ⟨task.id, task.state, task.priority, task.basePriority, task.stackSizeWords,
      task.stackBase, task.stackTop, task.savedSp⟩

/-- `fr_task_create` from its first check to its return, with both pointers
non-null: the kernel afterwards and the status. -/
def taskCreate (cfg : Config) (kernel : Kernel) (config : TaskConfig) : Kernel × TaskStatus :=
  match taskCreateCheck cfg config with
  | .ok =>
      match taskCreateReserve cfg kernel config with
      | none => (kernel, .noCapacity)
      | some reserved =>
          let built := taskCreateBuild cfg reserved kernel.taskCount
          (taskCreatePublish built.1 kernel.taskCount built.2, .ok)
  | status => (kernel, status)

end ForgeKernel
