import ForgeKernel.Model.Scheduler

/-!
# Task creation

`fr_task_create` in its three parts: a critical section that reserves a slot,
an unprotected stack fill and frame build, and a critical section that
publishes the slot.
-/

namespace ForgeKernel

/-- `fr_task_config_t`. -/
structure TaskConfig where
  entry : Word
  argument : Word
  stackMemory : Word
  stackSizeWords : Word
  priority : Nat
  deriving DecidableEq, Repr

/-- `fr_task_status_t`. -/
inductive TaskStatus
  | ok
  | invalidArgument
  | invalidPriority
  | invalidStack
  | noCapacity
  deriving DecidableEq, Repr

/-- `FR_TASK_STACK_FILL_PATTERN`. -/
def taskStackFillPattern : Word := 0xA5A5A5A5#32

/-- `fr_task_stack_is_valid`. -/
def taskStackIsValid (cfg : Config) (config : TaskConfig) : Bool :=
  if config.stackMemory = 0 then false
  else if config.stackSizeWords.toNat < cfg.minTaskStackWords then false
  else if config.stackSizeWords &&& 1 ≠ 0 then false
  else if config.stackMemory &&& 7 ≠ 0 then false
  else if 0xFFFFFFFF#32 / 4 < config.stackSizeWords then false
  else
    let stackSizeBytes := config.stackSizeWords * 4
    if 0xFFFFFFFF#32 - stackSizeBytes < config.stackMemory then false
    else decide ((config.stackMemory + stackSizeBytes) &&& 7 = 0)

/-- `fr_task_calculate_stack_top`. -/
def taskCalculateStackTop (config : TaskConfig) : Word :=
  config.stackMemory + config.stackSizeWords * 4

/-- `fr_task_stack_fill`. -/
def taskStackFill (memory : Word → Word) (stackBase stackSizeWords : Word) : Word → Word :=
  (List.range stackSizeWords.toNat).foldl
    (fun memory i =>
      Function.update memory (stackBase + 4 * BitVec.ofNat 32 i) taskStackFillPattern)
    memory

/-- The argument checks of `fr_task_create`, after both pointers were found
non-null; `ok` lets the call go on. -/
def taskCreateCheck (cfg : Config) (config : TaskConfig) : TaskStatus :=
  if config.entry = 0 then .invalidArgument
  else if cfg.maxTaskPriority < config.priority then .invalidPriority
  else if taskStackIsValid cfg config = false then .invalidStack
  else .ok

/-- The control block stored by the reserving section.  The wait fields keep
whatever the slot held. -/
def Task.reserve (slot : Task) (index : Nat) (config : TaskConfig) : Task :=
  { slot with
    savedSp := 0
    stackBase := config.stackMemory
    stackTop := taskCalculateStackTop config
    entry := config.entry
    argument := config.argument
    stackSizeWords := config.stackSizeWords
    id := index + 1
    priority := config.priority
    basePriority := config.priority
    state := .created
    waitFlagsMask := 0
    waitFlagsResult := 0
    waitFlagsAll := false
    waitFlagsClearOnExit := false }

/-- The reserving section; `none` when the pool is full. -/
def taskCreateReserve (cfg : Config) (kernel : Kernel) (config : TaskConfig) :
    Option Kernel :=
  if cfg.maxTasks ≤ kernel.taskCount then none
  else
    let index := kernel.taskCount
    let kernel := kernel.setTask index ((kernel.tasks index).reserve index config)
    some { kernel with taskCount := index + 1 }

/-- The unprotected part: fill, frame build and the four assertions on the
initial stack pointer, which is returned. -/
def taskCreateBuild (cfg : Config) (kernel : Kernel) (index : Nat) : Kernel × Word :=
  let task := kernel.tasks index
  let filled := taskStackFill kernel.stackMemory task.stackBase task.stackSizeWords
  let frame := portTaskStackInit cfg filled task.stackTop task.entry task.argument
  let kernel := { kernel with stackMemory := frame.1 }
  if frame.2 ≠ 0 ∧ task.stackBase ≤ frame.2 ∧ frame.2 ≤ task.stackTop ∧
      frame.2 &&& 7 = 0 then (kernel, frame.2)
  else (kernel.halt .assertion, frame.2)

/-- The control block stored by the publishing section. -/
def Task.publish (slot : Task) (initialSp : Word) : Task :=
  { slot with
    savedSp := initialSp
    waitDeadline := 0
    waitObject := none
    waitReason := .none
    waitResult := .pending
    waitHasDeadline := false
    state := .ready }

/-- The publishing section. -/
def taskCreatePublish (kernel : Kernel) (index : Nat) (initialSp : Word) : Kernel :=
  let task := (kernel.tasks index).publish initialSp
  let kernel := kernel.setTask index task
  if task.savedSp ≠ 0 ∧ task.state = .ready ∧ task.waitReason = .none ∧
      task.waitObject = none then
    kernel.record .taskCreate task.id (BitVec.ofNat 32 task.basePriority)
      task.stackSizeWords
  else kernel.halt .assertion

end ForgeKernel
