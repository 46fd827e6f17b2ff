import ForgeKernel.Model.Kernel

/-!
# Scheduler

`scheduler.c` with the port routines it calls.  The registry is scanned by
folds over `List.range`; positions below the task count always name a slot, so
the null checks on `fr_task_internal_at` have no branch here.  Functions that
the source calls with interrupts masked map a kernel to a kernel.
-/

namespace ForgeKernel

/-- `fr_scheduler_saved_sp_valid`. -/
def schedulerSavedSpValid (task : Task) (savedSp : Word) : Bool :=
  if task.stackBase = 0 ∨ task.stackTop = 0 ∨ savedSp = 0 then false
  else
    decide (task.stackBase ≤ savedSp ∧ savedSp ≤ task.stackTop ∧ savedSp &&& 7 = 0)

/-- The sixteen words of the synthetic frame, in address order. -/
def initialContext (entry argument returnTrap : Word) : List Word :=
  [0x44444444#32, 0x55555555#32, 0x66666666#32, 0x77777777#32,
    0x88888888#32, 0x99999999#32, 0xAAAAAAAA#32, 0xBBBBBBBB#32,
    argument, 0x11111111#32, 0x22222222#32, 0x33333333#32,
    0x12121212#32, returnTrap ||| 1, entry &&& ~~~1, 0x01000000#32]

/-- Store consecutive words from an address upwards. -/
def storeWords (memory : Word → Word) (address : Word) : List Word → Word → Word
  | [] => memory
  | value :: values => storeWords (Function.update memory address value) (address + 4) values

/-- `fr_port_task_stack_init`: memory with the frame written, and the saved stack
pointer. -/
def portTaskStackInit
    (cfg : Config) (memory : Word → Word) (stackTop entry argument : Word) :
    (Word → Word) × Word :=
  let savedSp := stackTop - initialContextBytes
  (storeWords memory savedSp (initialContext entry argument cfg.taskReturnTrap), savedSp)

/-- The idle control block written by `fr_scheduler_initialize_idle`. -/
def schedulerIdleTask (cfg : Config) : Task where
  savedSp := cfg.idleStackBase + 4 * idleStackWords - initialContextBytes
  stackBase := cfg.idleStackBase
  stackTop := cfg.idleStackBase + 4 * idleStackWords
  entry := cfg.idleEntry
  argument := 0
  stackSizeWords := idleStackWords
  id := 0
  priority := 0
  basePriority := 0
  state := .ready
  waitDeadline := 0
  waitObject := none
  waitReason := .none
  waitResult := .pending
  waitHasDeadline := false
  waitFlagsMask := 0
  waitFlagsResult := 0
  waitFlagsAll := false
  waitFlagsClearOnExit := false

/-- `fr_scheduler_initialize_idle`. -/
def schedulerInitializeIdle (cfg : Config) (kernel : Kernel) : Kernel :=
  let idle := schedulerIdleTask cfg
  let frame := portTaskStackInit cfg kernel.stackMemory
    idle.stackTop idle.entry idle.argument
  let kernel := { kernel with stackMemory := frame.1 }
  if schedulerSavedSpValid idle frame.2 then
    { kernel with idleTask := { idle with savedSp := frame.2 } }
  else kernel.halt .assertion

/-- One iteration of a registry scan that keeps the first task of maximal
effective priority among the eligible ones. -/
def Kernel.selectStep
    (kernel : Kernel) (eligible : Task → Bool)
    (selected : Option Nat) (index : Nat) : Option Nat :=
  if eligible (kernel.tasks index) then
    match selected with
    | none => some index
    | some best =>
        if (kernel.tasks best).priority < (kernel.tasks index).priority then some index
        else some best
  else selected

/-- The scan shared by `fr_scheduler_select_highest_ready` and
`fr_scheduler_select_waiter_locked`. -/
def Kernel.selectBest (kernel : Kernel) (eligible : Task → Bool) : Option Nat :=
  (List.range kernel.taskCount).foldl (kernel.selectStep eligible) none

/-- The fallback on the idle task when a scan found no user task. -/
def taskOrIdle : Option Nat → TaskRef
  | none => .idle
  | some index => .user index

/-- `fr_scheduler_select_highest_ready`. -/
def schedulerSelectHighestReady (kernel : Kernel) : Option Nat :=
  kernel.selectBest fun task => task.state = .ready

/-- One iteration of the cyclic scan in `fr_scheduler_select_next`. -/
def schedulerSelectNextStep
    (kernel : Kernel) (current : Nat)
    (selected : Option Nat) (offset : Nat) : Option Nat :=
  let index :=
    if kernel.taskCount ≤ current + offset then current + offset - kernel.taskCount
    else current + offset
  if (kernel.tasks index).state ≠ .ready then selected
  else
    match selected with
    | none => some index
    | some best =>
        if (kernel.tasks best).priority < (kernel.tasks index).priority ∨
            ((kernel.tasks index).priority = (kernel.tasks best).priority ∧
              best = current) then some index
        else some best

/-- `fr_scheduler_select_next`. -/
def schedulerSelectNext (kernel : Kernel) : Option TaskRef → Option TaskRef
  | none => none
  | some .idle => some (taskOrIdle (schedulerSelectHighestReady kernel))
  | some (.user current) =>
      let state := (kernel.tasks current).state
      if state ≠ .running ∧ state ≠ .blocked then none
      else
        match (List.range kernel.taskCount).find? (· = current) with
        | none => none
        | some currentIndex =>
            let selected := if state = .running then some currentIndex else none
            some (taskOrIdle ((List.range' 1 (kernel.taskCount - 1)).foldl
              (schedulerSelectNextStep kernel currentIndex) selected))

/-- `fr_scheduler_current_task`: the public handle hides the idle task. -/
def schedulerCurrentTask (kernel : Kernel) : Option Nat :=
  match kernel.currentTask with
  | some (.user index) => some index
  | _ => none

/-- `fr_scheduler_current_saved_sp`, zero for null. -/
def schedulerCurrentSavedSp (kernel : Kernel) : Word :=
  match kernel.currentTask with
  | none => 0
  | some current => (kernel.taskAt current).savedSp

/-- The last stores of `fr_scheduler_start`: the selected task starts to run. -/
def schedulerStartFirst (kernel : Kernel) (first : TaskRef) : Kernel :=
  let task := kernel.taskAt first
  let kernel := { kernel with pendSv := false }
  let kernel := kernel.setTaskAt first { task with state := .running }
  let kernel := { kernel with
    currentTask := some first
    running := true
    counters := ⟨0, 0, 0, 0, 0⟩ }
  kernel.record .schedulerStart task.id
    (BitVec.ofNat 32 kernel.taskCount) (BitVec.ofNat 32 task.priority)

/-- `fr_port_start_first_task` and `SVC_Handler`; the `svc` escalates under PRIMASK
or FAULTMASK. -/
def portStartFirstTask (cpu : Cpu) (kernel : Kernel) (first : TaskRef) : Kernel :=
  if cpu.primask || cpu.faultmask then kernel.halt .svcEscalated
  else if (kernel.taskAt first).savedSp = 0 then kernel.halt .svcInvalid
  else kernel

/-- `fr_scheduler_start` once interrupts are masked; `none` when it refuses. -/
def schedulerStart (cfg : Config) (cpu : Cpu) (kernel : Kernel) : Option Kernel :=
  if kernel.running then none
  else
    let kernel := schedulerInitializeIdle cfg kernel
    let first := taskOrIdle (schedulerSelectHighestReady kernel)
    let task := kernel.taskAt first
    if kernel.halted.isSome then some kernel
    else if schedulerSavedSpValid task task.savedSp then
      some (portStartFirstTask cpu (schedulerStartFirst kernel first) first)
    else some (kernel.halt .assertion)

/-- The control block of a task whose wait has just ended. -/
def Task.endWait (task : Task) (result : WaitResult) (state : TaskState) : Task :=
  { task with
    waitResult := result
    waitReason := .none
    waitObject := none
    waitHasDeadline := false
    waitDeadline := 0
    waitFlagsMask := 0
    waitFlagsAll := false
    waitFlagsClearOnExit := false
    state := state }

/-- `fr_scheduler_unblock_task_locked`. -/
def schedulerUnblockTaskLocked
    (kernel : Kernel) (index : Nat) (result : WaitResult) : Kernel × Bool :=
  let task := kernel.tasks index
  if task.state ≠ .blocked ∨ task.waitReason = .none ∨
      (result ≠ .timeout ∧ result ≠ .signaled) then (kernel, false)
  else
    let kernel :=
      if result = .timeout then
        kernel.record .taskTimeout task.id task.waitReason.code task.waitDeadline
      else kernel
    let state : TaskState :=
      if kernel.currentTask = some (.user index) then .running else .ready
    let woken := task.endWait result state
    let kernel := kernel.setTask index woken
    if woken.waitReason = .none ∧ woken.waitObject = none ∧
        woken.waitHasDeadline = false ∧ woken.waitDeadline = 0 ∧
        (woken.state = .running ∨ woken.state = .ready) then
      (kernel.record .taskUnblock task.id task.waitReason.code result.code, true)
    else (kernel.halt .assertion, true)

/-- The control block of a task that starts to wait at tick `now`. -/
def Task.beginWait
    (task : Task) (reason : WaitReason) (waitObject : Option ObjectRef)
    (timeoutTicks now : Word) : Task :=
  { task with
    waitObject := waitObject
    waitReason := reason
    waitResult := .pending
    waitHasDeadline := timeoutTicks ≠ waitForever
    waitDeadline := if timeoutTicks = waitForever then 0 else now + timeoutTicks
    state := .blocked }

/-- `fr_scheduler_block_current_locked`. -/
def schedulerBlockCurrentLocked
    (kernel : Kernel) (reason : WaitReason) (waitObject : Option ObjectRef)
    (timeoutTicks : Word) : Kernel × Bool :=
  if (reason ≠ .sleep ∧ reason.usesObject = false) ∨
      (reason = .sleep ∧ waitObject ≠ none) ∨
      (reason.usesObject = true ∧ waitObject = none) ∨
      timeoutTicks = 0 ∨
      (waitMaxFiniteTicks < timeoutTicks ∧ timeoutTicks ≠ waitForever) then
    (kernel, false)
  else
    match kernel.currentTask with
    | some (.user current) =>
        if kernel.running = false ∨ (kernel.tasks current).state ≠ .running then
          (kernel, false)
        else
          let task := (kernel.tasks current).beginWait reason waitObject
            timeoutTicks kernel.tickCount
          let kernel := kernel.setTask current task
          if task.waitReason ≠ .none ∧ task.waitResult = .pending ∧
              task.state = .blocked then
            let kernel := kernel.record .taskBlock task.id reason.code timeoutTicks
            (kernel.portRequestContextSwitch, true)
          else (kernel.halt .assertion, true)
    | _ => (kernel, false)

/-- Tasks that `fr_scheduler_select_waiter_locked` may select. -/
def Task.waitsOn (reason : WaitReason) (object : ObjectRef) (task : Task) : Bool :=
  task.state = .blocked && task.waitReason = reason &&
    task.waitResult = .pending && task.waitObject = some object

/-- `fr_scheduler_select_waiter_locked`; every caller passes one of the four
accepted reasons and a non-null object. -/
def schedulerSelectWaiterLocked
    (kernel : Kernel) (reason : WaitReason) (object : ObjectRef) : Option Nat :=
  kernel.selectBest (Task.waitsOn reason object)

/-- `fr_scheduler_request_if_needed_locked`. -/
def schedulerRequestIfNeededLocked (kernel : Kernel) : Kernel :=
  if kernel.running = false then kernel
  else
    match schedulerSelectNext kernel kernel.currentTask with
    | none => kernel
    | some next =>
        if kernel.currentTask = some next then kernel
        else kernel.portRequestContextSwitch

/-- The last stores of `fr_scheduler_switch_from_isr`, when the selection differs
from the current task. -/
def schedulerSwitchTo (kernel : Kernel) (current next : TaskRef) : Kernel :=
  let task := kernel.taskAt current
  let nextTask := kernel.taskAt next
  let kernel :=
    if task.state = .running then kernel.setTaskAt current { task with state := .ready }
    else kernel
  let kernel := kernel.setTaskAt next { kernel.taskAt next with state := .running }
  let kernel := { kernel with
    currentTask := some next
    counters := { kernel.counters with
      contextSwitchCount := kernel.counters.contextSwitchCount + 1 } }
  kernel.record .contextSwitch nextTask.id
    (BitVec.ofNat 32 task.id) (BitVec.ofNat 32 nextTask.id)

/-- `fr_scheduler_switch_from_isr`: the kernel afterwards and the stack pointer
to restore, zero for null. -/
def schedulerSwitchFromIsr (kernel : Kernel) (currentSavedSp : Word) : Kernel × Word :=
  if currentSavedSp = 0 then (kernel, 0)
  else
    match kernel.currentTask with
    | none => (kernel, 0)
    | some current =>
        let task := kernel.taskAt current
        if kernel.running = false ∨ (task.state ≠ .running ∧ task.state ≠ .blocked) then
          (kernel, 0)
        else if schedulerSavedSpValid task currentSavedSp = false then
          (kernel.halt .assertion, 0)
        else
          let kernel := kernel.setTaskAt current { task with savedSp := currentSavedSp }
          match schedulerSelectNext kernel (some current) with
          | none => (kernel, 0)
          | some next =>
              let nextTask := kernel.taskAt next
              if schedulerSavedSpValid nextTask nextTask.savedSp = false then
                (kernel.halt .assertion, 0)
              else if next = current then (kernel, nextTask.savedSp)
              else (schedulerSwitchTo kernel current next, nextTask.savedSp)

/-- How the critical section of a call ends: the call returns, or it leaves the
section with the caller blocked. -/
inductive Progress (α : Type)
  | returned (value : α)
  | waiting
  deriving DecidableEq, Repr

/-- `PendSV_Handler`: the pending bit is cleared on entry, and a null return
reaches the `udf` trap. -/
def pendSvHandler (kernel : Kernel) (psp : Word) : Kernel :=
  let switched := schedulerSwitchFromIsr { kernel with pendSv := false } psp
  if switched.1.halted.isSome then switched.1
  else if switched.2 = 0 then switched.1.halt .pendSvInvalid
  else switched.1

end ForgeKernel
