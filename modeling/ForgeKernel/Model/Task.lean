import Mathlib.Data.BitVec
import Mathlib.Logic.Function.Basic

/-!
# Task control blocks

The data model of `task_internal.h` and `wait_internal.h`.  Machine words are
`BitVec 32`, so tick arithmetic and event masks wrap exactly as in the source.
Registry positions, task identifiers and priorities never come near the width
of their C types and are natural numbers.  A null pointer is `none` for a
handle and the zero word for a raw address.
-/

namespace ForgeKernel

/-- `uint32_t`, also used for the 32-bit addresses of the port. -/
abbrev Word := BitVec 32

/-- `uint8_t`. -/
abbrev Byte := BitVec 8

/-- `fr_task_state_t`. -/
inductive TaskState
  | invalid
  | created
  | ready
  | running
  | blocked
  | suspended
  deriving DecidableEq, Repr

/-- `fr_wait_reason_t`. -/
inductive WaitReason
  | none
  | sleep
  | sync
  | mutex
  | queueSend
  | queueReceive
  | eventFlags
  deriving DecidableEq, Repr

/-- `fr_wait_result_t`. -/
inductive WaitResult
  | pending
  | timeout
  | signaled
  deriving DecidableEq, Repr

/-- Numeric value of a wait reason, as cast into a trace argument. -/
def WaitReason.code : WaitReason → Word
  | .none => 0
  | .sleep => 1
  | .sync => 2
  | .mutex => 3
  | .queueSend => 4
  | .queueReceive => 5
  | .eventFlags => 6

/-- Numeric value of a wait result, as cast into a trace argument. -/
def WaitResult.code : WaitResult → Word
  | .pending => 0
  | .timeout => 1
  | .signaled => 2

/-- Reasons whose wait names a kernel object. -/
def WaitReason.usesObject : WaitReason → Bool
  | .none | .sleep => false
  | .sync | .mutex | .queueSend | .queueReceive | .eventFlags => true

/-- A pointer to one of the two semaphore objects. -/
inductive SemaphoreRef
  | binary (index : Nat)
  | counting (index : Nat)
  deriving DecidableEq, Repr

/-- The address stored in `wait_object`.  Objects of different kinds never
share an address. -/
inductive ObjectRef
  | mutex (index : Nat)
  | semaphore (ref : SemaphoreRef)
  | queue (index : Nat)
  | eventFlags (index : Nat)
  deriving DecidableEq, Repr

/-- A pointer to a control block: the kernel-owned idle task, which is outside
the registry, or a registry slot. -/
inductive TaskRef
  | idle
  | user (index : Nat)
  deriving DecidableEq, Repr

/-- `FR_WAIT_FOREVER`. -/
def waitForever : Word := 0xFFFFFFFF#32

/-- `FR_WAIT_MAX_FINITE_TICKS` and `FR_TASK_SLEEP_MAX_TICKS`. -/
def waitMaxFiniteTicks : Word := 0x7FFFFFFF#32

/-- `struct fr_task`. -/
structure Task where
  savedSp : Word
  stackBase : Word
  stackTop : Word
  entry : Word
  argument : Word
  stackSizeWords : Word
  id : Nat
  priority : Nat
  basePriority : Nat
  state : TaskState
  waitDeadline : Word
  waitObject : Option ObjectRef
  waitReason : WaitReason
  waitResult : WaitResult
  waitHasDeadline : Bool
  waitFlagsMask : Word
  waitFlagsResult : Word
  waitFlagsAll : Bool
  waitFlagsClearOnExit : Bool
  deriving DecidableEq, Repr

/-- A control block in zero-initialized static storage. -/
def Task.zero : Task where
  savedSp := 0
  stackBase := 0
  stackTop := 0
  entry := 0
  argument := 0
  stackSizeWords := 0
  id := 0
  priority := 0
  basePriority := 0
  state := .invalid
  waitDeadline := 0
  waitObject := none
  waitReason := .none
  waitResult := .pending
  waitHasDeadline := false
  waitFlagsMask := 0
  waitFlagsResult := 0
  waitFlagsAll := false
  waitFlagsClearOnExit := false

/-- Compile-time configuration and linker-assigned addresses.  The proof fields
are the static assertions of the kernel and of the Cortex-M4 port, and the
placement of the idle stack that `_Alignas(8)` and the linker provide. -/
structure Config where
  maxTasks : Nat
  maxTaskPriority : Nat
  minTaskStackWords : Nat
  idleStackBase : Word
  idleEntry : Word
  taskReturnTrap : Word
  maxTasks_pos : 0 < maxTasks
  maxTasks_lt : maxTasks < 2 ^ 32
  maxTaskPriority_le : maxTaskPriority ≤ 255
  guard_lt_minStack : 8 < minTaskStackWords
  context_le_minStack : 16 ≤ minTaskStackWords
  minStack_le_idleStack : minTaskStackWords ≤ 128
  idleStack_ne_null : idleStackBase ≠ 0
  idleStack_aligned : idleStackBase &&& 7 = 0
  idleStack_fits : idleStackBase.toNat + 512 < 2 ^ 32

/-- The values of `config.h`, with addresses in the SRAM and flash of the port. -/
def Config.default : Config where
  maxTasks := 8
  maxTaskPriority := 31
  minTaskStackWords := 32
  idleStackBase := 0x20000400#32
  idleEntry := 0x08000401#32
  taskReturnTrap := 0x08000501#32
  maxTasks_pos := by decide
  maxTasks_lt := by decide
  maxTaskPriority_le := by decide
  guard_lt_minStack := by decide
  context_le_minStack := by decide
  minStack_le_idleStack := by decide
  idleStack_ne_null := by decide
  idleStack_aligned := by decide
  idleStack_fits := by decide

/-- `FR_CONFIG_IDLE_STACK_WORDS`. -/
def idleStackWords : Word := 128

/-- `FR_CORTEX_M4_INITIAL_CONTEXT_WORDS` in bytes. -/
def initialContextBytes : Word := 64

end ForgeKernel
