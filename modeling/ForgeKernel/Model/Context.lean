import ForgeKernel.Model.System

/-!
# Registers across exceptions

`portasm.S` over the running system.  The registers R4 to R11 and PSP are part of
the state; the other eight registers of a context are stacked and unstacked by the
CPU.  Code in thread mode, the idle loop included, changes the registers and stores
words as it likes between the steps of the kernel.  Memory is the word memory of the
kernel model; control blocks are not in it.  The frame of an exception that returns to
the code it interrupted lies below PSP until then and is left out.
-/

namespace ForgeKernel

open Machines

/-- R4 to R11, or the words of a hardware frame: R0, R1, R2, R3, R12, LR, PC, xPSR. -/
abbrev EightWords := Fin 8 → Word

/-- Store eight words upwards from an address. -/
def storeEight (memory : Word → Word) (address : Word) (words : EightWords) : Word → Word :=
  storeWords memory address (List.ofFn words)

/-- Load eight words upwards from an address. -/
def loadEight (memory : Word → Word) (address : Word) : EightWords :=
  fun i => memory (address + 4 * BitVec.ofNat 32 i)

/-- What a switch has to preserve: PSP at the first instruction of the handler,
R4 to R11, and the hardware frame that PSP points to. -/
structure Context where
  psp : Word
  registers : EightWords
  frame : EightWords
  deriving DecidableEq

/-- The argument register of a stacked frame. -/
def Context.r0 (context : Context) : Word := context.frame 0

/-- The link register. -/
def Context.lr (context : Context) : Word := context.frame 5

/-- The program counter. -/
def Context.pc (context : Context) : Word := context.frame 6

/-- The program status register. -/
def Context.xpsr (context : Context) : Word := context.frame 7

/-- The running system with the registers that a switch saves. -/
structure Board where
  system : System
  registers : EightWords
  psp : Word

/-- State at the entry of `main`; the registers are not initialized. -/
def Board.boot (registers : EightWords) (psp : Word) : Board :=
  ⟨.boot, registers, psp⟩

/-- Exceptions that leave a task and exception returns into one. -/
inductive BoardEvent
  | preempted (task : TaskRef) (context : Context)
  | resumed (task : TaskRef) (context : Context)
  deriving DecidableEq

/-- Sources of nondeterminism. -/
inductive BoardAction
  /-- Code in thread mode changes its registers. -/
  | execute (registers : EightWords) (psp : Word)
  /-- Code in thread mode stores a word. -/
  | store (address value : Word)
  /-- A step of the system other than PendSV and stores of words. -/
  | kernel (action : Action)
  /-- PendSV is taken; the argument holds the registers that the CPU stacks. -/
  | pendSv (frame : EightWords)
  deriving DecidableEq

/-- Exception entry: eight words below PSP, aligned to eight bytes. -/
def framePointer (psp : Word) : Word :=
  (psp - 32) &&& ~~~7

/-- The words that the CPU stacks.  Bit 9 of the stacked xPSR tells whether the frame
was padded to reach its alignment. -/
def stackedFrame (psp : Word) (frame : EightWords) : EightWords :=
  Function.update frame 7
    (if psp &&& 4 = 0 then frame 7 &&& ~~~0x200#32 else frame 7 ||| 0x200#32)

/-- PSP after the CPU has unstacked a frame. -/
def unstackedPsp (context : Context) : Word :=
  if context.xpsr &&& 0x200#32 = 0 then context.psp + 32 else context.psp + 36

namespace Board

/-- Thread mode executes instructions: nothing has stopped and no PendSV is due. -/
def inThread (board : Board) : Bool :=
  !(board.system.kernel.halted.isSome || board.system.pendSvDue)

/-- `ldmia r0!, {r4-r11}`, `msr psp, r0` and the exception return, into `task`. -/
def restore (board : Board) (task : TaskRef) (savedSp : Word) : Board × List BoardEvent :=
  let memory := board.system.kernel.stackMemory
  let context : Context := ⟨savedSp + 32, loadEight memory savedSp, loadEight memory (savedSp + 32)⟩
  ({ board with
    registers := context.registers
    psp := unstackedPsp context }, [.resumed task context])

/-- `.Lsvc_start_first`: reached when `fr_scheduler_start` has just made its choice and
nothing stopped it. -/
def svcStartFirst (board : Board) : Board × List BoardEvent :=
  match board.system.kernel.currentTask with
  | none => (board, [])
  | some first => board.restore first (schedulerCurrentSavedSp board.system.kernel)

/-- A step of the system. -/
def kernelStep (cfg : Config) (board : Board) (action : Action) :
    Option (Board × List BoardEvent) :=
  (board.system.step cfg action).map fun next =>
    let after := { board with system := next.1 }
    if board.system.kernel.running = false ∧ next.1.kernel.running = true ∧
        next.1.kernel.halted = none then
      after.svcStartFirst
    else (after, [])

/-- The kernel that `fr_scheduler_switch_from_isr` sees: the CPU has stacked its frame
and `stmdb r0!, {r4-r11}` has stored the registers below it. -/
def stacked (board : Board) (frame : EightWords) : Kernel :=
  let psp := framePointer board.psp
  let memory := storeEight board.system.kernel.stackMemory psp (stackedFrame board.psp frame)
  { board.system.kernel with stackMemory := storeEight memory (psp - 32) board.registers }

/-- The context of the running task at the first instruction of `PendSV_Handler`. -/
def context (board : Board) (frame : EightWords) : Context :=
  ⟨framePointer board.psp, board.registers, stackedFrame board.psp frame⟩

/-- `PendSV_Handler`. -/
def pendSv (board : Board) (frame : EightWords) : Board × List BoardEvent :=
  let savedSp := framePointer board.psp - 32
  let kernel := board.stacked frame
  let left := board.system.kernel.currentTask.toList.map fun task =>
    BoardEvent.preempted task (board.context frame)
  let after := { board with
    system := { board.system with kernel := pendSvHandler kernel savedSp } }
  if after.system.kernel.halted.isSome then (after, left)
  else
    match after.system.kernel.currentTask with
    | none => (after, left)
    | some next =>
        let restored := after.restore next
          (schedulerSwitchFromIsr { kernel with pendSv := false } savedSp).2
        (restored.1, left ++ restored.2)

/-- The step function. -/
def step (cfg : Config) (board : Board) : BoardAction → Option (Board × List BoardEvent)
  | .execute registers psp =>
      if board.inThread then some ({ board with registers := registers, psp := psp }, [])
      else none
  | .store address value =>
      if board.inThread && address &&& 3 = 0 then
        some ({ board with system := { board.system with kernel := { board.system.kernel with
          stackMemory := Function.update board.system.kernel.stackMemory address value } } }, [])
      else none
  | .kernel (.pendSv _) | .kernel (.storeWord _ _) => none
  | .kernel action => board.kernelStep cfg action
  | .pendSv frame =>
      if board.system.kernel.halted.isSome || !board.system.pendSvDue then none
      else some (board.pendSv frame)

end Board

/-- The machine of a configuration, from arbitrary registers. -/
def board (cfg : Config) (registers : EightWords) (psp : Word) :
    Machine Board BoardAction BoardEvent where
  initial := .boot registers psp
  step := Board.step cfg

end ForgeKernel
