import ForgeKernel.Library.WordMemory
import ForgeKernel.Invariant.Stacks

/-!
# Contents of a fresh stack

`fr_task_create` fills a stack with a pattern and writes sixteen words at its upper end.
Both are blocks of words; neither reaches past the stack.
-/

namespace ForgeKernel

open WordMemory

/-! ## Frames -/

/-- Stored words are a block. -/
theorem storeWords_eq (memory : Word → Word) (address : Word) (values : List Word) :
    storeWords memory address values =
      writeBlock memory address (fun i => values.getD i 0) values.length := by
  induction values generalizing memory address with
  | nil => rfl
  | cons value values inductionHypothesis =>
      change storeWords (Function.update memory address value) (address + 4) values = _
      rw [inductionHypothesis]
      unfold writeBlock
      rw [List.length_cons, List.range_succ_eq_map, List.foldl_cons, List.foldl_map]
      have first : wordAt address 0 = address := wordAt_zero address
      have others : ∀ i, wordAt address (i + 1) = wordAt (address + 4) i := by
        intro i
        rw [Nat.add_comm, ← wordAt_add]
        rfl
      simp only [first, others, List.getD_cons_zero, List.getD_cons_succ, Nat.succ_eq_add_one]

@[simp] theorem length_initialContext (entry argument returnTrap : Word) :
    (initialContext entry argument returnTrap).length = 16 := rfl

section Frame

variable (cfg : Config) {memory : Word → Word} {stackTop entry argument : Word}

/-- The words of the synthetic frame. -/
theorem portTaskStackInit_word {i : Nat} (small : i < 16) :
    (portTaskStackInit cfg memory stackTop entry argument).1
        (wordAt (stackTop - initialContextBytes) i) =
      (initialContext entry argument cfg.taskReturnTrap).getD i 0 := by
  change storeWords memory (stackTop - initialContextBytes) _ _ = _
  rw [storeWords_eq, length_initialContext]
  exact writeBlock_wordAt _ _ _ small (by decide)

/-- Nothing outside the sixteen words is written. -/
theorem portTaskStackInit_of_apart
    {address : Word} (room : 64 ≤ stackTop.toNat)
    (apart : address.toNat < stackTop.toNat - 64 ∨ stackTop.toNat ≤ address.toNat) :
    (portTaskStackInit cfg memory stackTop entry argument).1 address = memory address := by
  change storeWords memory (stackTop - initialContextBytes) _ _ = _
  have start : (stackTop - initialContextBytes).toNat = stackTop.toNat - 64 := by
    rw [BitVec.toNat_sub_of_le]
    · rfl
    · exact room
  have bound := stackTop.isLt
  rw [storeWords_eq]
  apply writeBlock_of_apart
  · rw [start, length_initialContext]
    omega
  · rw [start, length_initialContext]
    omega

end Frame

/-! ## Fresh stacks -/

/-- Memory once `fr_task_create` has filled the stack and built the frame. -/
def Task.freshStack (cfg : Config) (task : Task) (memory : Word → Word) : Word → Word :=
  (portTaskStackInit cfg (taskStackFill memory task.stackBase task.stackSizeWords)
    task.stackTop task.entry task.argument).1

/-- The fill of a stack is a block of patterns. -/
theorem taskStackFill_eq (memory : Word → Word) (stackBase stackSizeWords : Word) :
    taskStackFill memory stackBase stackSizeWords =
      writeBlock memory stackBase (fun _ => taskStackFillPattern) stackSizeWords.toNat := rfl

namespace Task.StackOk

variable {cfg : Config} {task : Task}

/-- The frame starts sixteen words below the end of the stack. -/
theorem initialSp_eq (geometry : task.StackOk cfg) :
    task.initialSp = wordAt task.stackBase (task.stackSizeWords.toNat - 16) := by
  obtain ⟨start, _, _⟩ := geometry.initialSp_toNat
  have top := geometry.top
  have bound := task.stackTop.isLt
  have enough := geometry.enough
  have context := cfg.context_le_minStack
  apply BitVec.eq_of_toNat_eq
  rw [start, wordAt_toNat (by omega)]
  omega

/-- The words of the frame. -/
theorem freshStack_frame
    (geometry : task.StackOk cfg) (memory : Word → Word) {i : Nat} (small : i < 16) :
    task.freshStack cfg memory
        (wordAt task.stackBase (task.stackSizeWords.toNat - 16 + i)) =
      (initialContext task.entry task.argument cfg.taskReturnTrap).getD i 0 := by
  rw [← wordAt_add, ← geometry.initialSp_eq]
  exact portTaskStackInit_word cfg small

/-- The words below the frame. -/
theorem freshStack_free
    (geometry : task.StackOk cfg) (memory : Word → Word) {i : Nat}
    (below : i < task.stackSizeWords.toNat - 16) :
    task.freshStack cfg memory (wordAt task.stackBase i) = taskStackFillPattern := by
  obtain ⟨_, room, _⟩ := geometry.initialSp_toNat
  have top := geometry.top
  have bound := task.stackTop.isLt
  have place : (wordAt task.stackBase i).toNat = task.stackBase.toNat + 4 * i :=
    wordAt_toNat (by omega)
  unfold Task.freshStack
  rw [portTaskStackInit_of_apart cfg room]
  · rw [taskStackFill_eq]
    exact writeBlock_wordAt _ _ _ (by omega) (by omega)
  · rw [place]
    omega

/-- Memory outside the stack. -/
theorem freshStack_of_apart
    (geometry : task.StackOk cfg) (memory : Word → Word) {address : Word}
    (apart : address < task.stackBase ∨ task.stackTop ≤ address) :
    task.freshStack cfg memory address = memory address := by
  obtain ⟨_, room, large⟩ := geometry.initialSp_toNat
  have top := geometry.top
  have bound := task.stackTop.isLt
  rw [BitVec.lt_def, BitVec.le_def] at apart
  unfold Task.freshStack
  rw [portTaskStackInit_of_apart cfg room (by omega), taskStackFill_eq]
  apply writeBlock_of_apart
  · omega
  · omega

end Task.StackOk

end ForgeKernel
