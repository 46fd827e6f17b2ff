import ForgeKernel.Invariant.ContextSteps

/-!
# Saved contexts across stores and switches

The running task stores where it likes but not to the stacks of others.  Exception entry and
`PendSV_Handler` store the context of the running task on its own stack and load that of the next
one from the stack of the next one.
-/

namespace ForgeKernel

open Scans WordMemory

/-! ## Stores -/

section Stores

variable {cfg : Config} {events : List BoardEvent} {system : System}

/-- The system after stores to stack memory. -/
def System.withStackMemory (system : System) (memory : Word → Word) : System :=
  { system with kernel := { system.kernel with stackMemory := memory } }

/-- Control data is not in stack memory. -/
theorem Core.withStackMemory (core : Core system) (memory : Word → Word) :
    Core (system.withStackMemory memory) :=
  have control := core.control
  ⟨⟨control.stopped, control.started, control.idle, control.user, control.sole⟩, core.slots,
    core.unregistered, core.states, core.dormant, core.departed, core.unmasked, core.reserved,
    core.created, core.exclusive, core.fresh⟩

/-- Stores to stack memory change no stack pointer. -/
theorem StacksOk.withStackMemory (stacksOk : StacksOk cfg system) (memory : Word → Word) :
    StacksOk cfg (system.withStackMemory memory) :=
  have kernelOk := stacksOk.kernel
  ⟨⟨kernelOk.count, kernelOk.registered, kernelOk.idle, kernelOk.pending⟩,
    fun thread => (stacksOk.frames thread).moved id fun _ _ => rfl⟩

/-- Stores that spare the stacks of all tasks but the running one spare their contexts. -/
theorem ContextsOk.stores
    {memory : Word → Word} (ok : ContextsOk cfg events system)
    (spared : ∀ ref ∈ system.kernel.stackOwners, system.kernel.currentTask ≠ some ref →
      ∀ address, (system.kernel.stackTask cfg ref).OnStack address →
        memory address = system.kernel.stackMemory address) :
    ContextsOk cfg events (system.withStackMemory memory) :=
  ok.quiet (ok.core.withStackMemory memory) (ok.stacksOk.withStackMemory memory)
    (.of_tasks rfl rfl) rfl rfl rfl id spared fun _ _ _ _ _ built => built

end Stores

/-! ## Where a switch puts the context -/

section Place

variable {cfg : Config} {events : List BoardEvent} {system : System} {current : TaskRef}

/-- If the hardware frame is inside the stack and the saved stack pointer passes its check, so is
the whole context.  A stack in which the addition could wrap would overlap that of idle. -/
theorem ContextsOk.context_inside
    {frame : Word} (ok : ContextsOk cfg events system) (apart : system.kernel.StacksApart cfg)
    (present : system.kernel.currentTask = some current)
    (above : (system.kernel.taskAt current).stackBase ≤ frame)
    (below : frame.toNat + 32 ≤ (system.kernel.taskAt current).stackTop.toNat)
    (valid : schedulerSavedSpValid (system.kernel.taskAt current) (frame - 32) = true) :
    (frame - 32).toNat + 64 ≤ (system.kernel.taskAt current).stackTop.toNat := by
  obtain ⟨_, _, _, _, top, _⟩ := schedulerSavedSpValid_iff.mp valid
  have difference : (frame - 32).toNat = (2 ^ 32 - 32 + frame.toNat) % 2 ^ 32 :=
    BitVec.toNat_sub frame 32#32
  have bound := frame.isLt
  by_cases room : 32 ≤ frame.toNat
  · rw [difference]
    omega
  · exfalso
    have geometry := Task.StackOk.idle cfg
    have idleTop := geometry.top
    have size : (schedulerIdleTask cfg).stackSizeWords.toNat = 128 := rfl
    have idleBound := (schedulerIdleTask cfg).stackTop.isLt
    rw [BitVec.le_def] at above
    rw [difference] at top
    cases current with
    | idle =>
        obtain ⟨savedSp, state, same⟩ := ok.idle (ok.core.running_of_current present)
        change system.kernel.idleTask.stackBase.toNat ≤ _ at above
        change _ ≤ system.kernel.idleTask.stackTop.toNat at top
        rw [same] at above top
        dsimp only at above top
        omega
    | user index =>
        have idleOwner : TaskRef.idle ∈ system.kernel.stackOwners := List.mem_cons_self
        have owner := (ok.core.current_dispatchable present).owner
        have disjoint := apart .idle idleOwner (.user index) owner TaskRef.noConfusion
        change (schedulerIdleTask cfg).stackTop ≤ (system.kernel.tasks index).stackBase ∨
          (system.kernel.tasks index).stackTop ≤ (schedulerIdleTask cfg).stackBase at disjoint
        change (system.kernel.tasks index).stackBase.toNat ≤ frame.toNat at above
        change _ ≤ (system.kernel.tasks index).stackTop.toNat at top
        rw [BitVec.le_def, BitVec.le_def] at disjoint
        omega

/-- Stacking a context inside the stack of the running task spares every other stack. -/
theorem ContextsOk.stacks
    {savedSp : Word} {registers frame : EightWords} (ok : ContextsOk cfg events system)
    (apart : system.kernel.StacksApart cfg) (present : system.kernel.currentTask = some current)
    (above : (system.kernel.taskAt current).stackBase ≤ savedSp)
    (below : savedSp.toNat + 64 ≤ (system.kernel.taskAt current).stackTop.toNat) :
    ContextsOk cfg events (system.withStackMemory (storeEight
      (storeEight system.kernel.stackMemory (savedSp + 32) frame) savedSp registers)) := by
  have dispatchable := ok.core.current_dispatchable present
  have bound := (system.kernel.taskAt current).stackTop.isLt
  refine ok.stores fun ref owner other address inside => stacked_of_apart (by omega) ?_
  have different : ref ≠ current := fun same => other (same ▸ present)
  have outside := apart.not_onStack owner dispatchable.owner different inside
  rw [ok.onStack_iff dispatchable] at outside
  have beyond := Task.outside_of_not_onStack outside
  rw [BitVec.lt_def, BitVec.le_def] at beyond
  rw [BitVec.le_def] at above
  omega

end Place

/-! ## Switches -/

/-- A switch dispatches the selected task and writes no stack memory. -/
theorem SwitchDone.kept
    {kernel : Kernel} {psp : Word} {current next : TaskRef} {result : Kernel × Word}
    (done : SwitchDone kernel psp current next result) :
    result.1.currentTask = some next ∧ result.1.stackMemory = kernel.stackMemory := by
  have present := done.present
  rw [done.kernel]
  split
  · rename_i same
    rw [same]
    cases current <;> exact ⟨present, rfl⟩
  · unfold schedulerSwitchTo
    dsimp only
    split <;> cases current <;> cases next <;> exact ⟨rfl, rfl⟩

/-- It returns the saved stack pointer of that task. -/
theorem SwitchDone.stackPointer_eq
    {kernel : Kernel} {psp : Word} {current next : TaskRef} {result : Kernel × Word}
    (done : SwitchDone kernel psp current next result) :
    result.2 = (result.1.taskAt next).savedSp := by
  obtain ⟨state, same⟩ := done.taskAt next
  rw [same, done.stackPointer, Kernel.savedAt_taskAt]

/-- What a switch selects may be dispatched. -/
theorem Kernel.best_dispatchable
    {kernel : Kernel} (running : kernel.running = true) {next : Option Nat}
    (selected : IsBest kernel.priorityOf kernel.candidates next) :
    kernel.Dispatchable (taskOrIdle next) := by
  cases next with
  | none => exact running
  | some index =>
      obtain ⟨small, ready | ⟨_, runs⟩⟩ := selected.1
      · exact ⟨small, fun created => by simp [created] at ready⟩
      · exact ⟨small, fun created => by simp [created] at runs⟩

section Switches

variable {cfg : Config} {events : List BoardEvent} {system : System} {current : TaskRef}
  {savedSp : Word} {context : Context}

/-- A switch creates and publishes no task. -/
theorem pendSvHandler_dispatchable_iff
    (core : Core system) (live : system.kernel.halted = none) (savedSp : Word)
    (running : (pendSvHandler system.kernel savedSp).running = system.kernel.running)
    (ref : TaskRef) :
    (pendSvHandler system.kernel savedSp).Dispatchable ref ↔ system.kernel.Dispatchable ref := by
  obtain ⟨taskCount, states⟩ := (pendSvHandler_outcome savedSp core.control live).states
  cases ref with
  | idle =>
      change (pendSvHandler system.kernel savedSp).running = true ↔ _
      rw [running]
      exact Iff.rfl
  | user index =>
      change index < (pendSvHandler system.kernel savedSp).taskCount ∧ _ ↔ _ ∧ _
      rw [taskCount, ne_eq, ne_eq, (states index).created_iff]

/-- Only the running task is preempted. -/
theorem ContextsOk.fresh_preempted
    (ok : ContextsOk cfg events system) (present : system.kernel.currentTask = some current)
    {ref : TaskRef}
    (preempted : lastPreempted ref (events ++ [.preempted current context]) ≠ none) :
    system.kernel.Dispatchable ref := by
  rw [lastPreempted_append_preempted] at preempted
  split at preempted
  · rename_i same
    exact same ▸ ok.core.current_dispatchable present
  · exact ok.fresh ref preempted

/-- A saved stack pointer that is refused stops the machine, whatever was stacked. -/
theorem ContextsOk.rejects
    (ok : ContextsOk cfg events system) (memory : Word → Word)
    (live : system.kernel.halted = none) (due : system.pendSvDue = true)
    (present : system.kernel.currentTask = some current)
    (refused : schedulerSavedSpValid (system.kernel.taskAt current) savedSp = false) :
    let stacked := system.withStackMemory memory
    (pendSvHandler stacked.kernel savedSp).halted.isSome = true ∧
      ContextsOk cfg (events ++ [.preempted current context])
        { stacked with kernel := pendSvHandler stacked.kernel savedSp } := by
  intro stacked
  have core : Core stacked := ok.core.withStackMemory memory
  have stacksOk : StacksOk cfg stacked := ok.stacksOk.withStackMemory memory
  have running := ok.core.running_of_current present
  have sameTask : stacked.kernel.taskAt current = system.kernel.taskAt current := by
    cases current <;> rfl
  obtain ⟨reason, same⟩ :=
    pendSvHandler_rejects core.control running present live (sameTask ▸ refused)
  have halted : (pendSvHandler stacked.kernel savedSp).halted = some reason := by
    rw [same]
    rfl
  refine ⟨by rw [halted]; rfl, core.pendSv savedSp live due,
    stacksOk.pendSv core savedSp live due, ?_, ?_, ?_, ?_⟩
  · intro _
    change ∃ _ _, (pendSvHandler stacked.kernel savedSp).idleTask = _
    rw [same]
    exact ok.idle running
  · intro unhalted
    exact absurd (halted.symm.trans unhalted) (Option.some_ne_none _)
  · intro unhalted
    exact absurd (halted.symm.trans unhalted) (Option.some_ne_none _)
  · intro ref preempted
    have before : stacked.kernel.Dispatchable ref := by
      have dispatchable := ok.fresh_preempted present preempted
      cases ref <;> exact dispatchable
    refine (pendSvHandler_dispatchable_iff core live savedSp ?_ ref).mpr before
    rw [same]
    rfl

/-- What a switch from `current` leaves behind: everybody holds a context, the next task
included. -/
structure SwitchedContexts
    (cfg : Config) (events : List BoardEvent) (kernel : Kernel) (savedSp : Word) (after : System) :
    Prop where
  live : after.kernel.halted = none
  ok : ContextsOk cfg events after
  next : ∃ next, after.kernel.currentTask = some next ∧
    (schedulerSwitchFromIsr { kernel with pendSv := false } savedSp).2 =
      (after.kernel.taskAt next).savedSp ∧
    (after.kernel.taskAt next).Holds cfg after.kernel.stackMemory (lastPreempted next events)

/-- A switch from a task whose context is stacked. -/
theorem ContextsOk.switches
    (ok : ContextsOk cfg events system) (live : system.kernel.halted = none)
    (due : system.pendSvDue = true) (present : system.kernel.currentTask = some current)
    (valid : schedulerSavedSpValid (system.kernel.taskAt current) savedSp = true)
    (below : savedSp.toNat + 64 ≤ (system.kernel.taskAt current).stackTop.toNat)
    (stacked : savedContext system.kernel.stackMemory savedSp = context) :
    SwitchedContexts cfg (events ++ [.preempted current context]) system.kernel savedSp
      { system with kernel := pendSvHandler system.kernel savedSp } := by
  have running := ok.core.running_of_current present
  obtain ⟨next, selected, done⟩ :=
    ok.stacksOk.kernel.switches ok.core.control running present valid
  obtain ⟨handler, _⟩ := done.handler live
  obtain ⟨active, unhalted⟩ := done.control
  obtain ⟨currentTask, stackMemory⟩ := done.kept
  have stackPointer := done.stackPointer_eq
  have tasks := done.taskAt
  rw [← handler] at active unhalted currentTask stackMemory stackPointer tasks
  have dispatchable := pendSvHandler_dispatchable_iff ok.core live savedSp active
  have sameTask : ∀ ref, ({ system.kernel with pendSv := false } : Kernel).taskAt ref =
      system.kernel.taskAt ref := by
    intro ref
    cases ref <;> rfl
  have holds : ∀ ref, system.kernel.Dispatchable ref →
      ((pendSvHandler system.kernel savedSp).taskAt ref).Holds cfg
        (pendSvHandler system.kernel savedSp).stackMemory
        (lastPreempted ref (events ++ [.preempted current context])) := by
    intro ref published
    obtain ⟨state, same⟩ := tasks ref
    rw [sameTask] at same
    rw [same, stackMemory, lastPreempted_append_preempted]
    by_cases own : ref = current
    · subst own
      rw [if_pos rfl, if_pos rfl]
      refine ⟨?_, below, stacked⟩
      obtain ⟨_, _, _, above, _⟩ := schedulerSavedSpValid_iff.mp valid
      exact BitVec.le_def.mpr above
    · rw [if_neg own, if_neg (Ne.symm own)]
      have other : system.kernel.currentTask ≠ some ref := fun same =>
        own (Option.some.inj (same.symm.trans present))
      exact (ok.held live ref published other).kept ⟨rfl, rfl, rfl, rfl, rfl, rfl, rfl, rfl⟩
        fun _ _ => rfl
  refine ⟨unhalted.trans live, ⟨ok.core.pendSv savedSp live due,
    ok.stacksOk.pendSv ok.core savedSp live due, ?_, ?_, ?_, ?_⟩, taskOrIdle next, currentTask,
    stackPointer, ?_⟩
  · intro _
    obtain ⟨_, _, before⟩ := ok.idle running
    obtain ⟨state, same⟩ := tasks .idle
    change (pendSvHandler system.kernel savedSp).idleTask = { system.kernel.idleTask with
      savedSp := if TaskRef.idle = current then savedSp else system.kernel.idleTask.savedSp
      state := state } at same
    rw [before] at same
    exact ⟨_, _, same⟩
  · exact fun _ ref published _ => holds ref ((dispatchable ref).mp published)
  · intro _ thread outTask config index initialSp inCall
    obtain ⟨state, same⟩ := tasks (.user index)
    have first := ok.built live thread outTask config index initialSp inCall
    change ((pendSvHandler system.kernel savedSp).taskAt (.user index)).FirstContext cfg
      (savedContext (pendSvHandler system.kernel savedSp).stackMemory
        ((pendSvHandler system.kernel savedSp).taskAt (.user index)).initialSp)
    rw [same, stackMemory]
    exact first
  · exact fun ref preempted => (dispatchable ref).mpr (ok.fresh_preempted present preempted)
  · exact holds _ (Kernel.best_dispatchable running selected)

end Switches

end ForgeKernel
