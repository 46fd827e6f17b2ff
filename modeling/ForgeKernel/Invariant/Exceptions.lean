import ForgeKernel.Invariant.Control

/-!
# The two exception handlers

`PendSV_Handler` moves the current pointer to the selected task or stops at a
trap.  `SysTick_Handler` completes exactly the waits that are due and then
requests a switch if one is needed.
-/

namespace ForgeKernel

open Scans

/-! ## PendSV -/

/-- The handler stopped; no state and no wait has changed. -/
structure Trapped (before after : Kernel) : Prop where
  objects : before.SameObjects after
  taskCount : after.taskCount = before.taskCount
  currentTask : after.currentTask = before.currentTask
  running : after.running = before.running
  tickCount : after.tickCount = before.tickCount
  idle : after.idleTask.state = before.idleTask.state
  tasks : ∀ index, ∃ savedSp, after.tasks index = { before.tasks index with savedSp := savedSp }
  others : ∀ index, before.currentTask ≠ some (.user index) →
    after.tasks index = before.tasks index
  halted : after.halted.isSome = true

/-- The handler resumed `next`, or idle. -/
structure SwitchedTo (before : Kernel) (psp : Word) (next : Option Nat) (after : Kernel) :
    Prop where
  objects : before.SameObjects after
  taskCount : after.taskCount = before.taskCount
  running : after.running = before.running
  tickCount : after.tickCount = before.tickCount
  halted : after.halted = none
  currentTask : after.currentTask = some (taskOrIdle next)
  idle : after.idleTask.state = if next = none then .running else .ready
  tasks : ∀ index, after.tasks index = { before.tasks index with
    savedSp :=
      if before.currentTask = some (.user index) then psp
      else (before.tasks index).savedSp
    state :=
      if next = some index then .running
      else if before.currentTask = some (.user index) ∧
          (before.tasks index).state = .running then .ready
      else (before.tasks index).state }
  selected : IsBest before.priorityOf before.candidates next
  active : before.running = true

/-- Outcomes of `PendSV_Handler`. -/
inductive SwitchOutcome (before : Kernel) (psp : Word) (after : Kernel) : Prop
  | trapped (stopped : Trapped before after)
  | switched {next : Option Nat} (resumed : SwitchedTo before psp next after)

namespace Kernel

/-- The current task's stack pointer has been stored. -/
def savedAt (kernel : Kernel) (current : TaskRef) (psp : Word) : Kernel :=
  kernel.setTaskAt current { kernel.taskAt current with savedSp := psp }

/-- Saving the stack pointer writes that field of the current task only. -/
theorem savedAt_tasks (kernel : Kernel) (current : TaskRef) (psp : Word) (index : Nat) :
    (kernel.savedAt current psp).tasks index = { kernel.tasks index with
      savedSp := if current = .user index then psp else (kernel.tasks index).savedSp } := by
  cases current with
  | idle => rfl
  | user current =>
      change Function.update kernel.tasks current _ index = _
      by_cases same : index = current
      · subst same
        simp [taskAt]
      · simp [same, Ne.symm same]

theorem savedAt_idle (kernel : Kernel) (current : TaskRef) (psp : Word) :
    (kernel.savedAt current psp).idleTask.state = kernel.idleTask.state := by
  cases current <;> rfl

/-- It changes no candidate for the processor. -/
theorem savedAt_candidates (kernel : Kernel) (current : TaskRef) (psp : Word) :
    (kernel.savedAt current psp).candidates = kernel.candidates := by
  ext index
  simp only [candidates, savedAt_tasks]
  cases current <;> rfl

theorem savedAt_priorityOf (kernel : Kernel) (current : TaskRef) (psp : Word) :
    (kernel.savedAt current psp).priorityOf = kernel.priorityOf := by
  funext index
  simp only [priorityOf, savedAt_tasks]

end Kernel

/-- A trap before the handler has stored the stack pointer. -/
theorem Trapped.early (before : Kernel) (reason : Halt) :
    Trapped before ({ before with pendSv := false }.halt reason) :=
  ⟨⟨rfl, rfl, rfl, rfl, rfl⟩, rfl, rfl, rfl, rfl, rfl, fun _ => ⟨_, rfl⟩, fun _ _ => rfl, rfl⟩

/-- A trap after the handler has stored the stack pointer. -/
theorem Trapped.late
    {before : Kernel} {current : TaskRef} (psp : Word) (reason : Halt)
    (present : before.currentTask = some current) :
    Trapped before (({ before with pendSv := false }.savedAt current psp).halt reason) := by
  have stored := Kernel.savedAt_tasks { before with pendSv := false } current psp
  have tasks : ∀ index, ∃ savedSp,
      ({ before with pendSv := false }.savedAt current psp).tasks index =
        { before.tasks index with savedSp := savedSp } := fun index => ⟨_, stored index⟩
  have others : ∀ index, before.currentTask ≠ some (.user index) →
      ({ before with pendSv := false }.savedAt current psp).tasks index =
        before.tasks index := by
    intro index other
    rw [stored, if_neg fun same => other (present.trans (congrArg some same))]
  cases current <;>
    exact ⟨⟨rfl, rfl, rfl, rfl, rfl⟩, rfl, rfl, rfl, rfl, rfl, tasks, others, rfl⟩

namespace Kernel

theorem setTaskAt_tasks (kernel : Kernel) (ref : TaskRef) (task : Task) (index : Nat) :
    (kernel.setTaskAt ref task).tasks index =
      if ref = .user index then task else kernel.tasks index := by
  cases ref with
  | idle => rfl
  | user position =>
      change Function.update kernel.tasks position task index = _
      by_cases same : index = position
      · simp [same]
      · simp [same, Ne.symm same]

theorem setTaskAt_idleTask (kernel : Kernel) (ref : TaskRef) (task : Task) :
    (kernel.setTaskAt ref task).idleTask = if ref = .idle then task else kernel.idleTask := by
  cases ref <;> rfl

/-- Storing a control block or the idle task writes no object. -/
theorem setTaskAt_sameObjects (kernel : Kernel) (ref : TaskRef) (task : Task) :
    kernel.SameObjects (kernel.setTaskAt ref task) := by
  cases ref <;> exact ⟨rfl, rfl, rfl, rfl, rfl⟩

/-- Registry and control data other than the written block. -/
theorem setTaskAt_control (kernel : Kernel) (ref : TaskRef) (task : Task) :
    (kernel.setTaskAt ref task).taskCount = kernel.taskCount ∧
      (kernel.setTaskAt ref task).running = kernel.running ∧
      (kernel.setTaskAt ref task).tickCount = kernel.tickCount ∧
      (kernel.setTaskAt ref task).halted = kernel.halted := by
  cases ref <;> exact ⟨rfl, rfl, rfl, rfl⟩

/-- The current task has been demoted if it was running. -/
def demoted (kernel : Kernel) (current : TaskRef) : Kernel :=
  if (kernel.taskAt current).state = .running then
    kernel.setTaskAt current { kernel.taskAt current with state := .ready }
  else kernel

/-- The current task falls back to READY when it still runs. -/
theorem demoted_tasks (kernel : Kernel) (current : TaskRef) (index : Nat) :
    (kernel.demoted current).tasks index = { kernel.tasks index with
      state :=
        if current = .user index ∧ (kernel.tasks index).state = .running then .ready
        else (kernel.tasks index).state } := by
  unfold demoted
  split
  · rename_i running
    rw [setTaskAt_tasks]
    split
    · rename_i same
      subst same
      rw [if_pos ⟨rfl, running⟩]
      rfl
    · rename_i other
      rw [if_neg fun both => other both.1]
  · rename_i waiting
    rw [if_neg]
    rintro ⟨rfl, running⟩
    exact waiting running

/-- Demoting it changes nothing else. -/
theorem demoted_facts (kernel : Kernel) (current : TaskRef) :
    kernel.SameObjects (kernel.demoted current) ∧
      (kernel.demoted current).taskCount = kernel.taskCount ∧
      (kernel.demoted current).running = kernel.running ∧
      (kernel.demoted current).tickCount = kernel.tickCount ∧
      (kernel.demoted current).halted = kernel.halted := by
  unfold demoted
  split
  · exact ⟨kernel.setTaskAt_sameObjects current _, kernel.setTaskAt_control current _⟩
  · exact ⟨.refl kernel, rfl, rfl, rfl, rfl⟩

/-- Demoting the idle task makes it READY as well. -/
theorem demoted_idle (kernel : Kernel) (current : TaskRef)
    (idle : kernel.idleTask.state = .ready ∨
      (current = .idle ∧ kernel.idleTask.state = .running)) :
    (kernel.demoted current).idleTask.state = .ready := by
  unfold demoted
  split
  · rw [setTaskAt_idleTask]
    split
    · rfl
    · rename_i other
      exact idle.resolve_right fun both => other both.1
  · rename_i waiting
    refine idle.resolve_right ?_
    rintro ⟨rfl, running⟩
    exact waiting running

end Kernel

/-- The handler's last stores, once the selection differs from the current task. -/
theorem schedulerSwitchTo_switchedTo
    {before saved : Kernel} {psp : Word} {current : TaskRef} {next : Option Nat}
    (control : ControlOk before)
    (present : before.currentTask = some current)
    (live : before.halted = none) (active : before.running = true)
    (stored : saved = { before with pendSv := false }.savedAt current psp)
    (selected : IsBest before.priorityOf before.candidates next) :
    SwitchedTo before psp next (schedulerSwitchTo saved current (taskOrIdle next)) := by
  have savedTasks : ∀ index, saved.tasks index = { before.tasks index with
      savedSp := if current = .user index then psp else (before.tasks index).savedSp } := by
    intro index
    rw [stored]
    exact Kernel.savedAt_tasks _ current psp index
  have savedIdle : saved.idleTask.state = before.idleTask.state := by
    rw [stored]
    exact Kernel.savedAt_idle _ current psp
  have savedObjects : before.SameObjects saved := by
    rw [stored]
    cases current <;> exact ⟨rfl, rfl, rfl, rfl, rfl⟩
  have savedControl : saved.taskCount = before.taskCount ∧ saved.running = before.running ∧
      saved.tickCount = before.tickCount ∧ saved.halted = before.halted := by
    rw [stored]
    exact Kernel.setTaskAt_control _ current _
  obtain ⟨objects, taskCount, running, tickCount, halted⟩ := saved.demoted_facts current
  have demotedIdle : (saved.demoted current).idleTask.state = .ready := by
    apply saved.demoted_idle
    rw [savedIdle]
    cases current with
    | idle => exact Or.inr ⟨rfl, control.idle present⟩
    | user index => exact Or.inl (control.user index present).2.1
  have demotedTasks := saved.demoted_tasks current
  have unfolded : ∃ trace counters, schedulerSwitchTo saved current (taskOrIdle next) =
      { (saved.demoted current).setTaskAt (taskOrIdle next)
          { (saved.demoted current).taskAt (taskOrIdle next) with state := .running } with
        currentTask := some (taskOrIdle next)
        counters := counters
        trace := trace } := ⟨_, _, rfl⟩
  obtain ⟨trace, counters, unfolded⟩ := unfolded
  rw [unfolded]
  generalize saved.demoted current = demoted at *
  have stored := demoted.setTaskAt_control (taskOrIdle next)
    { demoted.taskAt (taskOrIdle next) with state := .running }
  have named : ∀ index, taskOrIdle next = .user index ↔ next = some index := by
    intro index
    cases next <;> simp [taskOrIdle]
  refine ⟨?_, ?_, ?_, ?_, ?_, rfl, ?_, ?_, selected, active⟩
  · exact (savedObjects.trans objects).trans
      (Kernel.SameObjects.trans (Kernel.setTaskAt_sameObjects _ _ _) ⟨rfl, rfl, rfl, rfl, rfl⟩)
  · exact (stored.1.trans taskCount).trans savedControl.1
  · exact (stored.2.1.trans running).trans savedControl.2.1
  · exact (stored.2.2.1.trans tickCount).trans savedControl.2.2.1
  · exact ((stored.2.2.2.trans halted).trans savedControl.2.2.2).trans live
  · rw [Kernel.setTaskAt_idleTask]
    cases next with
    | none => rfl
    | some best => exact demotedIdle
  · intro index
    rw [Kernel.setTaskAt_tasks, present]
    by_cases chosen : next = some index
    · rw [if_pos ((named index).mpr chosen), if_pos chosen, chosen]
      change { demoted.tasks index with state := TaskState.running } = _
      rw [demotedTasks, savedTasks]
      simp
    · rw [if_neg (mt (named index).mp chosen), if_neg chosen, demotedTasks, savedTasks]
      simp

/-- The selection is the current task: only its stack pointer is stored. -/
theorem SwitchedTo.stays
    {before : Kernel} {psp : Word} {current : TaskRef} {next : Option Nat}
    (control : ControlOk before)
    (present : before.currentTask = some current)
    (live : before.halted = none) (active : before.running = true)
    (selected : IsBest before.priorityOf before.candidates next)
    (same : taskOrIdle next = current) :
    SwitchedTo before psp next ({ before with pendSv := false }.savedAt current psp) := by
  subst same
  have tasks := Kernel.savedAt_tasks { before with pendSv := false } (taskOrIdle next) psp
  cases next with
  | none =>
      refine ⟨⟨rfl, rfl, rfl, rfl, rfl⟩, rfl, rfl, rfl, live, present, control.idle present,
        ?_, selected, active⟩
      intro index
      rw [tasks, present]
      simp [taskOrIdle]
  | some best =>
      have running : (before.tasks best).state = .running := by
        rcases selected.1.2 with ready | own
        · rcases (control.user best present).2.2 with state | state
          · exact state
          · exact absurd (ready.symm.trans state.1) (by decide)
        · exact own.2
      refine ⟨⟨rfl, rfl, rfl, rfl, rfl⟩, rfl, rfl, rfl, live, present,
        (control.user best present).2.1, ?_, selected, active⟩
      intro index
      rw [tasks, present]
      by_cases chosen : best = index
      · subst chosen
        simp [taskOrIdle, running]
      · simp [taskOrIdle, chosen]

/-- A valid saved stack pointer is not null. -/
theorem schedulerSavedSpValid_ne_zero
    {task : Task} {savedSp : Word} (valid : schedulerSavedSpValid task savedSp = true) :
    savedSp ≠ 0 := by
  rintro rfl
  simp [schedulerSavedSpValid] at valid

/-- A switch that returns a stack pointer: what it checked and what it did. -/
structure SwitchDone (kernel : Kernel) (psp : Word) (current next : TaskRef)
    (result : Kernel × Word) : Prop where
  present : kernel.currentTask = some current
  running : kernel.running = true
  active : (kernel.taskAt current).state = .running ∨ (kernel.taskAt current).state = .blocked
  valid : schedulerSavedSpValid (kernel.taskAt current) psp = true
  selects : schedulerSelectNext (kernel.savedAt current psp) (some current) = some next
  nextValid : schedulerSavedSpValid ((kernel.savedAt current psp).taskAt next)
    ((kernel.savedAt current psp).taskAt next).savedSp = true
  stackPointer : result.2 = ((kernel.savedAt current psp).taskAt next).savedSp
  kernel : result.1 = if next = current then kernel.savedAt current psp
    else schedulerSwitchTo (kernel.savedAt current psp) current next

/-- A switch that returns a stack pointer has passed all of its checks. -/
theorem schedulerSwitchFromIsr_done
    {kernel : Kernel} {psp : Word} (nonzero : (schedulerSwitchFromIsr kernel psp).2 ≠ 0) :
    ∃ current next, SwitchDone kernel psp current next (schedulerSwitchFromIsr kernel psp) := by
  generalize done : schedulerSwitchFromIsr kernel psp = result at nonzero ⊢
  unfold schedulerSwitchFromIsr at done
  split at done
  · exact absurd (done ▸ rfl) nonzero
  · split at done
    · exact absurd (done ▸ rfl) nonzero
    · rename_i current present
      dsimp only at done
      split at done
      · exact absurd (done ▸ rfl) nonzero
      · rename_i active
        simp only [not_or, Bool.not_eq_false, not_and_or, not_not] at active
        split at done
        · exact absurd (done ▸ rfl) nonzero
        · rename_i valid
          rw [← Kernel.savedAt] at done
          split at done
          · exact absurd (done ▸ rfl) nonzero
          · rename_i next selects
            split at done
            · exact absurd (done ▸ rfl) nonzero
            · rename_i nextValid
              have resumed : result = (if next = current then kernel.savedAt current psp
                  else schedulerSwitchTo (kernel.savedAt current psp) current next,
                  ((kernel.savedAt current psp).taskAt next).savedSp) := by
                rw [← done]
                split <;> rfl
              exact ⟨current, next, present, active.1, active.2, Bool.eq_true_of_not_eq_false valid,
                selects, Bool.eq_true_of_not_eq_false nextValid, congrArg Prod.snd resumed,
                congrArg Prod.fst resumed⟩

/-- When all checks succeed, the switch saves, demotes and dispatches. -/
theorem schedulerSwitchFromIsr_eq
    {kernel : Kernel} {psp : Word} {current next : TaskRef}
    (present : kernel.currentTask = some current) (running : kernel.running = true)
    (active : (kernel.taskAt current).state = .running ∨
      (kernel.taskAt current).state = .blocked)
    (valid : schedulerSavedSpValid (kernel.taskAt current) psp = true)
    (selects : schedulerSelectNext (kernel.savedAt current psp) (some current) = some next)
    (nextValid : schedulerSavedSpValid ((kernel.savedAt current psp).taskAt next)
      ((kernel.savedAt current psp).taskAt next).savedSp = true) :
    schedulerSwitchFromIsr kernel psp =
      (if next = current then kernel.savedAt current psp
        else schedulerSwitchTo (kernel.savedAt current psp) current next,
        ((kernel.savedAt current psp).taskAt next).savedSp) := by
  unfold schedulerSwitchFromIsr
  rw [if_neg (schedulerSavedSpValid_ne_zero valid), present]
  dsimp only
  rw [if_neg, if_neg]
  · rw [← Kernel.savedAt, selects]
    dsimp only
    rw [if_neg]
    · split <;> rfl
    · rw [nextValid]
      decide
  · rw [valid]
    decide
  · rw [running]
    rcases active with state | state <;> simp [state]

/-- A switch that does not stop the machine returned a stack pointer. -/
theorem pendSvHandler_completes
    {kernel : Kernel} {psp : Word} (completes : (pendSvHandler kernel psp).halted = none) :
    pendSvHandler kernel psp = (schedulerSwitchFromIsr { kernel with pendSv := false } psp).1 ∧
      (schedulerSwitchFromIsr { kernel with pendSv := false } psp).2 ≠ 0 := by
  unfold pendSvHandler at completes ⊢
  dsimp only at completes ⊢
  split at completes
  · rename_i stopped
    rw [completes] at stopped
    cases stopped
  · rename_i live
    rw [if_neg live]
    split at completes
    · cases completes
    · rename_i nonzero
      rw [if_neg nonzero]
      exact ⟨rfl, nonzero⟩

/-- A switch selects a task of maximal priority among the candidates, or idle. -/
theorem ControlOk.selects_saved
    {before : Kernel} {current : TaskRef} (control : ControlOk before)
    (running : before.running = true) (present : before.currentTask = some current)
    (psp : Word) :
    ∃ next, IsBest before.priorityOf before.candidates next ∧
      schedulerSelectNext ({ before with pendSv := false }.savedAt current psp) (some current) =
        some (taskOrIdle next) := by
  generalize savedEq : Kernel.savedAt { before with pendSv := false } current psp = saved
  have savedCurrent : saved.currentTask = some current := by
    rw [← savedEq, ← present]
    cases current <;> rfl
  have savedSelectable : saved.Selectable := by
    rw [← savedEq]
    rcases control.selectable running with idle | ⟨index, user, index_lt, state⟩
    · refine Or.inl ?_
      rw [← idle]
      cases current <;> rfl
    · refine Or.inr ⟨index, ?_, ?_, ?_⟩
      · rw [← user]
        cases current <;> rfl
      · cases current <;> exact index_lt
      · simpa only [Kernel.savedAt_tasks] using state
  obtain ⟨next, best, selects⟩ := savedSelectable.selectNext
  rw [savedCurrent] at selects
  rw [← savedEq, Kernel.savedAt_priorityOf, Kernel.savedAt_candidates] at best
  exact ⟨next, best, selects⟩

/-- PendSV stops the machine or dispatches the selected task. -/
theorem pendSvHandler_outcome
    {before : Kernel} (psp : Word)
    (control : ControlOk before) (live : before.halted = none) :
    SwitchOutcome before psp (pendSvHandler before psp) := by
  have early : ∀ result : Kernel × Word,
      result = ({ before with pendSv := false }, 0) ∨
        result = ({ before with pendSv := false }.halt .assertion, 0) →
      SwitchOutcome before psp (if result.1.halted.isSome then result.1
        else if result.2 = 0 then result.1.halt .pendSvInvalid else result.1) := by
    rintro _ (rfl | rfl)
    · rw [if_neg (by simp [live]), if_pos rfl]
      exact .trapped (.early before _)
    · exact .trapped (.early before _)
  have settle : ∀ result : Kernel × Word, result.1.halted = none → result.2 ≠ 0 →
      (if result.1.halted.isSome then result.1
        else if result.2 = 0 then result.1.halt .pendSvInvalid else result.1) = result.1 := by
    intro result running nonzero
    rw [running, Option.isSome_none, if_neg Bool.false_ne_true, if_neg nonzero]
  unfold pendSvHandler
  dsimp only
  unfold schedulerSwitchFromIsr
  split
  · exact early _ (Or.inl rfl)
  · split
    · exact early _ (Or.inl rfl)
    · rename_i current present
      dsimp only
      split
      · exact early _ (Or.inl rfl)
      · rename_i active
        simp only [not_or, Bool.not_eq_false] at active
        split
        · exact early _ (Or.inr rfl)
        · generalize stored : ({ before with pendSv := false }.setTaskAt current
            { ({ before with pendSv := false } : Kernel).taskAt current with
              savedSp := psp } : Kernel) = saved
          have savedEq : saved = { before with pendSv := false }.savedAt current psp :=
            stored.symm
          have savedHalted : saved.halted = none := by
            rw [savedEq, ← live]
            cases current <;> rfl
          obtain ⟨next, best, selects⟩ := control.selects_saved active.1 present psp
          rw [← savedEq] at selects
          rw [selects]
          dsimp only
          split
          · rw [if_pos rfl, savedEq]
            exact .trapped (.late psp _ present)
          · rename_i valid
            rw [Bool.not_eq_false] at valid
            have nonzero := schedulerSavedSpValid_ne_zero valid
            by_cases same : taskOrIdle next = current
            · rw [if_pos same, settle _ savedHalted nonzero, savedEq]
              exact .switched (.stays control present live active.1 best same)
            · have resumed := schedulerSwitchTo_switchedTo control present live active.1
                savedEq best
              rw [if_neg same, settle _ resumed.halted nonzero]
              exact .switched resumed

/-- The switch leaves the resumed task running and everything else as before. -/
theorem ControlOk.switched
    {before after : Kernel} {psp : Word} {next : Option Nat}
    (control : ControlOk before)
    (resumed : SwitchedTo before psp next after) : ControlOk after where
  stopped stopped := by
    rw [resumed.running, resumed.active] at stopped
    exact absurd stopped (by decide)
  started _ := ⟨_, resumed.currentTask⟩
  idle present := by
    rw [resumed.currentTask] at present
    cases next with
    | none => exact resumed.idle
    | some best => simp [taskOrIdle] at present
  user current present := by
    rw [resumed.currentTask] at present
    cases next with
    | none => simp [taskOrIdle] at present
    | some best =>
        obtain rfl : best = current := by simpa [taskOrIdle] using present
        refine ⟨resumed.taskCount ▸ resumed.selected.1.1, resumed.idle, Or.inl ?_⟩
        rw [resumed.tasks]
        exact if_pos rfl
  sole index active := by
    rw [resumed.currentTask]
    rw [resumed.tasks] at active
    dsimp only at active
    split at active
    · rename_i chosen
      rw [chosen]
      rfl
    · split at active
      · exact absurd active (by decide)
      · rename_i notCurrent
        exact absurd ⟨control.sole index active, active⟩ notCurrent

/-- A switch that stops the machine has moved nothing. -/
theorem ControlOk.trapped
    {before after : Kernel}
    (control : ControlOk before) (stopped : Trapped before after) : ControlOk after := by
  have states : ∀ index, (after.tasks index).state = (before.tasks index).state := by
    intro index
    obtain ⟨savedSp, same⟩ := stopped.tasks index
    rw [same]
  refine ⟨?_, ?_, ?_, ?_, ?_⟩
  · intro running
    rw [stopped.running] at running
    simpa only [stopped.currentTask, states] using control.stopped running
  · intro running
    rw [stopped.running] at running
    simpa only [stopped.currentTask] using control.started running
  · intro current
    rw [stopped.currentTask] at current
    simpa only [stopped.idle] using control.idle current
  · intro current present
    rw [stopped.currentTask] at present
    obtain ⟨current_lt, idle, state⟩ := control.user current present
    rw [stopped.taskCount, stopped.idle, states]
    exact ⟨current_lt, idle, state.imp_right fun blocked => ⟨blocked.1, Or.inr stopped.halted⟩⟩
  · intro index running
    rw [states] at running
    simpa only [stopped.currentTask] using control.sole index running

/-! ## SysTick -/

/-- Blocked tasks carry a reason, and mutex waiters a mutex. -/
def Kernel.WaitsNamed (kernel : Kernel) : Prop :=
  ∀ index, (kernel.tasks index).state = .blocked →
    (kernel.tasks index).waitReason ≠ .none ∧
      ((kernel.tasks index).waitReason = .mutex →
        ∃ mutex, (kernel.tasks index).waitObject = some (.mutex mutex))

/-- Completing waits keeps the others named. -/
theorem Kernel.WaitsNamed.wakes
    {before after : Kernel} {cause : WakeCause}
    (named : before.WaitsNamed) (woken : before.Wakes cause after) : after.WaitsNamed := by
  intro index blocked
  rcases woken.tasks index with ⟨same⟩ | ⟨_, _, ended⟩
  · rw [same] at blocked ⊢
    exact named index blocked
  · rw [ended] at blocked
    exact absurd blocked (before.wakeState_ne_blocked index)

/-- What the timeout pass has done after `count` positions. -/
structure Expired (now : Word) (before : Kernel) (count : Nat) (after : Kernel) : Prop where
  woken : before.Wakes (.expiry now) after
  objects : before.SameObjects after
  done : ∀ index < count, (after.tasks index).dueAt now = false

/-- One wait has expired; priorities and counters may have changed with it. -/
def Kernel.expireTask
    (kernel : Kernel) (index : Nat) (trace : Trace) (priorities : Nat → Nat)
    (counters : SchedulerCounters) : Kernel :=
  { (kernel.wakeTask index .timeout trace).withPriorities priorities with
    counters := counters }

/-- The expiry of one wait completes it because of its deadline. -/
theorem Kernel.Wakes.expireTask
    {now : Word} {kernel : Kernel} {index : Nat} {trace : Trace} {priorities : Nat → Nat}
    {counters : SchedulerCounters} (due : (kernel.tasks index).dueAt now = true) :
    kernel.Wakes (.expiry now) (kernel.expireTask index trace priorities counters) := by
  have blocked : (kernel.tasks index).state = .blocked := (Task.dueAt_iff.mp due).1
  have woken : kernel.Wakes (.expiry now) (kernel.wakeTask index .timeout trace) :=
    .wakeTask blocked ⟨rfl, due⟩
  exact (woken.trans (.withPriorities _ priorities)).trans
    (.of_tasks ⟨rfl, rfl, rfl, rfl, rfl⟩ rfl rfl rfl)

/-- One turn of the scan expires the task at its position when its deadline is reached. -/
theorem ExpireOutcome.cases
    {now : Word} {before after : Kernel} {index : Nat}
    (outcome : ExpireOutcome now before index after) :
    (after = before ∧ (before.tasks index).dueAt now = false) ∨
      ((before.tasks index).dueAt now = true ∧ ∃ trace priorities counters,
        after = before.expireTask index trace priorities counters) := by
  cases outcome with
  | skipped early => exact Or.inl ⟨rfl, early⟩
  | @expired trace counters due _ =>
      exact Or.inr ⟨due, trace, (before.wakeTask index .timeout trace).priorityOf, counters,
        rfl⟩
  | @withdrawn trace counters mutex due _ _ =>
      obtain ⟨priorities, removed⟩ :=
        mutexWaiterRemovedLocked_eq (before.wakeTask index .timeout trace) mutex
      exact Or.inr ⟨due, trace, priorities, counters, by rw [removed]; rfl⟩

/-- One iteration ends the wait at its position if it is due and no other wait. -/
theorem Expired.step
    {now : Word} {before middle : Kernel} {position : Nat}
    (named : before.WaitsNamed) (reached : Expired now before position middle) :
    Expired now before (position + 1) (schedulerExpireStep now middle position) := by
  have middleNamed := named.wakes reached.woken
  have outcome := schedulerExpireStep_outcome now middle position
    (fun blocked => (middleNamed position blocked).1)
    (fun blocked => (middleNamed position blocked).2)
  rcases outcome.cases with ⟨same, early⟩ | ⟨due, trace, priorities, counters, same⟩
  · rw [same]
    refine ⟨reached.woken, reached.objects, fun index small => ?_⟩
    by_cases last : index = position
    · rw [last]
      exact early
    · exact reached.done index (by omega)
  · rw [same]
    refine ⟨reached.woken.trans (.expireTask due),
      reached.objects.trans ⟨rfl, rfl, rfl, rfl, rfl⟩, fun index small => ?_⟩
    by_cases last : index = position
    · subst last
      rcases middle.wakeState_eq index with state | state <;>
        simp [Kernel.expireTask, Kernel.wakeTask, Task.dueAt, Task.endWait, state]
    · have other := reached.done index (by omega)
      rw [← other]
      simp [Kernel.expireTask, Kernel.wakeTask, last, Task.dueAt]

/-- The scan visits every position once. -/
theorem Expired.of_range
    {now : Word} {kernel : Kernel} (named : kernel.WaitsNamed) (count : Nat) :
    Expired now kernel count ((List.range count).foldl (schedulerExpireStep now) kernel) :=
  foldl_range_invariant (motive := fun count state => Expired now kernel count state)
    count kernel
    ⟨.refl kernel, .refl kernel, fun _ small => absurd small (Nat.not_lt_zero _)⟩
    (fun _ _ _ reached => reached.step named)

/-- The timeout pass ends every registered wait that is due and no other wait. -/
theorem schedulerExpireTimeouts_expired
    {now : Word} {kernel : Kernel} (named : kernel.WaitsNamed) :
    Expired now kernel kernel.taskCount (schedulerExpireTimeouts kernel now) :=
  .of_range named kernel.taskCount

/-- The kernel while SysTick runs, after the tick has been counted. -/
def Kernel.ticked (kernel : Kernel) : Kernel :=
  { kernel with tickCount := kernel.tickCount + 1 }

theorem Kernel.WaitsNamed.ticked {kernel : Kernel} (named : kernel.WaitsNamed) :
    kernel.ticked.WaitsNamed := named

/-- After the start a tick counts, expires waits and requests a switch. -/
theorem sysTickHandler_running {kernel : Kernel} (running : kernel.running = true) :
    sysTickHandler kernel =
      (schedulerExpireTimeouts kernel.ticked kernel.ticked.tickCount).requested := by
  rw [← schedulerRequestIfNeededLocked_eq]
  simp [sysTickHandler, schedulerTickIsr, Kernel.ticked, running]

/-- `SysTick_Handler` ends exactly the waits that are due at the new tick. -/
theorem sysTickHandler_expired
    {kernel : Kernel} (named : kernel.WaitsNamed) (running : kernel.running = true) :
    Expired kernel.ticked.tickCount kernel.ticked kernel.taskCount (sysTickHandler kernel) ∧
      ∃ expired, Expired kernel.ticked.tickCount kernel.ticked kernel.taskCount expired ∧
        sysTickHandler kernel = expired.requested := by
  have expired : Expired kernel.ticked.tickCount kernel.ticked kernel.taskCount
      (schedulerExpireTimeouts kernel.ticked kernel.ticked.tickCount) :=
    schedulerExpireTimeouts_expired named.ticked
  refine ⟨?_, _, expired, sysTickHandler_running running⟩
  rw [sysTickHandler_running running]
  exact ⟨expired.woken.trans (.requested _), expired.objects.trans ⟨rfl, rfl, rfl, rfl, rfl⟩,
    expired.done⟩

/-- Before the start it only counts. -/
theorem sysTickHandler_stopped {kernel : Kernel} (stopped : kernel.running = false) :
    sysTickHandler kernel = kernel.ticked := by
  simp [sysTickHandler, schedulerTickIsr, Kernel.ticked, stopped]

end ForgeKernel
