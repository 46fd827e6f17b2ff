import ForgeKernel.Invariant.Stacks
import ForgeKernel.Property.PriorityInheritance

/-!
# Fatal paths

The calls of `fr_scheduler_unblock_task_locked`, the return of `fr_scheduler_switch_from_isr`
and the stack pointer of the first task, in every state that a run with sound process stack
pointers reaches.
-/

namespace ForgeKernel

open Machines

/-! ## Waiters that are woken -/

/-- The calls of `fr_scheduler_unblock_task_locked` in critical sections and ticks that begin
with `start`: the kernel at the call, the chosen task and the result. -/
inductive UnblockSite (start : Kernel) : Kernel → Nat → WaitResult → Prop
  /-- `fr_mutex_unlock`, once the waiter is stored as owner. -/
  | mutexUnlock {index waiter : Nat}
      (selected : schedulerSelectWaiterLocked start .mutex (.mutex index) = some waiter) :
      UnblockSite start
        (start.setMutex index { start.mutexes index with owner := some waiter }) waiter .signaled
  /-- `fr_semaphore_give_common`. -/
  | semaphoreGive {semaphore : SemaphoreRef} {waiter : Nat}
      (selected : schedulerSelectWaiterLocked start .sync (.semaphore semaphore) = some waiter) :
      UnblockSite start start waiter .signaled
  /-- `fr_queue_wake_waiter_locked`, once an item has been transferred. -/
  | queueWake {reason : WaitReason} {index waiter : Nat} {queue : Queue}
      (direction : reason = .queueSend ∨ reason = .queueReceive)
      (selected : schedulerSelectWaiterLocked (start.setQueue index queue) reason
        (.queue index) = some waiter) :
      UnblockSite start (start.setQueue index queue) waiter .signaled
  /-- The loop of `fr_event_flags_set` at a satisfied waiter. -/
  | eventFlagsSet {index position : Nat} {bits : Word} {flags : EventFlags} {loop : Broadcast}
      (registered : position < start.taskCount)
      (reached : loop = (List.range position).foldl (eventFlagsSetStep index bits)
        ⟨start.setEventFlags index flags, 0, false⟩)
      (satisfied : (loop.kernel.tasks position).satisfiedBy index bits = true) :
      UnblockSite start (loop.kernel.setTask position { loop.kernel.tasks position with
        waitFlagsResult := bits &&& (loop.kernel.tasks position).waitFlagsMask })
        position .signaled
  /-- The loop of `fr_scheduler_expire_timeouts` at a wait that is due. -/
  | expiry {position : Nat} {middle : Kernel}
      (registered : position < start.taskCount)
      (reached : middle = (List.range position).foldl
        (schedulerExpireStep start.ticked.tickCount) start.ticked)
      (due : (middle.tasks position).dueAt start.ticked.tickCount = true) :
      UnblockSite start middle position .timeout

theorem schedulerUnblockTaskLocked_accepts
    {kernel : Kernel} {index : Nat} {result : WaitResult}
    (blocked : (kernel.tasks index).state = .blocked)
    (named : (kernel.tasks index).waitReason ≠ .none) (final : result ≠ .pending) :
    (schedulerUnblockTaskLocked kernel index result).2 = true := by
  obtain ⟨trace, woken⟩ := schedulerUnblockTaskLocked_eq kernel index result blocked named final
  rw [woken]

/-- Waiters that a registry scan selects are blocked for the reason it looks for. -/
theorem schedulerUnblockTaskLocked_selected
    {kernel after : Kernel} {reason : WaitReason} {object : ObjectRef} {waiter : Nat}
    (selected : schedulerSelectWaiterLocked kernel reason object = some waiter)
    (named : reason ≠ .none) (tasks : after.tasks = kernel.tasks) :
    (schedulerUnblockTaskLocked after waiter .signaled).2 = true := by
  obtain ⟨_, waits, _⟩ := schedulerSelectWaiterLocked_some selected
  obtain ⟨blocked, same, _, _⟩ := Task.waitsOn_iff.mp waits
  rw [← tasks] at blocked same
  exact schedulerUnblockTaskLocked_accepts blocked (same ▸ named) (by decide)

theorem UnblockSite.accepted
    {start kernel : Kernel} {index : Nat} {result : WaitResult}
    (named : start.WaitsNamed) (site : UnblockSite start kernel index result) :
    (schedulerUnblockTaskLocked kernel index result).2 = true := by
  cases site with
  | mutexUnlock selected =>
      exact schedulerUnblockTaskLocked_selected selected (by decide) rfl
  | semaphoreGive selected =>
      exact schedulerUnblockTaskLocked_selected selected (by decide) rfl
  | queueWake direction selected =>
      refine schedulerUnblockTaskLocked_selected selected ?_ rfl
      rcases direction with rfl | rfl <;> decide
  | eventFlagsSet _ _ satisfied =>
      simp only [Task.satisfiedBy, Bool.and_eq_true] at satisfied
      obtain ⟨blocked, reason, _, _⟩ := Task.waitsOn_iff.mp satisfied.1.1
      apply schedulerUnblockTaskLocked_accepts
      · rw [Kernel.setTask_tasks_self]
        exact blocked
      · rw [Kernel.setTask_tasks_self]
        rw [reason]
        decide
      · decide
  | expiry registered reached due =>
      have pass : Expired start.ticked.tickCount start.ticked index kernel := by
        rw [reached]
        exact .of_range named.ticked index
      have blocked := (Task.dueAt_iff.mp due).1
      exact schedulerUnblockTaskLocked_accepts blocked
        ((named.ticked.wakes pass.woken) index blocked).1 (by decide)

/-! ## All fatal paths -/

/-- With sound stack pointers only an `svc` with interrupts masked stops the machine. -/
theorem StacksOk.step_live
    {cfg : Config} {system after : System} {action : Action} {events : List Event}
    (stacksOk : StacksOk cfg system) (core : Core system) (sound : soundPsp system action)
    (step : system.step cfg action = some (after, events)) :
    after.kernel.halted = none ∨ after.kernel.halted = some .svcEscalated := by
  cases System.stepped step with
  | sysTick live => exact Or.inl ((sysTickHandler_updates system.kernel).framed.halted.trans live)
  | @pendSv psp live due =>
      have running := stacksOk.kernel.pending ((Bool.and_eq_true _ _).mp due).1
      obtain ⟨current, present⟩ := core.control.started running
      have valid := (stacksOk.kernel.psp_valid_iff core.control running present).mpr
        (sound current present)
      obtain ⟨next, _, done⟩ := stacksOk.kernel.switches core.control running present valid
      dsimp only
      rw [(done.handler live).1]
      exact Or.inl (done.control.2.trans live)
  | invoke active => exact Or.inl (core.active_cases active).1
  | advance active inCall stepped => exact stacksOk.advance_live core active inCall stepped
  | user active => exact Or.inl (core.active_cases active).1

theorem live_of_run
    {cfg : Config} {events : List Event} {system : System}
    (run : (forge cfg).Run soundPsp events system) :
    system.kernel.halted = none ∨ system.kernel.halted = some .svcEscalated := by
  cases run with
  | refl => exact Or.inl rfl
  | tail earlier sound stepped =>
      exact (StacksOk.of_run earlier).step_live (Core.of_run earlier) sound stepped

/-- No assertion fails and no trap is reached, a switch returns a stack pointer, a started
scheduler has one to dispatch, and no chosen waiter is refused. -/
theorem fatal_paths_unreachable
    {cfg : Config} {events : List Event} {system : System}
    (run : (forge cfg).Run soundPsp events system) :
    (∀ reason ∈ system.kernel.halted,
      reason ≠ .assertion ∧ reason ≠ .pendSvInvalid ∧ reason ≠ .svcInvalid) ∧
    (∀ psp, system.kernel.running = true → soundPsp system (.pendSv psp) →
      (schedulerSwitchFromIsr { system.kernel with pendSv := false } psp).2 ≠ 0) ∧
    (system.kernel.running = true → schedulerCurrentSavedSp system.kernel ≠ 0) ∧
    (∀ kernel index result, UnblockSite system.kernel kernel index result →
      (schedulerUnblockTaskLocked kernel index result).2 = true) := by
  have core := Core.of_run run
  have stacksOk := (StacksOk.of_run run).kernel
  refine ⟨?_, ?_, ?_, fun _ _ _ site => site.accepted core.waitsNamed⟩
  · intro reason halted
    rw [Option.mem_def] at halted
    rcases live_of_run run with live | escalated
    · rw [live] at halted
      cases halted
    · rw [escalated] at halted
      obtain rfl := Option.some.inj halted
      decide
  · intro psp running sound
    obtain ⟨current, present⟩ := core.control.started running
    have valid := (stacksOk.psp_valid_iff core.control running present).mpr
      (sound current present)
    obtain ⟨next, _, done⟩ := stacksOk.switches core.control running present valid
    rw [done.stackPointer]
    exact schedulerSavedSpValid_ne_zero done.nextValid
  · intro running
    obtain ⟨current, present⟩ := core.control.started running
    unfold schedulerCurrentSavedSp
    rw [present]
    exact schedulerSavedSpValid_ne_zero (stacksOk.current_saved core.control running present)

/-- A mutex with a blocked waiter is about to be unlocked. -/
theorem handoff_not_refused :
    ∃ events system, (forge Config.default).Run soundPsp events system ∧
      system.kernel.running = true ∧
      schedulerSelectWaiterLocked system.kernel .mutex (.mutex 0) = some 2 ∧
      (schedulerUnblockTaskLocked (system.kernel.setMutex 0
        { system.kernel.mutexes 0 with owner := some 2 }) 2 .signaled).2 = true ∧
      (schedulerSwitchFromIsr { system.kernel with pendSv := false }
        (Action.stackOf 0 + 64)).2 ≠ 0 := by
  obtain ⟨events, system, run, checked⟩ :=
    Machine.RunFrom.exists_of_execFrom (forge Config.default) soundPsp System.boot
      inversionProgram (fun _ system => decide (system.kernel.running = true ∧
        soundPsp system (.switchFrom 0) ∧
        schedulerSelectWaiterLocked system.kernel .mutex (.mutex 0) = some 2))
      (by decide +kernel)
  rw [decide_eq_true_eq] at checked
  obtain ⟨running, sound, selected⟩ := checked
  obtain ⟨_, switches, _, accepted⟩ := fatal_paths_unreachable run
  exact ⟨events, system, run, running, selected, accepted _ _ _ (.mutexUnlock selected),
    switches _ running sound⟩

end ForgeKernel
