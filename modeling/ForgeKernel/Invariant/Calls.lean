import ForgeKernel.Invariant.Effects

/-!
# The effect of every call

`Call.step_advance` finds, for every step of every kernel call, its effect on the
registry, the single object it may write, and whether it writes user memory.
-/

namespace ForgeKernel

section Steps

variable {cfg : Config} {cpu : Cpu} {kernel : Kernel} {memory : Memory} {self : Nat}
  {call : Call} {point : Point} {result : StepResult}

/-- A step that changes neither kernel nor memory. -/
theorem Advance.still {outcome : Outcome}
    (next : Passes cpu kernel self call point outcome) :
    Advance cfg cpu kernel memory self call point ⟨kernel, memory, outcome⟩ where
  effect := .passes (.refl kernel) id rfl next
  objects := (Kernel.SameObjects.refl kernel).sameExcept _
  memory _ := rfl
  priorities _ := rfl

/-- The checks before a critical section. -/
theorem Advance.arm {failure : Reply} (start : point.isOpening = true) :
    Advance cfg cpu kernel memory self call point
      (.arm cpu kernel memory call.timeoutTicks failure) := by
  unfold StepResult.arm
  split
  · rename_i allowed
    split
    · rename_i timeout started
      exact .still (.armed start allowed started)
    · exact .still .reply
  · exact .still .reply

/-- A single update that leaves the registry alone. -/
theorem Advance.atomic
    {after : Kernel × Bool}
    (control : kernel.SameControl after.1) (pendSv : after.1.pendSv = kernel.pendSv)
    (tasks : after.1.tasks = kernel.tasks)
    (objects : kernel.SameExcept call.object after.1)
    (stepped : atomicStep memory after point = some result) :
    Advance cfg cpu kernel memory self call point result := by
  cases point with
  | entry =>
      obtain rfl : StepResult.reply after.1 memory (.bool after.2) = result :=
        Option.some.inj stepped
      exact ⟨.passes control (fun pending => pendSv.trans pending) tasks .reply, objects,
        fun _ => rfl, fun _ => Kernel.priorityOf_congr tasks⟩
  | _ => exact absurd stepped (by simp [atomicStep])

/-- A blocking step of a call that stores nothing in the control block before. -/
theorem Effect.waits_plain
    {current : Nat} {reason : WaitReason} {object : Option ObjectRef}
    {ticks : Word} {trace : Trace} {priorities : Nat → Nat} {next : Point}
    (plain : call.prepare = id)
    (runs : kernel.Runs current)
    (wait : call.wait = some (reason, object))
    (accepted : blockAccepted reason object ticks)
    (timing : WaitTiming cpu kernel.tickCount call point ticks next) :
    Effect cfg cpu kernel self call point
      ((kernel.blockTask current reason object ticks trace).withPriorities priorities)
      (.goto next) := by
  have same : kernel.setTask current (call.prepare (kernel.tasks current)) = kernel := by
    rw [plain, id, Kernel.setTask, Function.update_eq_self]
  exact .waits runs wait accepted timing (by rw [same])

/-- A section that ends in a block, of a call that stores nothing before. -/
theorem Advance.blocks
    {current : Nat} {reason : WaitReason} {object : Option ObjectRef}
    {ticks : Word} {trace : Trace} {next : Point}
    (plain : call.prepare = id)
    (runs : kernel.Runs current)
    (wait : call.wait = some (reason, object))
    (accepted : blockAccepted reason object ticks)
    (timing : WaitTiming cpu kernel.tickCount call point ticks next) :
    Advance cfg cpu kernel memory self call point
      ⟨kernel.blockTask current reason object ticks trace, memory, .goto next⟩ where
  effect := by
    rw [← (kernel.blockTask current reason object ticks trace).withPriorities_priorityOf]
    exact .waits_plain plain runs wait accepted timing
  objects := Kernel.SameObjects.sameExcept ⟨rfl, rfl, rfl, rfl, rfl⟩ _
  memory _ := rfl
  priorities _ := kernel.blockTask_priorityOf ..

/-- Storing one object leaves all the others alone; here a mutex. -/
theorem Kernel.sameExcept_setMutex (kernel : Kernel) (index : Nat) (mutex : Mutex) :
    kernel.SameExcept (some (.mutex index)) (kernel.setMutex index mutex) := by
  rintro (other | ⟨other | other⟩ | other | other) different
  · exact Function.update_of_ne (fun same => different (by rw [same])) ..
  all_goals rfl

theorem Kernel.sameExcept_setQueue (kernel : Kernel) (index : Nat) (queue : Queue) :
    kernel.SameExcept (some (.queue index)) (kernel.setQueue index queue) := by
  rintro (other | ⟨other | other⟩ | other | other) different
  case queue => exact Function.update_of_ne (fun same => different (by rw [same])) ..
  all_goals rfl

theorem Kernel.sameExcept_setEventFlags (kernel : Kernel) (index : Nat) (flags : EventFlags) :
    kernel.SameExcept (some (.eventFlags index)) (kernel.setEventFlags index flags) := by
  rintro (other | ⟨other | other⟩ | other | other) different
  case eventFlags => exact Function.update_of_ne (fun same => different (by rw [same])) ..
  all_goals rfl

theorem Kernel.sameExcept_setSemaphoreCount
    (kernel : Kernel) (semaphore : SemaphoreRef) (count : Word) :
    kernel.SameExcept (some (.semaphore semaphore))
      (kernel.setSemaphoreCount semaphore count) := by
  rintro (other | ⟨other | other⟩ | other | other) different <;>
    rcases semaphore with index | index <;>
    first
      | rfl
      | exact Function.update_of_ne (fun same => different (by rw [same])) ..

/-! ### The calls, one by one -/

/-- The parts of `fr_task_create` reserve, build and publish. -/
theorem taskCreateStep_advance {outTask : Bool} {config : Option TaskConfig}
    (stepped : taskCreateStep cfg kernel memory outTask config point = some result) :
    Advance cfg cpu kernel memory self (.taskCreate outTask config) point result := by
  cases point with
  | entry =>
      simp only [taskCreateStep] at stepped
      split at stepped
      · rename_i config
        split at stepped
        · rename_i checked
          split at stepped
          · rename_i reserved done
            obtain rfl := Option.some.inj stepped
            refine ⟨.reserves rfl checked done, ?_, fun _ => rfl,
              fun plain => absurd plain (by simp [Call.reprices])⟩
            unfold taskCreateReserve at done
            split at done
            · exact absurd done (by simp)
            · obtain rfl := Option.some.inj done
              exact Kernel.SameObjects.sameExcept ⟨rfl, rfl, rfl, rfl, rfl⟩ _
          · obtain rfl := Option.some.inj stepped
            exact .still .reply
        · obtain rfl := Option.some.inj stepped
          exact .still .reply
      · obtain rfl := Option.some.inj stepped
        exact .still .reply
  | reserved index =>
      obtain rfl := Option.some.inj stepped
      refine ⟨.builds rfl rfl, Kernel.SameObjects.sameExcept ?_ _, fun _ => rfl,
              fun plain => absurd plain (by simp [Call.reprices])⟩
      simp only [StepResult.goto, taskCreateBuild]
      split <;> exact ⟨rfl, rfl, rfl, rfl, rfl⟩
  | built index initialSp =>
      obtain rfl := Option.some.inj stepped
      refine ⟨.publishes rfl rfl, Kernel.SameObjects.sameExcept ?_ _, fun _ => rfl,
              fun plain => absurd plain (by simp [Call.reprices])⟩
      simp only [StepResult.reply, taskCreatePublish]
      split <;> exact ⟨rfl, rfl, rfl, rfl, rfl⟩
  | _ => exact absurd stepped (by simp [taskCreateStep])

/-- `fr_task_sleep` blocks until its deadline and then reads the result. -/
theorem taskSleepStep_advance {delayTicks : Word}
    (stepped : taskSleepStep cpu kernel memory self delayTicks point = some result) :
    Advance cfg cpu kernel memory self (.taskSleep delayTicks) point result := by
  cases point with
  | entry =>
      simp only [taskSleepStep] at stepped
      obtain rfl := Option.some.inj stepped
      have outcome := taskSleepSection_outcome cpu kernel delayTicks
      generalize taskSleepSection cpu kernel delayTicks = section_ at outcome
      cases outcome with
      | refused => exact .still .reply
      | sleeps runs unmasked accepted finite =>
          exact .blocks rfl runs rfl accepted (.sleep unmasked finite)
  | asleep =>
      obtain rfl := Option.some.inj stepped
      exact .still .reply
  | _ => exact absurd stepped (by simp [taskSleepStep])

/-- `fr_task_yield` requests a switch and returns. -/
theorem taskYieldStep_advance
    (stepped : taskYieldStep cpu kernel memory point = some result) :
    Advance cfg cpu kernel memory self .taskYield point result := by
  cases point with
  | entry =>
      simp only [taskYieldStep] at stepped
      split at stepped
      · obtain rfl := Option.some.inj stepped
        exact .still (.svc rfl)
      · obtain rfl := Option.some.inj stepped
        exact .still .reply
  | svc =>
      simp only [taskYieldStep] at stepped
      split at stepped
      · obtain rfl := Option.some.inj stepped
        exact ⟨.passes ⟨rfl, rfl, rfl, rfl, rfl⟩ id rfl .reply,
          Kernel.SameObjects.sameExcept ⟨rfl, rfl, rfl, rfl, rfl⟩ _, fun _ => rfl, fun _ => rfl⟩
      · obtain rfl := Option.some.inj stepped
        exact ⟨.passes ⟨rfl, rfl, rfl, rfl, rfl⟩ (fun _ => rfl) rfl .reply,
          Kernel.SameObjects.sameExcept ⟨rfl, rfl, rfl, rfl, rfl⟩ _, fun _ => rfl, fun _ => rfl⟩
  | _ => exact absurd stepped (by simp [taskYieldStep])

/-- The kernel once the first task has been selected. -/
structure StartedWith (kernel : Kernel) (first : Option Nat) (after : Kernel) : Prop where
  objects : kernel.SameObjects after
  selected : Scans.IsBest kernel.priorityOf
    (kernel.eligibleTasks fun task => task.state = .ready) first
  tasks : ∀ index, after.tasks index =
    if first = some index then { kernel.tasks index with state := .running }
    else kernel.tasks index
  idle : after.idleTask.state = if first = none then .running else .ready
  taskCount : after.taskCount = kernel.taskCount
  tickCount : after.tickCount = kernel.tickCount
  currentTask : after.currentTask = some (taskOrIdle first)
  running : after.running = true

/-- Outcomes of `fr_scheduler_start`. -/
inductive StartOutcome (kernel : Kernel) : Option Kernel → Prop
  | refused (running : kernel.running = true) : StartOutcome kernel none
  | stopped {after : Kernel}
      (objects : kernel.SameObjects after)
      (tasks : after.tasks = kernel.tasks)
      (taskCount : after.taskCount = kernel.taskCount)
      (tickCount : after.tickCount = kernel.tickCount)
      (currentTask : after.currentTask = kernel.currentTask)
      (running : after.running = false)
      (halted : after.halted.isSome) : StartOutcome kernel (some after)
  | started {first : Option Nat} {after : Kernel}
      (launched : StartedWith kernel first after) : StartOutcome kernel (some after)

/-- The idle task is ready or the machine has stopped; user tasks are untouched. -/
theorem schedulerInitializeIdle_facts (cfg : Config) (kernel : Kernel) :
    let ready := schedulerInitializeIdle cfg kernel
    kernel.SameObjects ready ∧ ready.tasks = kernel.tasks ∧
      ready.taskCount = kernel.taskCount ∧ ready.tickCount = kernel.tickCount ∧
      ready.currentTask = kernel.currentTask ∧ ready.running = kernel.running ∧
      (ready.halted.isSome ∨ ready.idleTask.state = .ready) := by
  unfold schedulerInitializeIdle
  dsimp only
  split
  · exact ⟨⟨rfl, rfl, rfl, rfl, rfl⟩, rfl, rfl, rfl, rfl, rfl, Or.inr rfl⟩
  · exact ⟨⟨rfl, rfl, rfl, rfl, rfl⟩, rfl, rfl, rfl, rfl, rfl, Or.inl rfl⟩

/-- The first task is started when it is the best of the READY ones. -/
theorem schedulerStartFirst_startedWith
    {kernel : Kernel} {first : Option Nat}
    (ready : kernel.idleTask.state = .ready)
    (selected : Scans.IsBest kernel.priorityOf
      (kernel.eligibleTasks fun task => task.state = .ready) first) :
    StartedWith kernel first (schedulerStartFirst kernel (taskOrIdle first)) := by
  cases first with
  | none =>
      exact ⟨⟨rfl, rfl, rfl, rfl, rfl⟩, selected, fun _ => rfl, rfl, rfl, rfl, rfl, rfl⟩
  | some best =>
      refine ⟨⟨rfl, rfl, rfl, rfl, rfl⟩, selected, ?_, ready, rfl, rfl, rfl, rfl⟩
      intro index
      change Function.update kernel.tasks best
        { kernel.tasks best with state := .running } index = _
      by_cases same : index = best
      · subst same
        simp
      · simp [same, Ne.symm same]

/-- The port code leaves what the scheduler has started, or stops. -/
theorem portStartFirstTask_startedWith
    (cpu : Cpu) {kernel after : Kernel} {first : Option Nat} (ref : TaskRef)
    (started : StartedWith kernel first after) :
    StartedWith kernel first (portStartFirstTask cpu after ref) := by
  have stops : ∀ reason, StartedWith kernel first (after.halt reason) := fun _ =>
    ⟨started.objects.trans ⟨rfl, rfl, rfl, rfl, rfl⟩, started.selected, started.tasks,
      started.idle, started.taskCount, started.tickCount, started.currentTask,
      started.running⟩
  unfold portStartFirstTask
  split
  · exact stops _
  · split
    · exact stops _
    · exact started

/-- `fr_scheduler_start` returns `false`, stops, or starts the best READY task. -/
theorem schedulerStart_outcome (cfg : Config) (cpu : Cpu) (kernel : Kernel) :
    StartOutcome kernel (schedulerStart cfg cpu kernel) := by
  unfold schedulerStart
  cases running : kernel.running with
  | true => exact .refused running
  | false =>
      rw [if_neg Bool.false_ne_true]
      obtain ⟨objects, tasks, taskCount, tickCount, currentTask, stopped, idle⟩ :=
        schedulerInitializeIdle_facts cfg kernel
      generalize schedulerInitializeIdle cfg kernel = prepared at *
      rw [running] at stopped
      dsimp only
      split
      · rename_i halted
        exact .stopped objects tasks taskCount tickCount currentTask stopped halted
      · rename_i live
        split
        · have selected := prepared.selectBest_isBest fun task => task.state = .ready
          have launched := portStartFirstTask_startedWith cpu
            (taskOrIdle (prepared.selectBest fun task => task.state = .ready))
            (schedulerStartFirst_startedWith (idle.resolve_left live) selected)
          refine .started ⟨objects.trans launched.objects, ?_, ?_, launched.idle,
            launched.taskCount.trans taskCount, launched.tickCount.trans tickCount,
            launched.currentTask, launched.running⟩
          · have priorities : prepared.priorityOf = kernel.priorityOf := by
              funext index
              simp only [Kernel.priorityOf, tasks]
            simpa only [priorities, Kernel.eligibleTasks, tasks, taskCount] using selected
          · intro index
            rw [← tasks]
            exact launched.tasks index
        · exact .stopped (objects.trans ⟨rfl, rfl, rfl, rfl, rfl⟩) tasks taskCount tickCount
            currentTask stopped rfl

/-- The step of `fr_scheduler_start` has that outcome. -/
theorem schedulerStartStep_advance
    (stepped : schedulerStartStep cfg cpu kernel memory point = some result) :
    Advance cfg cpu kernel memory self .schedulerStart point result := by
  cases point with
  | entry =>
      simp only [schedulerStartStep] at stepped
      have outcome := schedulerStart_outcome cfg cpu kernel
      split at stepped
      · rename_i after started
        obtain rfl := Option.some.inj stepped
        rw [started] at outcome
        refine ⟨.starts rfl started, Kernel.SameObjects.sameExcept ?_ _, fun _ => rfl, fun _ => ?_⟩
        · cases outcome with
          | stopped objects => exact objects
          | started launched => exact launched.objects
        · cases outcome with
          | stopped _ tasks => exact Kernel.priorityOf_congr tasks
          | started launched =>
              funext index
              simp only [Kernel.priorityOf, StepResult.goto, launched.tasks]
              split <;> rfl
      · obtain rfl := Option.some.inj stepped
        exact .still .reply
  | _ => exact absurd stepped (by simp [schedulerStartStep])

/-- `fr_mutex_lock` takes a free mutex, or donates its priority and blocks. -/
theorem mutexLockStep_advance {mutex : Option Nat} {timeoutTicks : Word}
    (stepped : mutexLockStep cpu kernel memory self mutex timeoutTicks point = some result) :
    Advance cfg cpu kernel memory self (.mutexLock mutex timeoutTicks) point result := by
  cases point with
  | entry =>
      simp only [mutexLockStep] at stepped
      split at stepped
      · obtain rfl := Option.some.inj stepped
        exact .still .reply
      · obtain rfl := Option.some.inj stepped
        exact .arm rfl
  | armed timeout =>
      obtain ⟨index, rfl, rfl⟩ := Option.map_eq_some_iff.mp stepped
      have outcome := mutexLockSection_outcome cpu kernel index timeout
      generalize mutexLockSection cpu kernel index timeout = ended at outcome
      cases outcome with
      | refused => exact .still .reply
      | acquired =>
          exact ⟨.passes ⟨rfl, rfl, rfl, rfl, rfl⟩ id rfl .reply,
            kernel.sameExcept_setMutex index _, fun _ => rfl,
              fun plain => absurd plain (by simp [Call.reprices])⟩
      | waits runs _ _ _ remaining accepted =>
          exact ⟨.waits_plain rfl runs rfl accepted (.timed (.inl rfl) remaining),
            Kernel.SameObjects.sameExcept ⟨rfl, rfl, rfl, rfl, rfl⟩ _, fun _ => rfl,
              fun plain => absurd plain (by simp [Call.reprices])⟩
  | suspended timeout =>
      simp only [mutexLockStep] at stepped
      split at stepped
      · rename_i signaled
        obtain rfl := Option.some.inj stepped
        exact .still (.signaled rfl signaled)
      · obtain rfl := Option.some.inj stepped
        exact .still .reply
  | signaled timeout =>
      obtain ⟨index, rfl, rfl⟩ := Option.map_eq_some_iff.mp stepped
      exact .still .reply
  | _ => exact absurd stepped (by simp [mutexLockStep])

/-- `fr_mutex_unlock` wakes the waiter that becomes the owner. -/
theorem mutexUnlock_advance {mutex : Option Nat}
    (stepped : atomicStep memory (mutex.elim (kernel, false)
      (ForgeKernel.mutexUnlock cpu kernel)) point = some result) :
    Advance cfg cpu kernel memory self (.mutexUnlock mutex) point result := by
  cases point with
  | entry =>
      obtain rfl := Option.some.inj stepped
      cases mutex with
      | none => exact .still .reply
      | some index =>
          dsimp only [Option.elim]
          have outcome := mutexUnlock_outcome cpu kernel index
          generalize ForgeKernel.mutexUnlock cpu kernel index = ended at outcome
          cases outcome with
          | refused => exact .still .reply
          | released _ running _ _ unwanted =>
              exact ⟨.wakes running rfl ((Kernel.Wakes.setMutex kernel index _).trans
                (.withPriorities _ _)) (.released rfl unwanted rfl),
                kernel.sameExcept_setMutex index _, fun _ => rfl,
              fun plain => absurd plain (by simp [Call.reprices])⟩
          | handed _ running _ _ _ waits =>
              exact ⟨.wakes running rfl ((((Kernel.Wakes.setMutex kernel index _).trans
                (.signalTask waits)).trans (.withPriorities _ _)).trans (.requested _))
                (.requests rfl), kernel.sameExcept_setMutex index _, fun _ => rfl,
              fun plain => absurd plain (by simp [Call.reprices])⟩
  | _ => exact absurd stepped (by simp [atomicStep])

/-- A take consumes a token, or blocks. -/
theorem semaphoreTakeStep_advance {semaphore : Option SemaphoreRef} {timeoutTicks : Word}
    (stepped : semaphoreTakeStep cpu kernel memory self semaphore timeoutTicks point =
      some result) :
    Advance cfg cpu kernel memory self (.semaphoreTake semaphore timeoutTicks) point result := by
  cases point with
  | entry =>
      simp only [semaphoreTakeStep] at stepped
      split at stepped
      · obtain rfl := Option.some.inj stepped
        exact .still .reply
      · split at stepped
        · obtain rfl := Option.some.inj stepped
          exact .still (.guarded rfl)
        · obtain rfl := Option.some.inj stepped
          exact .still .reply
  | guarded maxCount =>
      obtain rfl := Option.some.inj stepped
      exact .arm rfl
  | armed timeout =>
      obtain ⟨ref, rfl, rfl⟩ := Option.map_eq_some_iff.mp stepped
      have outcome := semaphoreTakeSection_outcome cpu kernel ref timeout
      generalize semaphoreTakeSection cpu kernel ref timeout = ended at outcome
      cases outcome with
      | refused => exact .still .reply
      | taken =>
          refine ⟨?_, kernel.sameExcept_setSemaphoreCount ref _, fun _ => rfl, fun _ => ?_⟩
          · cases ref <;> exact .passes ⟨rfl, rfl, rfl, rfl, rfl⟩ id rfl .reply
          · cases ref <;> rfl
      | waits runs _ remaining accepted =>
          exact .blocks rfl runs rfl accepted (.timed (.inl rfl) remaining)
  | suspended timeout =>
      obtain rfl := Option.some.inj stepped
      exact .still .reply
  | _ => exact absurd stepped (by simp [semaphoreTakeStep])

/-- A give wakes the best waiter, or stores a token. -/
theorem semaphoreGiveStep_advance {semaphore : Option SemaphoreRef}
    (stepped : semaphoreGiveStep cpu kernel memory semaphore point = some result) :
    Advance cfg cpu kernel memory self (.semaphoreGive semaphore) point result := by
  cases point with
  | entry =>
      simp only [semaphoreGiveStep] at stepped
      split at stepped
      · obtain rfl := Option.some.inj stepped
        exact .still .reply
      · split at stepped
        · obtain rfl := Option.some.inj stepped
          exact .still (.guarded rfl)
        · obtain rfl := Option.some.inj stepped
          exact .still .reply
  | guarded maxCount =>
      obtain ⟨ref, rfl, rfl⟩ := Option.map_eq_some_iff.mp stepped
      have outcome := semaphoreGiveSection_outcome cpu kernel ref maxCount
      generalize semaphoreGiveSection cpu kernel ref maxCount = ended at outcome
      cases outcome with
      | denied => exact .still .reply
      | conflict => exact .still .reply
      | full => exact .still .reply
      | woken running _ waits =>
          exact ⟨.wakes running rfl ((Kernel.Wakes.signalTask waits).trans (.requested _))
              (.requests rfl), Kernel.SameObjects.sameExcept ⟨rfl, rfl, rfl, rfl, rfl⟩ _,
              fun _ => rfl,
            fun _ => by
              simp only [StepResult.reply, Kernel.requested_priorityOf,
                Kernel.wakeTask_priorityOf]⟩
      | stored =>
          refine ⟨?_, kernel.sameExcept_setSemaphoreCount ref _, fun _ => rfl, fun _ => ?_⟩
          · cases ref <;> exact .passes ⟨rfl, rfl, rfl, rfl, rfl⟩ id rfl .reply
          · cases ref <;> rfl
  | _ => exact absurd stepped (by simp [semaphoreGiveStep])

/-- The wake-up after a transfer completes a wait on that queue and writes no object. -/
theorem WakeOutcome.wakes
    {reason : WaitReason} {index : Nat} {after : Kernel}
    (outcome : WakeOutcome kernel reason index after) :
    kernel.Wakes (.signal reason (.queue index)) after ∧ kernel.SameObjects after := by
  cases outcome with
  | unwanted => exact ⟨.refl kernel, .refl kernel⟩
  | woken _ waits =>
      exact ⟨(Kernel.Wakes.signalTask waits).trans (.requested _), ⟨rfl, rfl, rfl, rfl, rfl⟩⟩

/-- It requests a switch when it has woken somebody. -/
theorem WakeOutcome.notified
    {reason : WaitReason} {index : Nat} {queue : Queue} {after : Kernel}
    (outcome : WakeOutcome (kernel.setQueue index queue) reason index after) :
    Notified call kernel after := by
  cases outcome with
  | unwanted => exact .nobody rfl
  | woken => exact .requests rfl

/-- It changes no priority. -/
theorem WakeOutcome.priorityOf
    {reason : WaitReason} {index : Nat} {queue : Queue} {after : Kernel}
    (outcome : WakeOutcome (kernel.setQueue index queue) reason index after) :
    after.priorityOf = kernel.priorityOf := by
  cases outcome with
  | unwanted => rfl
  | woken =>
      rw [Kernel.requested_priorityOf, Kernel.wakeTask_priorityOf]
      rfl

/-- One critical section of a send, from either loop entry. -/
theorem queueSend_advance {index : Nat} {item timeoutTicks : Word} {timeout : WaitTimeout}
    (start : point = .armed timeout ∨ point = .signaled timeout) :
    Advance cfg cpu kernel memory self (.queueSendWait (some index) item timeoutTicks) point
      (.ofProgress memory (.suspended timeout)
        (queueSendSection cpu kernel memory index item timeout)) := by
  have outcome := queueSendSection_outcome cpu kernel memory index item timeout
  generalize queueSendSection cpu kernel memory index item timeout = ended at outcome
  cases outcome with
  | denied => exact .still .reply
  | expired => exact .still .reply
  | sent entered _ wake =>
      exact ⟨.wakes entered.running rfl ((Kernel.Wakes.setQueue kernel index _).trans
        wake.wakes.1) wake.notified,
        (kernel.sameExcept_setQueue index _).trans (wake.wakes.2.sameExcept _),
        fun _ => rfl, fun _ => wake.priorityOf⟩
  | waits _ _ runs remaining accepted =>
      exact .blocks rfl runs rfl accepted (.timed start remaining)

/-- One critical section of a receive, from either loop entry. -/
theorem queueReceive_advance {index : Nat} {item timeoutTicks : Word} {timeout : WaitTimeout}
    {received : Kernel × Memory × Progress Bool}
    (start : point = .armed timeout ∨ point = .signaled timeout)
    (outcome : ReceiveOutcome cpu kernel memory index item timeout received) :
    Advance cfg cpu kernel memory self (.queueReceiveWait (some index) item timeoutTicks) point
      (.ofProgress received.2.1 (.suspended timeout) (received.1, received.2.2)) := by
  cases outcome with
  | denied => exact .still .reply
  | expired => exact .still .reply
  | received entered _ wake =>
      exact ⟨.wakes entered.running rfl ((Kernel.Wakes.setQueue kernel index _).trans
        wake.wakes.1) wake.notified,
        (kernel.sameExcept_setQueue index _).trans (wake.wakes.2.sameExcept _),
        fun other => absurd rfl (other _ _ _), fun _ => wake.priorityOf⟩
  | waits _ _ runs remaining accepted =>
      exact .blocks rfl runs rfl accepted (.timed start remaining)

/-- The checks of a queue operation leave the kernel alone. -/
theorem queueEntryStep_advance {queue : Option Nat} {item : Word} :
    Advance cfg cpu kernel memory self call .entry
      (queueEntryStep cpu kernel memory queue item call.timeoutTicks) := by
  unfold queueEntryStep
  split
  · exact .still .reply
  · exact .arm rfl

/-- So does reading the result of its wait. -/
theorem queueResumeStep_advance {timeout : WaitTimeout} :
    Advance cfg cpu kernel memory self call (.suspended timeout)
      (queueResumeStep kernel memory self timeout) := by
  unfold queueResumeStep
  split
  · rename_i signaled
    exact .still (.signaled rfl signaled)
  all_goals exact .still .reply

/-- A send transfers its item and wakes a receiver, or blocks. -/
theorem queueSendStep_advance {queue : Option Nat} {item timeoutTicks : Word}
    (stepped : queueSendStep cpu kernel memory self queue item timeoutTicks point =
      some result) :
    Advance cfg cpu kernel memory self (.queueSendWait queue item timeoutTicks) point result := by
  cases point with
  | entry =>
      obtain rfl := Option.some.inj stepped
      exact queueEntryStep_advance
  | armed timeout =>
      obtain ⟨index, rfl, rfl⟩ := Option.map_eq_some_iff.mp stepped
      exact queueSend_advance (.inl rfl)
  | signaled timeout =>
      obtain ⟨index, rfl, rfl⟩ := Option.map_eq_some_iff.mp stepped
      exact queueSend_advance (.inr rfl)
  | suspended timeout =>
      obtain rfl := Option.some.inj stepped
      exact queueResumeStep_advance
  | _ => exact absurd stepped (by simp [queueSendStep])

/-- A receive transfers an item and wakes a sender, or blocks. -/
theorem queueReceiveStep_advance {queue : Option Nat} {item timeoutTicks : Word}
    (stepped : queueReceiveStep cpu kernel memory self queue item timeoutTicks point =
      some result) :
    Advance cfg cpu kernel memory self (.queueReceiveWait queue item timeoutTicks) point
      result := by
  cases point with
  | entry =>
      obtain rfl := Option.some.inj stepped
      exact queueEntryStep_advance
  | armed timeout =>
      obtain ⟨index, rfl, rfl⟩ := Option.map_eq_some_iff.mp stepped
      exact queueReceive_advance (.inl rfl) (queueReceiveSection_outcome ..)
  | signaled timeout =>
      obtain ⟨index, rfl, rfl⟩ := Option.map_eq_some_iff.mp stepped
      exact queueReceive_advance (.inr rfl) (queueReceiveSection_outcome ..)
  | suspended timeout =>
      obtain rfl := Option.some.inj stepped
      exact queueResumeStep_advance
  | _ => exact absurd stepped (by simp [queueReceiveStep])

/-- `fr_event_flags_set` wakes every waiter whose condition is met. -/
theorem eventFlagsSet_advance {flags : Option Nat} {bits : Word}
    (stepped : atomicStep memory (flags.elim (kernel, false)
      fun index => ForgeKernel.eventFlagsSet cpu kernel index bits) point = some result) :
    Advance cfg cpu kernel memory self (.eventFlagsSet flags bits) point result := by
  cases point with
  | entry =>
      obtain rfl := Option.some.inj stepped
      cases flags with
      | none => exact .still .reply
      | some index =>
          dsimp only [Option.elim]
          have outcome := eventFlagsSet_outcome cpu kernel index bits
          generalize ForgeKernel.eventFlagsSet cpu kernel index bits = ended at outcome
          cases outcome with
          | denied => exact .still .reply
          | @silent cleared trace running unsatisfied =>
              exact ⟨.wakes running rfl ((Kernel.Wakes.broadcast kernel index _ _ _).trans
                (.setEventFlags _ _ _))
                (.nobody (kernel.broadcast_tasks_of_unsatisfied trace unsatisfied)),
                kernel.sameExcept_setEventFlags index _,
                fun _ => rfl, fun _ => kernel.broadcast_priorityOf _ _ _ trace⟩
          | @broadcast cleared trace running =>
              exact ⟨.wakes running rfl (((Kernel.Wakes.broadcast kernel index _ _ _).trans
                (.setEventFlags _ _ _)).trans (.requested _)) (.requests rfl),
                kernel.sameExcept_setEventFlags index _, fun _ => rfl,
                fun _ => kernel.broadcast_priorityOf _ _ _ trace⟩
  | _ => exact absurd stepped (by simp [atomicStep])

/-- `fr_event_flags_wait` takes its bits, or stores its request and blocks. -/
theorem eventFlagsWaitStep_advance
    {flags : Option Nat} {request : FlagsRequest} {timeoutTicks : Word} {matchedBits : Bool}
    (stepped : eventFlagsWaitStep cpu kernel memory self flags request timeoutTicks
      matchedBits point = some result) :
    Advance cfg cpu kernel memory self
      (.eventFlagsWait flags request timeoutTicks matchedBits) point result := by
  cases point with
  | entry =>
      simp only [eventFlagsWaitStep] at stepped
      split at stepped
      · obtain rfl := Option.some.inj stepped
        exact .still .reply
      · obtain rfl := Option.some.inj stepped
        exact .arm rfl
  | armed timeout =>
      obtain ⟨index, rfl, rfl⟩ := Option.map_eq_some_iff.mp stepped
      have outcome := eventFlagsWaitSection_outcome cpu kernel index request timeout
      generalize eventFlagsWaitSection cpu kernel index request timeout = ended at outcome
      cases outcome with
      | refused => exact .still .reply
      | unblocked active =>
          exact ⟨.resets active rfl, Kernel.SameObjects.sameExcept ⟨rfl, rfl, rfl, rfl, rfl⟩ _,
            fun _ => rfl, fun _ => kernel.setTask_priorityOf rfl⟩
      | satisfied =>
          dsimp only
          split
          · exact ⟨.passes ⟨rfl, rfl, rfl, rfl, rfl⟩ id rfl .reply,
              kernel.sameExcept_setEventFlags index _, fun _ => rfl, fun _ => rfl⟩
          · exact .still .reply
      | @waits current ticks trace runs _ remaining accepted =>
          exact ⟨.waits runs rfl accepted (.timed (.inl rfl) remaining)
            (Kernel.withPriorities_priorityOf _).symm,
            Kernel.SameObjects.sameExcept ⟨rfl, rfl, rfl, rfl, rfl⟩ _, fun _ => rfl,
            fun _ => (Kernel.blockTask_priorityOf _ _ _ _ ticks trace).trans
              (kernel.setTask_priorityOf rfl)⟩
  | suspended timeout =>
      simp only [eventFlagsWaitStep] at stepped
      split at stepped
      · rename_i signaled
        obtain rfl := Option.some.inj stepped
        exact .still (.signaled rfl signaled)
      · obtain rfl := Option.some.inj stepped
        exact .still .reply
  | signaled timeout =>
      obtain rfl := Option.some.inj stepped
      exact .still .reply
  | _ => exact absurd stepped (by simp [eventFlagsWaitStep])

/-- Calls that either refuse or store one object. -/
theorem Advance.store {reference : Option Nat} {operation : Nat → Kernel × Bool}
    (after : Nat → Kernel)
    (refuses : ∀ index, operation index = (kernel, false) ∨
      operation index = (after index, true))
    (control : ∀ index, kernel.SameControl (after index))
    (pendSv : ∀ index, (after index).pendSv = kernel.pendSv)
    (tasks : ∀ index, (after index).tasks = kernel.tasks)
    (objects : ∀ index, reference = some index → kernel.SameExcept call.object (after index))
    (stepped : atomicStep memory (reference.elim (kernel, false) operation) point =
      some result) :
    Advance cfg cpu kernel memory self call point result := by
  have unchanged : atomicStep memory (kernel, false) point = some result →
      Advance cfg cpu kernel memory self call point result :=
    .atomic (.refl kernel) rfl rfl ((Kernel.SameObjects.refl kernel).sameExcept _)
  cases named : reference with
  | none =>
      rw [named] at stepped
      exact unchanged stepped
  | some index =>
      rw [named] at stepped
      rcases refuses index with refused | accepted
      · rw [Option.elim, refused] at stepped
        exact unchanged stepped
      · rw [Option.elim, accepted] at stepped
        exact .atomic (control index) (pendSv index) (tasks index) (objects index named) stepped

/-- An initializer writes its own object only; first that of a mutex. -/
theorem mutexInit_advance {mutex : Option Nat}
    (stepped : atomicStep memory (mutex.elim (kernel, false) (ForgeKernel.mutexInit kernel))
      point = some result) :
    Advance cfg cpu kernel memory self (.mutexInit mutex) point result := by
  refine .store (fun index => kernel.setMutex index ⟨mutexMagic, none⟩) ?_
    (fun _ => ⟨rfl, rfl, rfl, rfl, rfl⟩) (fun _ => rfl) (fun _ => rfl) ?_ stepped
  · intro index
    unfold ForgeKernel.mutexInit
    split
    · exact Or.inl rfl
    · exact Or.inr rfl
  · rintro index rfl
    exact kernel.sameExcept_setMutex index _

theorem binarySemaphoreInit_advance {semaphore : Option Nat} {available : Bool}
    (stepped : atomicStep memory (semaphore.elim (kernel, false)
      fun index => ForgeKernel.binarySemaphoreInit kernel index available) point =
        some result) :
    Advance cfg cpu kernel memory self (.binarySemaphoreInit semaphore available) point
      result := by
  refine .store (fun index => { kernel with
      binarySemaphores := Function.update kernel.binarySemaphores index
        ⟨binarySemaphoreMagic, if available then 1 else 0⟩ }) ?_
    (fun _ => ⟨rfl, rfl, rfl, rfl, rfl⟩) (fun _ => rfl) (fun _ => rfl) ?_ stepped
  · intro index
    unfold ForgeKernel.binarySemaphoreInit
    split
    · exact Or.inl rfl
    · exact Or.inr rfl
  · rintro index rfl (other | ⟨other | other⟩ | other | other) different
    case semaphore.binary =>
      exact Function.update_of_ne (fun same => different (by rw [same]; rfl)) ..
    all_goals rfl

theorem countingSemaphoreInit_advance {semaphore : Option Nat} {initialCount maxCount : Word}
    (stepped : atomicStep memory (semaphore.elim (kernel, false)
      fun index => ForgeKernel.countingSemaphoreInit kernel index initialCount maxCount) point =
        some result) :
    Advance cfg cpu kernel memory self (.countingSemaphoreInit semaphore initialCount maxCount)
      point result := by
  refine .store (fun index => { kernel with
      countingSemaphores := Function.update kernel.countingSemaphores index
        ⟨countingSemaphoreMagic, initialCount, maxCount⟩ }) ?_
    (fun _ => ⟨rfl, rfl, rfl, rfl, rfl⟩) (fun _ => rfl) (fun _ => rfl) ?_ stepped
  · intro index
    unfold ForgeKernel.countingSemaphoreInit
    split
    · exact Or.inl rfl
    · exact Or.inr rfl
  · rintro index rfl (other | ⟨other | other⟩ | other | other) different
    case semaphore.counting =>
      exact Function.update_of_ne (fun same => different (by rw [same]; rfl)) ..
    all_goals rfl

theorem queueInit_advance {queue : Option Nat} {storage capacity itemSize : Word}
    (stepped : atomicStep memory (queue.elim (kernel, false)
      fun index => ForgeKernel.queueInit kernel index storage capacity itemSize) point =
        some result) :
    Advance cfg cpu kernel memory self (.queueInit queue storage capacity itemSize) point
      result := by
  refine .store (fun index => kernel.setQueue index { kernel.queues index with
      magic := queueMagic
      storage := storage
      capacity := capacity
      itemSize := itemSize
      head := 0
      tail := 0
      count := 0 }) ?_
    (fun _ => ⟨rfl, rfl, rfl, rfl, rfl⟩) (fun _ => rfl) (fun _ => rfl) ?_ stepped
  · intro index
    unfold ForgeKernel.queueInit
    split
    · exact Or.inl rfl
    · exact Or.inr rfl
  · rintro index rfl
    exact kernel.sameExcept_setQueue index _

theorem eventFlagsInit_advance {flags : Option Nat}
    (stepped : atomicStep memory (flags.elim (kernel, false)
      (ForgeKernel.eventFlagsInit kernel)) point = some result) :
    Advance cfg cpu kernel memory self (.eventFlagsInit flags) point result := by
  refine .store (fun index => kernel.setEventFlags index ⟨eventFlagsMagic, 0⟩) ?_
    (fun _ => ⟨rfl, rfl, rfl, rfl, rfl⟩) (fun _ => rfl) (fun _ => rfl) ?_ stepped
  · intro index
    unfold ForgeKernel.eventFlagsInit
    split
    · exact Or.inl rfl
    · exact Or.inr rfl
  · rintro index rfl
    exact kernel.sameExcept_setEventFlags index _

/-- `fr_event_flags_clear` only stores the bits. -/
theorem eventFlagsClear_advance {flags : Option Nat} {bits : Word}
    (stepped : atomicStep memory (flags.elim (kernel, false)
      fun index => ForgeKernel.eventFlagsClear cpu kernel index bits) point = some result) :
    Advance cfg cpu kernel memory self (.eventFlagsClear flags bits) point result := by
  refine .store (fun index => kernel.setEventFlags index { kernel.eventFlags index with
      bits := (kernel.eventFlags index).bits &&& ~~~bits }) ?_
    (fun _ => ⟨rfl, rfl, rfl, rfl, rfl⟩) (fun _ => rfl) (fun _ => rfl) ?_ stepped
  · intro index
    unfold ForgeKernel.eventFlagsClear
    split
    · exact Or.inl rfl
    · exact Or.inr rfl
  · rintro index rfl
    exact kernel.sameExcept_setEventFlags index _

/-- Calls that update the trace ring. -/
theorem trace_advance {trace : Trace}
    (stepped : atomicStep memory ({ kernel with trace := trace }, true) point = some result) :
    Advance cfg cpu kernel memory self call point result :=
  .atomic ⟨rfl, rfl, rfl, rfl, rfl⟩ rfl rfl
    (Kernel.SameObjects.sameExcept ⟨rfl, rfl, rfl, rfl, rfl⟩ _) stepped

/-- Calls that only read. -/
theorem read_advance {value : Reply}
    (stepped : (match point with
      | .entry => some (StepResult.reply kernel memory value)
      | _ => none) = some result) :
    Advance cfg cpu kernel memory self call point result := by
  cases point with
  | entry =>
      obtain rfl := Option.some.inj stepped
      exact .still .reply
  | _ => exact absurd stepped (by simp)

/-- Every step of every call has one of the effects above. -/
theorem Call.step_advance
    (stepped : call.step cfg cpu kernel memory self point = some result) :
    Advance cfg cpu kernel memory self call point result := by
  cases call with
  | taskCreate => exact taskCreateStep_advance stepped
  | taskSleep => exact taskSleepStep_advance stepped
  | taskYield => exact taskYieldStep_advance stepped
  | schedulerStart => exact schedulerStartStep_advance stepped
  | mutexInit => exact mutexInit_advance stepped
  | mutexLock => exact mutexLockStep_advance stepped
  | mutexUnlock => exact mutexUnlock_advance stepped
  | binarySemaphoreInit => exact binarySemaphoreInit_advance stepped
  | countingSemaphoreInit => exact countingSemaphoreInit_advance stepped
  | semaphoreTake => exact semaphoreTakeStep_advance stepped
  | semaphoreGive => exact semaphoreGiveStep_advance stepped
  | queueInit => exact queueInit_advance stepped
  | queueSendWait => exact queueSendStep_advance stepped
  | queueReceiveWait => exact queueReceiveStep_advance stepped
  | eventFlagsInit => exact eventFlagsInit_advance stepped
  | eventFlagsSet => exact eventFlagsSet_advance stepped
  | eventFlagsClear => exact eventFlagsClear_advance stepped
  | eventFlagsGet => exact read_advance stepped
  | eventFlagsWait => exact eventFlagsWaitStep_advance stepped
  | kernelCheckInvariants => exact read_advance stepped
  | traceInit => exact trace_advance stepped
  | traceEnable => exact trace_advance stepped
  | traceClear => exact trace_advance stepped

end Steps

end ForgeKernel
