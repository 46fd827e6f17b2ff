import ForgeKernel.Invariant.Sections
import ForgeKernel.Model.System

/-!
# Effects of a thread's step

A step inside a kernel call does one of a few things to the task registry,
whatever the call is: it leaves the registry alone, completes waits on the
object of the call, or puts its own task to wait.  Creating tasks and starting
the scheduler are the exceptions.  Invariants are proved from the effect and not
from the calls.
-/

namespace ForgeKernel

/-! ## Relations between kernels -/

namespace Kernel

/-- Parts of the kernel that no critical section of a running task changes. -/
structure SameControl (before after : Kernel) : Prop where
  taskCount : after.taskCount = before.taskCount
  idle : after.idleTask.state = before.idleTask.state
  currentTask : after.currentTask = before.currentTask
  running : after.running = before.running
  tickCount : after.tickCount = before.tickCount

theorem SameControl.refl (kernel : Kernel) : SameControl kernel kernel :=
  ⟨rfl, rfl, rfl, rfl, rfl⟩

/-- Two steps that leave the control data alone do so together. -/
theorem SameControl.trans
    {first second third : Kernel}
    (left : SameControl first second) (right : SameControl second third) :
    SameControl first third :=
  ⟨right.taskCount.trans left.taskCount, right.idle.trans left.idle,
    right.currentTask.trans left.currentTask, right.running.trans left.running,
    right.tickCount.trans left.tickCount⟩

/-- One object holds the same data in both kernels. -/
def SameObject (before after : Kernel) : ObjectRef → Prop
  | .mutex index => after.mutexes index = before.mutexes index
  | .semaphore (.binary index) =>
      after.binarySemaphores index = before.binarySemaphores index
  | .semaphore (.counting index) =>
      after.countingSemaphores index = before.countingSemaphores index
  | .queue index => after.queues index = before.queues index
  | .eventFlags index => after.eventFlags index = before.eventFlags index

/-- Every object but one holds the same data in both kernels. -/
def SameExcept (object : Option ObjectRef) (before after : Kernel) : Prop :=
  ∀ other, object ≠ some other → SameObject before after other

/-- All objects hold the same data in both kernels. -/
structure SameObjects (before after : Kernel) : Prop where
  mutexes : after.mutexes = before.mutexes
  binarySemaphores : after.binarySemaphores = before.binarySemaphores
  countingSemaphores : after.countingSemaphores = before.countingSemaphores
  queues : after.queues = before.queues
  eventFlags : after.eventFlags = before.eventFlags

theorem SameObjects.refl (kernel : Kernel) : SameObjects kernel kernel :=
  ⟨rfl, rfl, rfl, rfl, rfl⟩

theorem SameObjects.trans
    {first second third : Kernel}
    (left : SameObjects first second) (right : SameObjects second third) :
    SameObjects first third :=
  ⟨right.mutexes.trans left.mutexes, right.binarySemaphores.trans left.binarySemaphores,
    right.countingSemaphores.trans left.countingSemaphores, right.queues.trans left.queues,
    right.eventFlags.trans left.eventFlags⟩

/-- When all objects are the same, each one is. -/
theorem SameObjects.sameObject
    {before after : Kernel} (same : SameObjects before after) (object : ObjectRef) :
    SameObject before after object := by
  rcases object with index | ⟨index | index⟩ | index | index
  · exact congrFun same.mutexes index
  · exact congrFun same.binarySemaphores index
  · exact congrFun same.countingSemaphores index
  · exact congrFun same.queues index
  · exact congrFun same.eventFlags index

/-- When all objects are the same, all but one are. -/
theorem SameObjects.sameExcept
    {before after : Kernel} (same : SameObjects before after) (object : Option ObjectRef) :
    SameExcept object before after :=
  fun other _ => same.sameObject other

/-- Two steps that write at most the same object write at most that object. -/
theorem SameExcept.trans
    {object : Option ObjectRef} {first second third : Kernel}
    (left : SameExcept object first second) (right : SameExcept object second third) :
    SameExcept object first third := by
  intro other different
  have before := left other different
  have after := right other different
  rcases other with index | ⟨index | index⟩ | index | index <;> exact after.trans before

end Kernel

/-- Why waits are completed: a signal to waiters of one object, or a deadline. -/
inductive WakeCause
  | signal (reason : WaitReason) (object : ObjectRef)
  | expiry (now : Word)

/-- The waits that a cause may complete, and the result it stores. -/
def WakeCause.Allows (task : Task) : WakeCause → WaitResult → Prop
  | .signal reason object, result =>
      result = .signaled ∧ Task.waitsOn reason object task = true
  | .expiry now, result => result = .timeout ∧ task.dueAt now = true

/-- What completing waits may do to one control block. -/
inductive TaskMove (cause : WakeCause) (kernel : Kernel) (index : Nat) (after : Task) : Prop
  | kept {priority : Nat} (same : after = { kernel.tasks index with priority := priority })
  | woken {result : WaitResult} {priority : Nat} {bits : Word}
      (blocked : (kernel.tasks index).state = .blocked)
      (allowed : cause.Allows (kernel.tasks index) result)
      (ended : after =
        { (kernel.tasks index).endWait result (kernel.wakeState index) with
          priority := priority
          waitFlagsResult := bits })

/-- `after` results from completing waits and changing priorities. -/
structure Kernel.Wakes (cause : WakeCause) (before after : Kernel) : Prop
    extends Kernel.SameControl before after where
  pendSv : before.pendSv = true → after.pendSv = true
  halted : after.halted = before.halted
  tasks : ∀ index, TaskMove cause before index (after.tasks index)

namespace Kernel

variable {cause : WakeCause}

/-- A step that leaves the registry and the control data alone completes no wait. -/
theorem Wakes.of_tasks
    {before after : Kernel}
    (control : SameControl before after) (pendSv : after.pendSv = before.pendSv)
    (halted : after.halted = before.halted) (tasks : after.tasks = before.tasks) :
    Wakes cause before after where
  toSameControl := control
  pendSv pending := pendSv.trans pending
  halted := halted
  tasks index := by
    rw [tasks]
    exact .kept rfl

theorem Wakes.refl (kernel : Kernel) : Wakes cause kernel kernel :=
  .of_tasks (.refl kernel) rfl rfl rfl

/-- Writing an object completes no wait; here a mutex. -/
theorem Wakes.setMutex (kernel : Kernel) (index : Nat) (mutex : Mutex) :
    Wakes cause kernel (kernel.setMutex index mutex) :=
  .of_tasks ⟨rfl, rfl, rfl, rfl, rfl⟩ rfl rfl rfl

theorem Wakes.setQueue (kernel : Kernel) (index : Nat) (queue : Queue) :
    Wakes cause kernel (kernel.setQueue index queue) :=
  .of_tasks ⟨rfl, rfl, rfl, rfl, rfl⟩ rfl rfl rfl

/-- A change of priorities completes no wait. -/
theorem Wakes.withPriorities (kernel : Kernel) (priorities : Nat → Nat) :
    Wakes cause kernel (kernel.withPriorities priorities) where
  toSameControl := ⟨rfl, rfl, rfl, rfl, rfl⟩
  pendSv := id
  halted := rfl
  tasks _ := .kept rfl

/-- A request for a context switch completes no wait. -/
theorem Wakes.requested (kernel : Kernel) : Wakes cause kernel kernel.requested where
  toSameControl := ⟨rfl, rfl, rfl, rfl, rfl⟩
  pendSv pending := by simp [Kernel.requested, pending]
  halted := rfl
  tasks _ := .kept rfl

/-- Waking one task completes its wait, when the cause allows that. -/
theorem Wakes.wakeTask
    {kernel : Kernel} {index : Nat} {result : WaitResult} {trace : Trace}
    (blocked : (kernel.tasks index).state = .blocked)
    (allowed : cause.Allows (kernel.tasks index) result) :
    Wakes cause kernel (kernel.wakeTask index result trace) where
  toSameControl := ⟨rfl, rfl, rfl, rfl, rfl⟩
  pendSv := id
  halted := rfl
  tasks other := by
    by_cases same : other = index
    · subst same
      simp only [Kernel.wakeTask, Function.update_self]
      exact .woken blocked allowed rfl
    · simp only [Kernel.wakeTask, Function.update_of_ne same]
      exact .kept rfl

/-- Waking a waiter of an object completes a wait on that object. -/
theorem Wakes.signalTask
    {kernel : Kernel} {reason : WaitReason} {object : ObjectRef} {index : Nat} {trace : Trace}
    (waits : Task.waitsOn reason object (kernel.tasks index) = true) :
    Wakes (.signal reason object) kernel (kernel.wakeTask index .signaled trace) :=
  .wakeTask (Task.waitsOn_iff.mp waits).1 ⟨rfl, waits⟩

/-- The scan of `fr_event_flags_set` completes waits on its own object only. -/
theorem Wakes.broadcast
    (kernel : Kernel) (index : Nat) (bits : Word) (count : Nat) (trace : Trace) :
    Wakes (.signal .eventFlags (.eventFlags index)) kernel
      (kernel.broadcast index bits count trace) where
  toSameControl := ⟨rfl, rfl, rfl, rfl, rfl⟩
  pendSv := id
  halted := rfl
  tasks position := by
    simp only [Kernel.broadcast]
    split
    · rename_i satisfied
      have waits : Task.waitsOn .eventFlags (.eventFlags index) (kernel.tasks position) = true := by
        simp only [Task.satisfiedBy, Bool.and_eq_true] at satisfied
        exact satisfied.2.1.1
      exact .woken (Task.waitsOn_iff.mp waits).1 ⟨rfl, waits⟩ rfl
    · exact .kept rfl

theorem Wakes.setEventFlags (kernel : Kernel) (index : Nat) (flags : EventFlags) :
    Wakes cause kernel (kernel.setEventFlags index flags) :=
  .of_tasks ⟨rfl, rfl, rfl, rfl, rfl⟩ rfl rfl rfl

/-- Completing waits in two stages.  A task woken in the first stage is no longer
blocked, so the second stage leaves its wait alone. -/
theorem Wakes.trans
    {first second third : Kernel}
    (left : Wakes cause first second) (right : Wakes cause second third) :
    Wakes cause first third where
  toSameControl := left.toSameControl.trans right.toSameControl
  pendSv := right.pendSv ∘ left.pendSv
  halted := right.halted.trans left.halted
  tasks index := by
    have wakeState : second.wakeState index = first.wakeState index := by
      simp only [Kernel.wakeState, left.currentTask]
    rcases left.tasks index with
      @⟨priority, same⟩ | @⟨result, priority, bits, blocked, allowed, ended⟩
    · rcases right.tasks index with @⟨_, again⟩ | @⟨_, _, _, blocked, allowed, ended⟩
      · rw [same] at again
        exact .kept again
      · rw [same] at blocked allowed ended
        rw [wakeState] at ended
        cases cause with
        | signal reason object => exact .woken blocked allowed ended
        | expiry now => exact .woken blocked allowed ended
    · rcases right.tasks index with @⟨_, again⟩ | @⟨_, _, _, stillBlocked, _, _⟩
      · rw [ended] at again
        exact .woken blocked allowed again
      · rw [ended] at stillBlocked
        exact absurd stillBlocked (first.wakeState_ne_blocked index)

end Kernel

/-! ## Calls and their objects -/

namespace Call

/-- The object that a call names. -/
def object : Call → Option ObjectRef
  | .mutexInit mutex | .mutexLock mutex _ | .mutexUnlock mutex => mutex.map .mutex
  | .binarySemaphoreInit semaphore _ => semaphore.map fun index => .semaphore (.binary index)
  | .countingSemaphoreInit semaphore _ _ =>
      semaphore.map fun index => .semaphore (.counting index)
  | .semaphoreTake semaphore _ | .semaphoreGive semaphore => semaphore.map .semaphore
  | .queueInit queue _ _ _ | .queueSendWait queue _ _ | .queueReceiveWait queue _ _ =>
      queue.map .queue
  | .eventFlagsInit flags | .eventFlagsSet flags _ | .eventFlagsClear flags _
  | .eventFlagsGet flags _ | .eventFlagsWait flags _ _ _ => flags.map .eventFlags
  | _ => none

/-- Reason and object of the wait that a call performs. -/
def wait : Call → Option (WaitReason × Option ObjectRef)
  | .taskSleep _ => some (.sleep, none)
  | .mutexLock (some mutex) _ => some (.mutex, some (.mutex mutex))
  | .semaphoreTake (some semaphore) _ => some (.sync, some (.semaphore semaphore))
  | .queueSendWait (some queue) _ _ => some (.queueSend, some (.queue queue))
  | .queueReceiveWait (some queue) _ _ => some (.queueReceive, some (.queue queue))
  | .eventFlagsWait (some flags) _ _ _ => some (.eventFlags, some (.eventFlags flags))
  | _ => none

/-- Reason and object of the waits that a call completes. -/
def signals : Call → Option (WaitReason × ObjectRef)
  | .mutexUnlock (some mutex) => some (.mutex, .mutex mutex)
  | .semaphoreGive (some semaphore) => some (.sync, .semaphore semaphore)
  | .queueSendWait (some queue) _ _ => some (.queueReceive, .queue queue)
  | .queueReceiveWait (some queue) _ _ => some (.queueSend, .queue queue)
  | .eventFlagsSet (some flags) _ => some (.eventFlags, .eventFlags flags)
  | _ => none

/-- The `timeout_ticks` argument of a call with a timeout. -/
def timeoutTicks : Call → Word
  | .mutexLock _ timeoutTicks | .semaphoreTake _ timeoutTicks
  | .queueSendWait _ _ timeoutTicks | .queueReceiveWait _ _ timeoutTicks
  | .eventFlagsWait _ _ timeoutTicks _ => timeoutTicks
  | _ => 0

/-- Calls that may change effective priorities. -/
def reprices : Call → Bool
  | .mutexLock _ _ | .mutexUnlock _ | .taskCreate _ _ => true
  | _ => false

/-- What a call stores in the control block before it blocks. -/
def prepare : Call → Task → Task
  | .eventFlagsWait _ request _ _, task => task.withRequest request
  | _, task => task

/-- A call waits on no object but the one it names. -/
theorem object_of_wait
    {call : Call} {reason : WaitReason} {object : ObjectRef}
    (waits : call.wait = some (reason, some object)) : call.object = some object := by
  unfold wait at waits
  split at waits <;> simp_all [Call.object]

/-- A call signals no object but the one it names. -/
theorem object_of_signals
    {call : Call} {reason : WaitReason} {object : ObjectRef}
    (signals : call.signals = some (reason, object)) : call.object = some object := by
  unfold Call.signals at signals
  split at signals <;> simp_all [Call.object]

/-- Every wait has a reason. -/
theorem wait_reason_ne_none
    {call : Call} {reason : WaitReason} {object : Option ObjectRef}
    (waits : call.wait = some (reason, object)) : reason ≠ .none := by
  unfold wait at waits
  split at waits <;> aesop

/-- Only `fr_mutex_lock` waits for a mutex. -/
theorem wait_mutex
    {call : Call} {object : Option ObjectRef}
    (waits : call.wait = some (.mutex, object)) :
    ∃ mutex timeoutTicks, call = .mutexLock (some mutex) timeoutTicks ∧
      object = some (.mutex mutex) := by
  unfold wait at waits
  split at waits <;> simp_all

end Call

/-- Points at which the task has left its critical section blocked. -/
def Point.isWaiting : Point → Bool
  | .suspended _ | .asleep => true
  | _ => false

/-- Points before the critical section of a call is prepared. -/
def Point.isOpening : Point → Bool
  | .entry | .guarded _ => true
  | _ => false

/-! ## Effects -/

/-- How long a blocking step waits, and where it resumes. -/
inductive WaitTiming (cpu : Cpu) (now : Word) : Call → Point → Word → Point → Prop
  | sleep {delayTicks : Word}
      (unmasked : cpu.pendSvMasked = false)
      (finite : delayTicks ≤ waitMaxFiniteTicks) :
      WaitTiming cpu now (.taskSleep delayTicks) .entry delayTicks .asleep
  | timed {call : Call} {point : Point} {timeout : WaitTimeout} {ticks : Word}
      (start : point = .armed timeout ∨ point = .signaled timeout)
      (remaining : waitTimeoutRemaining now timeout = some ticks) :
      WaitTiming cpu now call point ticks (.suspended timeout)

/-- Where a step that leaves the registry alone may end. -/
inductive Passes (cpu : Cpu) (before : Kernel) (self : Nat) (call : Call) (point : Point) :
    Outcome → Prop
  | reply {value : Reply} : Passes cpu before self call point (.reply value)
  | guarded {maxCount : Word} (start : point = .entry) :
      Passes cpu before self call point (.goto (.guarded maxCount))
  | svc (start : point = .entry) : Passes cpu before self call point (.goto .svc)
  | armed {timeout : WaitTimeout}
      (start : point.isOpening = true)
      (allowed : cpu.threadContextAllowed = true)
      (started : waitTimeoutStart before.tickCount call.timeoutTicks = some timeout) :
      Passes cpu before self call point (.goto (.armed timeout))
  | signaled {timeout : WaitTimeout}
      (resumed : point = .suspended timeout)
      (result : (before.tasks self).waitResult = .signaled) :
      Passes cpu before self call point (.goto (.signaled timeout))

/-- How a step that may complete waits deals with the scheduler: it requests a switch
if one is due, it has woken nobody, or it has released a mutex nobody waits for. -/
inductive Notified (call : Call) (before after : Kernel) : Prop
  | requests {kernel : Kernel} (same : after = kernel.requested)
  | nobody (tasks : after.tasks = before.tasks)
  | released {index current : Nat}
      (unlocks : call = .mutexUnlock (some index))
      (unwanted : ∀ waiter < before.taskCount,
        Task.waitsOn .mutex (.mutex index) (before.tasks waiter) = false)
      (same : after = (before.setMutex index
        { before.mutexes index with owner := none }).recomputed current)

/-- What a step inside a call does to the registry and to its own point. -/
inductive Effect
    (cfg : Config) (cpu : Cpu) (before : Kernel) (self : Nat) (call : Call) (point : Point)
    (after : Kernel) : Outcome → Prop
  | passes {outcome : Outcome}
      (control : before.SameControl after)
      (pendSv : before.pendSv = true → after.pendSv = true)
      (tasks : after.tasks = before.tasks)
      (next : Passes cpu before self call point outcome) :
      Effect cfg cpu before self call point after outcome
  | resets {current : Nat} {value : Reply}
      (active : before.currentTask = some (.user current))
      (same : after =
        before.setTask current ((before.tasks current).withRequest ⟨0, false, false⟩)) :
      Effect cfg cpu before self call point after (.reply value)
  | wakes {reason : WaitReason} {object : ObjectRef} {value : Reply}
      (running : before.running = true)
      (signals : call.signals = some (reason, object))
      (woken : before.Wakes (.signal reason object) after)
      (notified : Notified call before after) :
      Effect cfg cpu before self call point after (.reply value)
  | waits {current : Nat} {reason : WaitReason} {object : Option ObjectRef}
      {ticks : Word} {trace : Trace} {priorities : Nat → Nat} {next : Point}
      (runs : before.Runs current)
      (wait : call.wait = some (reason, object))
      (accepted : blockAccepted reason object ticks)
      (timing : WaitTiming cpu before.tickCount call point ticks next)
      (blocked : after = ((before.setTask current
        (call.prepare (before.tasks current))).blockTask current reason object ticks
          trace).withPriorities priorities) :
      Effect cfg cpu before self call point after (.goto next)
  | reserves {config : TaskConfig}
      (start : point = .entry)
      (checked : taskCreateCheck cfg config = .ok)
      (reserved : taskCreateReserve cfg before config = some after) :
      Effect cfg cpu before self call point after (.goto (.reserved before.taskCount))
  | builds {index : Nat}
      (started : point = .reserved index)
      (built : after = (taskCreateBuild cfg before index).1) :
      Effect cfg cpu before self call point after
        (.goto (.built index (taskCreateBuild cfg before index).2))
  | publishes {index : Nat} {initialSp : Word} {value : Reply}
      (started : point = .built index initialSp)
      (published : after = taskCreatePublish before index initialSp) :
      Effect cfg cpu before self call point after (.reply value)
  | starts
      (start : point = .entry)
      (started : schedulerStart cfg cpu before = some after) :
      Effect cfg cpu before self call point after (.goto .departed)

/-- Summary of one step of a call: its effect, and what it leaves alone. -/
structure Advance
    (cfg : Config) (cpu : Cpu) (kernel : Kernel) (memory : Memory) (slot : Nat)
    (call : Call) (point : Point) (result : StepResult) : Prop where
  effect : Effect cfg cpu kernel slot call point result.kernel result.outcome
  objects : kernel.SameExcept call.object result.kernel
  memory : (∀ queue item ticks, call ≠ .queueReceiveWait queue item ticks) →
    result.memory = memory
  priorities : call.reprices = false → result.kernel.priorityOf = kernel.priorityOf

end ForgeKernel
