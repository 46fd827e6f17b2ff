import ForgeKernel.Invariant.Flags
import ForgeKernel.Property.MutexLedger
import ForgeKernel.Property.QueueFifo
import ForgeKernel.Property.SemaphoreTokens
import ForgeKernel.Property.Timeouts

/-!
# Waits that cannot fail

A blocking call returns `false` for one of three reasons: its arguments or its
context are wrong, its object is not initialized, or its deadline has come.  A task
that calls with `FR_WAIT_FOREVER` in thread mode with no interrupt masked, on an
initialized object, meets none of them however it is interleaved with other threads,
ticks and switches: if the call returns, it returns success.
-/

namespace ForgeKernel

open Machines

/-! ## Calls -/

/-- The magic number of an object is in place. -/
def Kernel.initialized (kernel : Kernel) : ObjectRef → Prop
  | .mutex index => (kernel.mutexes index).magic = mutexMagic
  | .semaphore ref => kernel.semaphoreInitialized ref = true
  | .queue index => (kernel.queues index).magic = queueMagic
  | .eventFlags index => (kernel.eventFlags index).magic = eventFlagsMagic

/-- Blocking calls with valid arguments and without a deadline. -/
def Call.endless : Call → Bool
  | .taskSleep delayTicks => delayTicks ≠ 0 ∧ delayTicks ≤ waitMaxFiniteTicks
  | .mutexLock (some _) timeoutTicks | .semaphoreTake (some _) timeoutTicks =>
      timeoutTicks = waitForever
  | .queueSendWait (some _) item timeoutTicks | .queueReceiveWait (some _) item timeoutTicks =>
      item ≠ 0 ∧ timeoutTicks = waitForever
  | .eventFlagsWait (some _) request timeoutTicks _ =>
      request.mask ≠ 0 ∧ timeoutTicks = waitForever
  | _ => false

/-- The return values that report success. -/
def Reply.succeeds : Reply → Bool
  | .bool value => value
  | .matched value _ => value
  | _ => false

/-! ## Objects stay initialized -/

theorem Kernel.SameObject.initialized
    {before after : Kernel} {object : ObjectRef} (same : before.SameObject after object)
    (ready : before.initialized object) : after.initialized object := by
  cases object with
  | mutex index =>
      have data : after.mutexes index = before.mutexes index := same
      rw [Kernel.initialized, data]
      exact ready
  | semaphore ref => exact same.sameSemaphore.initialized.trans ready
  | queue index =>
      have data : after.queues index = before.queues index := same
      rw [Kernel.initialized, data]
      exact ready
  | eventFlags index =>
      have data : after.eventFlags index = before.eventFlags index := same
      rw [Kernel.initialized, data]
      exact ready

theorem Kernel.setMutex_magic (kernel : Kernel) (index : Nat) (owner : Option Nat) :
    ((kernel.setMutex index { kernel.mutexes index with owner := owner }).mutexes index).magic =
      (kernel.mutexes index).magic := by
  simp [Kernel.setMutex]

section Running

variable {cfg : Config} {system after : System} {action : Action} {events : List Event}

theorem Core.mutex_initialized_step
    (core : Core system) (step : system.step cfg action = some (after, events))
    (running : system.kernel.running = true) {index : Nat}
    (ready : system.kernel.initialized (.mutex index)) :
    after.kernel.initialized (.mutex index) := by
  cases core.objectStep step (.mutex index) with
  | untouched same => exact same.data.initialized ready
  | @advance thread call point result active inCall mine stepped =>
      change (result.kernel.mutexes index).magic = mutexMagic
      change (system.kernel.mutexes index).magic = mutexMagic at ready
      cases call with
      | mutexInit reference =>
          obtain rfl : reference = some index := by simpa [Call.object] using mine
          cases point with
          | entry =>
              obtain rfl := Option.some.inj stepped
              simpa [StepResult.reply, mutexInit, running] using ready
          | _ => exact absurd stepped (by simp [Call.step, atomicStep])
      | mutexLock reference ticks =>
          obtain rfl : reference = some index := by simpa [Call.object] using mine
          cases mutexLockStep_cases stepped with
          | decides named outcome =>
              obtain rfl := Option.some.inj named
              cases outcome with
              | refused => exact ready
              | acquired => exact (system.kernel.setMutex_magic index _).trans ready
              | waits => exact ready
          | _ => exact ready
      | mutexUnlock reference =>
          obtain rfl : reference = some index := by simpa [Call.object] using mine
          cases point with
          | entry =>
              obtain rfl := Option.some.inj stepped
              simp only [Option.elim]
              have outcome := mutexUnlock_outcome system.cpu system.kernel index
              generalize mutexUnlock system.cpu system.kernel index = ended at outcome ⊢
              cases outcome with
              | refused => exact ready
              | released => exact (system.kernel.setMutex_magic index none).trans ready
              | @handed _ waiter =>
                  exact (system.kernel.setMutex_magic index (some waiter)).trans ready
          | _ => exact absurd stepped (by simp [Call.step, atomicStep])
      | _ => simp [Call.object] at mine

theorem Core.semaphore_initialized_step
    (core : Core system) (step : system.step cfg action = some (after, events))
    (running : system.kernel.running = true) {ref : SemaphoreRef}
    (ready : system.kernel.initialized (.semaphore ref)) :
    after.kernel.initialized (.semaphore ref) := by
  cases core.tokenMove step ref with
  | keeps same => exact same.initialized ready
  | configures stopped =>
      rw [running] at stopped
      exact absurd stopped.symm Bool.false_ne_true
  | takes _ same => exact same.initialized.trans ready
  | waits same => exact same.initialized ready
  | lands _ same => exact same.initialized ready
  | stores _ _ same => exact same.initialized.trans ready
  | wakes _ same => exact same.initialized ready

theorem Core.queue_initialized_step
    (core : Core system) (step : system.step cfg action = some (after, events))
    {index : Nat} (ready : system.kernel.initialized (.queue index)) :
    after.kernel.initialized (.queue index) := by
  change (after.kernel.queues index).magic = queueMagic
  cases core.queueMove step index with
  | keeps same => rw [same]; exact ready
  | configures _ sound => exact sound.magic
  | sends _ _ _ _ same => rw [same]; exact ready
  | receives _ _ _ _ same => rw [same]; exact ready

theorem Core.eventFlags_initialized_step
    (core : Core system) (step : system.step cfg action = some (after, events))
    (running : system.kernel.running = true) {index : Nat}
    (ready : system.kernel.initialized (.eventFlags index)) :
    after.kernel.initialized (.eventFlags index) := by
  cases core.objectStep step (.eventFlags index) with
  | untouched same => exact same.data.initialized ready
  | @advance thread call point result active inCall mine stepped =>
      change (result.kernel.eventFlags index).magic = eventFlagsMagic
      change (system.kernel.eventFlags index).magic = eventFlagsMagic at ready
      obtain rfl | ⟨bits, rfl⟩ | ⟨bits, rfl⟩ | ⟨bits, rfl⟩ | ⟨request, ticks, matchedBits, rfl⟩ :=
        Call.eventFlags_cases mine
      · cases point with
        | entry =>
            obtain rfl := Option.some.inj stepped
            simpa [StepResult.reply, eventFlagsInit, running] using ready
        | _ => exact absurd stepped (by simp [Call.step, atomicStep])
      · cases point with
        | entry =>
            obtain rfl := Option.some.inj stepped
            have outcome := eventFlagsSet_outcome system.cpu system.kernel index bits
            simp only [Option.elim]
            generalize eventFlagsSet system.cpu system.kernel index bits = ended at outcome ⊢
            cases outcome with
            | denied => exact ready
            | silent => simpa [StepResult.reply, Kernel.setEventFlags] using ready
            | broadcast =>
                simpa [StepResult.reply, Kernel.setEventFlags, Kernel.requested] using ready
        | _ => exact absurd stepped (by simp [Call.step, atomicStep])
      · cases point with
        | entry =>
            obtain rfl := Option.some.inj stepped
            simp only [Option.elim, eventFlagsClear, StepResult.reply]
            split
            · exact ready
            · simpa [Kernel.setEventFlags] using ready
        | _ => exact absurd stepped (by simp [Call.step, atomicStep])
      · cases point with
        | entry =>
            obtain rfl := Option.some.inj stepped
            exact ready
        | _ => exact absurd stepped (by simp [Call.step])
      · cases eventFlagsWaitStep_cases stepped with
        | returns outcome =>
            cases outcome with
            | satisfied =>
                simp only [StepResult.reply]
                split
                · simpa [Kernel.setEventFlags] using ready
                · exact ready
            | _ => exact ready
        | waits outcome =>
            cases outcome with
            | waits => exact ready
        | _ => exact ready

/-- No step of a running system takes an object's magic number away. -/
theorem Core.initialized_step
    (core : Core system) (step : system.step cfg action = some (after, events))
    (running : system.kernel.running = true) {object : ObjectRef}
    (ready : system.kernel.initialized object) : after.kernel.initialized object := by
  cases object with
  | mutex => exact core.mutex_initialized_step step running ready
  | semaphore => exact core.semaphore_initialized_step step running ready
  | queue => exact core.queue_initialized_step step ready
  | eventFlags => exact core.eventFlags_initialized_step step running ready

end Running

/-- An initialized semaphore has been initialized by a call. -/
theorem semaphoreShape_of_initialized
    {cfg : Config} {allowed : System → Action → Prop} {events : List Event} {system : System}
    {ref : SemaphoreRef} (run : (forge cfg).Run allowed events system)
    (ready : system.kernel.initialized (.semaphore ref)) : semaphoreShape ref events ≠ none := by
  have kept : ∀ shape (emitted : List Event), shape ≠ none →
      emitted.foldl (fun shape event => (event.initializes ref).or shape) shape ≠ none :=
    fun shape emitted shaped => Scans.foldl_invariant (motive := (· ≠ none)) emitted shape shaped
      fun shape event _ shaped => by cases initializes : event.initializes ref <;> simp [shaped]
  refine (run.invariant (motive := fun events system => Core system ∧
    (system.kernel.initialized (.semaphore ref) → semaphoreShape ref events ≠ none))
    ⟨Core.initial, fun blank => ?_⟩ ?_).2 ready
  · cases ref with
    | binary => exact absurd (of_decide_eq_true blank : 0#32 = binarySemaphoreMagic) (by decide)
    | counting =>
        exact absurd (of_decide_eq_true blank : 0#32 = countingSemaphoreMagic) (by decide)
  rintro events emitted middle next action ⟨core, shaped⟩ _ stepped
  refine ⟨core.step stepped, fun ready => ?_⟩
  have earlier : middle.kernel.initialized (.semaphore ref) →
      semaphoreShape ref (events ++ emitted) ≠ none := by
    intro before
    rw [semaphoreShape_append]
    exact kept _ _ (shaped before)
  cases core.tokenMove stepped ref with
  | keeps same => exact earlier (same.sameSemaphore.initialized.symm.trans ready)
  | configures _ _ _ _ _ _ _ init =>
      rw [semaphoreShape_append]
      simp [init]
  | takes _ same => exact earlier (same.initialized.symm.trans ready)
  | waits same => exact earlier (same.sameSemaphore.initialized.symm.trans ready)
  | lands _ same => exact earlier (same.sameSemaphore.initialized.symm.trans ready)
  | stores _ _ same => exact earlier (same.initialized.symm.trans ready)
  | wakes _ same => exact earlier (same.sameSemaphore.initialized.symm.trans ready)

/-- The wrappers' checks pass on every initialized semaphore. -/
theorem semaphoreGuard_of_initialized
    {cfg : Config} {allowed : System → Action → Prop} {events : List Event} {system : System}
    {ref : SemaphoreRef} (run : (forge cfg).Run allowed events system)
    (ready : system.kernel.initialized (.semaphore ref)) :
    semaphoreGuard system.kernel ref = true := by
  obtain ⟨⟨initialCount, maxCount⟩, shape⟩ :=
    Option.ne_none_iff_exists'.mp (semaphoreShape_of_initialized run ready)
  have balanced := (TokensOk.of_run ref run).shaped initialCount maxCount shape
  rw [semaphoreGuard_iff, balanced.maximum]
  exact ⟨balanced.initialized, balanced.positive, balanced.bounded⟩

/-! ## The context of the caller -/

/-- `thread_context_allowed` holds whenever `task` is the current task. -/
structure System.ContextAllowed (system : System) (task : Nat) : Prop where
  thread : system.cpu.ipsr = 0
  unmasked : system.kernel.currentTask = some (.user task) →
    system.cpu.threadContextAllowed = true

theorem Cpu.threadContextAllowed_iff {cpu : Cpu} :
    cpu.threadContextAllowed = true ↔ cpu.ipsr = 0 ∧ cpu.pendSvMasked = false := by
  simp only [Cpu.threadContextAllowed, Cpu.pendSvMasked, Bool.and_eq_true, Bool.not_eq_true',
    decide_eq_true_eq, Bool.or_eq_false_iff, decide_eq_false_iff_not, not_not, and_assoc]

/-- Only the instruction that writes the masks changes them. -/
theorem System.step_keeps_cpu
    {cfg : Config} {system after : System} {action : Action} {events : List Event}
    (step : system.step cfg action = some (after, events))
    (other : ∀ primask faultmask basepri, action ≠ .setMasks primask faultmask basepri) :
    after.cpu = system.cpu := by
  cases action with
  | setMasks primask faultmask basepri => exact absurd rfl (other primask faultmask basepri)
  | storeByte address value =>
      simp only [System.step] at step
      obtain ⟨_, _, _, rfl, _⟩ := System.userStep_some step
      rfl
  | storeWord address value =>
      simp only [System.step] at step
      obtain ⟨_, _, _, rfl, _⟩ := System.userStep_some step
      rfl
  | sysTick =>
      simp only [System.step] at step
      split at step
      · exact absurd step (by simp)
      · obtain ⟨rfl, _⟩ := Prod.mk.inj (Option.some.inj step)
        rfl
  | pendSv psp =>
      simp only [System.step] at step
      split at step
      · exact absurd step (by simp)
      · obtain ⟨rfl, _⟩ := Prod.mk.inj (Option.some.inj step)
        rfl
  | invoke call =>
      simp only [System.step] at step
      split at step
      · exact absurd step (by simp)
      · split at step
        · obtain ⟨rfl, _⟩ := Prod.mk.inj (Option.some.inj step)
          rfl
        · exact absurd step (by simp)
  | advance =>
      obtain ⟨thread, _, advanced⟩ := Option.bind_eq_some_iff.mp step
      unfold System.advance at advanced
      split at advanced
      · exact absurd advanced (by simp)
      · obtain ⟨result, _, moved⟩ := Option.map_eq_some_iff.mp advanced
        cases outcome : result.outcome <;> rw [outcome] at moved <;>
          exact congrArg (fun moved : System × List Event => moved.1.cpu) moved.symm

/-- Only user code writes the masks, and it runs in thread mode. -/
theorem System.step_cpu
    {cfg : Config} {system after : System} {action : Action} {events : List Event}
    (step : system.step cfg action = some (after, events)) :
    after.cpu = system.cpu ∨ (after.cpu.ipsr = 0 ∧
      ∃ thread, system.activeThread = some thread ∧ system.frames thread = .user) := by
  by_cases masks : ∃ primask faultmask basepri, action = .setMasks primask faultmask basepri
  · obtain ⟨primask, faultmask, basepri, rfl⟩ := masks
    simp only [System.step] at step
    obtain ⟨thread, active, user, rfl, _⟩ := System.userStep_some step
    exact Or.inr ⟨rfl, thread, active, user⟩
  · exact Or.inl (System.step_keeps_cpu step
      fun primask faultmask basepri same => masks ⟨primask, faultmask, basepri, same⟩)

/-- A task in a call keeps the context it made the call in. -/
theorem System.ContextAllowed.step
    {cfg : Config} {system after : System} {action : Action} {events : List Event}
    {task : Nat} {call : Call} {point : Point}
    (allowed : system.ContextAllowed task) (core : Core system)
    (running : system.kernel.running = true)
    (inCall : system.frames (.task task) = .inCall call point)
    (step : system.step cfg action = some (after, events)) : after.ContextAllowed task := by
  have thread : after.cpu.ipsr = 0 := by
    rcases System.step_cpu step with same | ⟨thread, _⟩
    · rw [same]
      exact allowed.thread
    · exact thread
  refine ⟨thread, fun current => ?_⟩
  by_cases switch : ∃ psp, action = .pendSv psp
  · obtain ⟨psp, rfl⟩ := switch
    simp only [System.step] at step
    split at step
    · exact absurd step (by simp)
    · rename_i due
      obtain ⟨rfl, _⟩ := Prod.mk.inj (Option.some.inj step)
      simp only [System.pendSvDue, Bool.or_eq_true, Bool.not_eq_true', not_or,
        Bool.not_eq_false, Bool.and_eq_true] at due
      exact Cpu.threadContextAllowed_iff.mpr ⟨thread, due.2.2⟩
  · rw [(core.step_control running step fun psp same => switch ⟨psp, same⟩).1] at current
    rcases System.step_cpu step with same | ⟨_, other, active, user⟩
    · rw [same]
      exact allowed.unmasked current
    · obtain rfl := core.active_eq active current
      rw [inCall] at user
      exact absurd user (by simp)

/-! ## Critical sections without a deadline -/

section Sections

variable {cpu : Cpu} {kernel : Kernel} {memory : Memory} {current index : Nat}
  {timeout : WaitTimeout}

theorem schedulerBlockCurrentLocked_blocks
    {reason : WaitReason} {object : Option ObjectRef} {ticks : Word}
    (runs : kernel.Runs current) (accepted : blockAccepted reason object ticks) :
    (schedulerBlockCurrentLocked kernel reason object ticks).2 = true := by
  have awake : ¬(kernel.running = false ∨ (kernel.tasks current).state ≠ .running) := by
    simp [runs.running, runs.state]
  simp only [schedulerBlockCurrentLocked, if_neg accepted, runs.currentTask, if_neg awake]
  split <;> rfl

/-- A wait on an object without a deadline always blocks. -/
theorem schedulerBlockCurrentLocked_forever
    {reason : WaitReason} {object : ObjectRef}
    (runs : kernel.Runs current) (uses : reason.usesObject = true) :
    (schedulerBlockCurrentLocked kernel reason (some object) waitForever).2 = true := by
  refine schedulerBlockCurrentLocked_blocks runs ?_
  have other : reason ≠ .sleep := by
    rintro rfl
    exact absurd uses (by decide)
  simp [blockAccepted, uses, other, waitForever]

theorem waitTimeoutRemaining_forever {now : Word} (endless : timeout.waitForever = true) :
    waitTimeoutRemaining now timeout = some waitForever := by
  rw [waitTimeoutRemaining, if_pos endless]

theorem schedulerCurrentTask_of_runs (runs : kernel.Runs current) :
    schedulerCurrentTask kernel = some current :=
  schedulerCurrentTask_eq_some.mpr runs.currentTask

theorem mutexLockSection_endless
    (unmasked : cpu.basepri = 0) (runs : kernel.Runs current)
    (ready : (kernel.mutexes index).magic = mutexMagic)
    (foreign : (kernel.mutexes index).owner ≠ some current)
    (endless : timeout.waitForever = true) :
    (mutexLockSection cpu kernel index timeout).2 ≠ .returned false := by
  rw [mutexLockSection, schedulerCurrentTask_of_runs runs]
  simp only [unmasked, ready, runs.running]
  cases owner : (kernel.mutexes index).owner with
  | none => simp
  | some holder =>
      have other : holder ≠ current := fun same => foreign (owner.trans (congrArg some same))
      have blocks : (schedulerBlockCurrentLocked kernel .mutex (some (.mutex index))
          waitForever).2 = true := schedulerBlockCurrentLocked_forever runs rfl
      simp [other, waitTimeoutRemaining_forever endless, blocks]

theorem semaphoreTakeSection_endless
    {ref : SemaphoreRef} (unmasked : cpu.basepri = 0) (runs : kernel.Runs current)
    (endless : timeout.waitForever = true) :
    (semaphoreTakeSection cpu kernel ref timeout).2 ≠ .returned false := by
  have blocks : (schedulerBlockCurrentLocked kernel .sync (some (.semaphore ref))
      waitForever).2 = true := schedulerBlockCurrentLocked_forever runs rfl
  have entered : ¬(cpu.basepri ≠ 0 ∨ kernel.running = false ∨
      schedulerCurrentTask kernel = none) := by
    simp [unmasked, runs.running, schedulerCurrentTask_of_runs runs]
  rw [semaphoreTakeSection, if_neg entered]
  split
  · simp
  · simp [waitTimeoutRemaining_forever endless, blocks]

theorem queueBlockSection_endless
    {reason : WaitReason} (runs : kernel.Runs current) (uses : reason.usesObject = true)
    (endless : timeout.waitForever = true) :
    (queueBlockSection kernel reason index timeout).2 = .waiting := by
  simp [queueBlockSection, waitTimeoutRemaining_forever endless,
    schedulerBlockCurrentLocked_forever runs uses]

theorem queueEntered
    (unmasked : cpu.basepri = 0) (runs : kernel.Runs current)
    (valid : queueStateValidLocked (kernel.queues index) = true) :
    ¬(cpu.basepri ≠ 0 ∨ kernel.running = false ∨ schedulerCurrentTask kernel = none ∨
      queueStateValidLocked (kernel.queues index) = false) := by
  simp [unmasked, runs.running, schedulerCurrentTask_of_runs runs, valid]

theorem queueSendSection_endless
    {item : Word} (unmasked : cpu.basepri = 0) (runs : kernel.Runs current)
    (valid : queueStateValidLocked (kernel.queues index) = true)
    (endless : timeout.waitForever = true) :
    (queueSendSection cpu kernel memory index item timeout).2 ≠ .returned false := by
  rw [queueSendSection, if_neg (queueEntered unmasked runs valid)]
  have waits : (queueBlockSection kernel .queueSend index timeout).2 = .waiting :=
    queueBlockSection_endless runs rfl endless
  cases queueTrySendLocked kernel memory index item with
  | none => simp [waits]
  | some sent => simp

theorem queueReceiveSection_endless
    {item : Word} (unmasked : cpu.basepri = 0) (runs : kernel.Runs current)
    (valid : queueStateValidLocked (kernel.queues index) = true)
    (endless : timeout.waitForever = true) :
    (queueReceiveSection cpu kernel memory index item timeout).2.2 ≠ .returned false := by
  rw [queueReceiveSection, if_neg (queueEntered unmasked runs valid)]
  have waits : (queueBlockSection kernel .queueReceive index timeout).2 = .waiting :=
    queueBlockSection_endless runs rfl endless
  cases queueTryReceiveLocked kernel memory index item with
  | none => simp [waits]
  | some received => simp

theorem eventFlagsWaitSection_endless
    {request : FlagsRequest} (unmasked : cpu.basepri = 0) (runs : kernel.Runs current)
    (ready : (kernel.eventFlags index).magic = eventFlagsMagic)
    (endless : timeout.waitForever = true) (matched : Word) :
    (eventFlagsWaitSection cpu kernel index request timeout).2 ≠ .returned (false, matched) := by
  have entered : ¬(cpu.basepri ≠ 0 ∨ (kernel.eventFlags index).magic ≠ eventFlagsMagic ∨
      kernel.running = false) := by
    simp [unmasked, ready, runs.running]
  have still : (kernel.setTask current ((kernel.tasks current).withRequest request)).Runs current :=
    ⟨runs.currentTask, runs.running, by simpa [Task.withRequest] using runs.state⟩
  have blocks : (schedulerBlockCurrentLocked
      (kernel.setTask current ((kernel.tasks current).withRequest request)) .eventFlags
      (some (.eventFlags index)) waitForever).2 = true :=
    schedulerBlockCurrentLocked_forever still rfl
  simp only [Task.withRequest] at blocks
  simp only [eventFlagsWaitSection, schedulerCurrentTask_of_runs runs, if_neg entered]
  cases eventFlagsConditionMet (kernel.eventFlags index).bits request.mask request.waitAll with
  | true => simp
  | false =>
      simp only [waitTimeoutRemaining_forever endless, blocks, Bool.false_eq_true, if_false,
        if_true, ne_eq, reduceCtorEq, not_false_eq_true]

theorem taskSleepSection_endless
    {delayTicks : Word} (allowed : cpu.threadContextAllowed = true) (runs : kernel.Runs current)
    (positive : delayTicks ≠ 0) (finite : delayTicks ≤ waitMaxFiniteTicks) :
    (taskSleepSection cpu kernel delayTicks).2 = .waiting := by
  have accepted : blockAccepted .sleep none delayTicks := by
    have bounded : ¬waitMaxFiniteTicks < delayTicks := BitVec.not_lt.mpr finite
    simpa [blockAccepted, bounded, WaitReason.usesObject] using positive
  simp only [Cpu.threadContextAllowed, Bool.and_eq_true, Bool.not_eq_true',
    decide_eq_true_eq] at allowed
  obtain ⟨⟨⟨thread, primask⟩, faultmask⟩, basepri⟩ := allowed
  rw [taskSleepSection, if_neg (not_or.mpr ⟨positive, BitVec.not_lt.mpr finite⟩)]
  simp [thread, primask, faultmask, basepri, schedulerCurrentTask_of_runs runs, runs.running,
    runs.state, schedulerBlockCurrentLocked_blocks runs accepted]

end Sections

/-! ## Steps of a call that cannot fail -/

/-- What a step of a call needs in order not to fail. -/
structure Assured (system : System) (task : Nat) (call : Call) : Prop where
  runs : system.kernel.Runs task
  allowed : system.cpu.threadContextAllowed = true
  ready : ∀ object, call.object = some object → system.kernel.initialized object
  guarded : ∀ ref, call.object = some (.semaphore ref) →
    semaphoreGuard system.kernel ref = true
  valid : ∀ index, call.object = some (.queue index) →
    queueStateValidLocked (system.kernel.queues index) = true

theorem StepResult.arm_forever
    {cpu : Cpu} {kernel : Kernel} {memory : Memory} {failure : Reply}
    (allowed : cpu.threadContextAllowed = true) :
    StepResult.arm cpu kernel memory waitForever failure =
      .goto kernel memory (.armed ⟨true, 0⟩) := by
  rw [StepResult.arm, if_pos allowed]
  rfl

/-- Points at which a call has started its clock. -/
def Point.clocked (call : Call) (ticks : Word) (point : Point) : Prop :=
  (call = .taskSleep ticks ∧ point = .asleep) ∨
    (call.timeoutTicks = ticks ∧ ∃ timeout, point = .armed timeout)

section Steps

variable {cfg : Config} {system : System} {task : Nat} {call : Call} {point : Point}
  {result : StepResult}

/-- The checks before the critical section pass. -/
theorem Assured.opens
    (assured : Assured system task call) (endless : call.endless = true)
    (opening : point.isOpening = true)
    (stepped : call.step cfg system.cpu system.kernel system.memory task point = some result) :
    ∃ next, result.outcome = .goto next ∧
      (next.isOpening = true ∨ ∃ ticks, next.clocked call ticks ∧
        (ticks = waitForever ∨ call = .taskSleep ticks)) := by
  have runs := assured.runs
  have allowed := assured.allowed
  have arms : ∀ failure, call.timeoutTicks = waitForever →
      result = .arm system.cpu system.kernel system.memory waitForever failure →
      ∃ next, result.outcome = .goto next ∧
        (next.isOpening = true ∨ ∃ ticks, next.clocked call ticks ∧
          (ticks = waitForever ∨ call = .taskSleep ticks)) := by
    rintro failure forever rfl
    rw [StepResult.arm_forever allowed]
    exact ⟨_, rfl, Or.inr ⟨_, Or.inr ⟨forever, _, rfl⟩, Or.inl rfl⟩⟩
  cases call with
  | taskSleep delayTicks =>
      simp only [Call.endless, decide_eq_true_eq] at endless
      cases point with
      | entry =>
          obtain rfl := Option.some.inj stepped
          have waits := taskSleepSection_endless allowed runs endless.1 endless.2
          generalize taskSleepSection system.cpu system.kernel delayTicks = ended at waits ⊢
          obtain ⟨kernel, rfl⟩ : ∃ kernel, ended = (kernel, .waiting) := ⟨ended.1, by rw [← waits]⟩
          exact ⟨_, rfl, Or.inr ⟨delayTicks, Or.inl ⟨rfl, rfl⟩, Or.inr rfl⟩⟩
      | guarded => exact absurd stepped (by simp [Call.step, taskSleepStep])
      | _ => exact absurd opening (by simp [Point.isOpening])
  | mutexLock mutex ticks =>
      cases mutex with
      | none => exact absurd endless (by simp [Call.endless])
      | some index =>
          simp only [Call.endless, decide_eq_true_eq] at endless
          cases point with
          | entry => exact arms _ endless (endless ▸ (Option.some.inj stepped).symm)
          | guarded => exact absurd stepped (by simp [Call.step, mutexLockStep])
          | _ => exact absurd opening (by simp [Point.isOpening])
  | semaphoreTake semaphore ticks =>
      cases semaphore with
      | none => exact absurd endless (by simp [Call.endless])
      | some ref =>
          simp only [Call.endless, decide_eq_true_eq] at endless
          cases point with
          | entry =>
              simp only [Call.step, semaphoreTakeStep, assured.guarded ref rfl, if_true] at stepped
              obtain rfl := Option.some.inj stepped
              exact ⟨_, rfl, Or.inl rfl⟩
          | guarded => exact arms _ endless (endless ▸ (Option.some.inj stepped).symm)
          | _ => exact absurd opening (by simp [Point.isOpening])
  | queueSendWait queue item ticks =>
      cases queue with
      | none => exact absurd endless (by simp [Call.endless])
      | some index =>
          simp only [Call.endless, decide_eq_true_eq] at endless
          cases point with
          | entry =>
              have named : ¬(some index = none ∨ item = 0) := by simpa using endless.1
              refine arms (.bool false) endless.2 ?_
              obtain rfl := Option.some.inj stepped
              rw [queueEntryStep, if_neg named, endless.2]
          | guarded => exact absurd stepped (by simp [Call.step, queueSendStep])
          | _ => exact absurd opening (by simp [Point.isOpening])
  | queueReceiveWait queue item ticks =>
      cases queue with
      | none => exact absurd endless (by simp [Call.endless])
      | some index =>
          simp only [Call.endless, decide_eq_true_eq] at endless
          cases point with
          | entry =>
              have named : ¬(some index = none ∨ item = 0) := by simpa using endless.1
              refine arms (.bool false) endless.2 ?_
              obtain rfl := Option.some.inj stepped
              rw [queueEntryStep, if_neg named, endless.2]
          | guarded => exact absurd stepped (by simp [Call.step, queueReceiveStep])
          | _ => exact absurd opening (by simp [Point.isOpening])
  | eventFlagsWait flags request ticks matchedBits =>
      cases flags with
      | none => exact absurd endless (by simp [Call.endless])
      | some index =>
          simp only [Call.endless, decide_eq_true_eq] at endless
          cases point with
          | entry =>
              have named : ¬(some index = none ∨ request.mask = 0) := by simpa using endless.1
              simp only [Call.step, eventFlagsWaitStep, if_neg named, endless.2] at stepped
              exact arms _ endless.2 (Option.some.inj stepped).symm
          | guarded => exact absurd stepped (by simp [Call.step, eventFlagsWaitStep])
          | _ => exact absurd opening (by simp [Point.isOpening])
  | _ => exact absurd endless (by simp [Call.endless])

/-- The result that ends the wait of a call which has no deadline. -/
def Call.completion : Call → WaitResult
  | .taskSleep _ => .timeout
  | _ => .signaled

/-- What the last step of a call finds. -/
structure Concluding (system : System) (task : Nat) (call : Call) (point : Point) : Prop where
  late : point.isGuarded = true
  endless : ∀ timeout, point.timeout = some timeout →
    timeout.waitForever = true ∨ ∃ ticks, call = .taskSleep ticks
  resumed : point.isWaiting = true → (system.kernel.tasks task).waitResult = call.completion
  owner : ∀ index ticks, call = .mutexLock (some index) ticks → point.isWaiting = false →
    ((system.kernel.mutexes index).owner = some task ↔ ∃ timeout, point = .signaled timeout)

section Conclusion

variable {index : Nat} {item ticks : Word} {reply : Reply}

/-- A critical section that does not fail replies success or blocks. -/
theorem StepResult.succeeds_ofProgress
    {ended : Kernel × Progress Bool} {memory : Memory} {waiting : Point}
    (progress : ended.2 ≠ .returned false) (decided : result = .ofProgress memory waiting ended)
    (replied : result.outcome = .reply reply) : reply.succeeds = true := by
  subst decided
  obtain ⟨kernel, _ | _⟩ := ended
  · rename_i value
    cases value with
    | true =>
        obtain rfl := Outcome.reply.inj replied
        rfl
    | false => exact absurd rfl progress
  · exact absurd replied (by simp [StepResult.ofProgress, StepResult.goto])

theorem Assured.sleep_succeeds
    (concluding : Concluding system task (.taskSleep ticks) point)
    (stepped : (Call.taskSleep ticks).step cfg system.cpu system.kernel system.memory task
      point = some result)
    (replied : result.outcome = .reply reply) : reply.succeeds = true := by
  have late := concluding.late
  cases point with
  | asleep =>
      obtain rfl := Option.some.inj stepped
      obtain rfl := Outcome.reply.inj replied
      simpa [Reply.succeeds, Call.completion] using concluding.resumed rfl
  | entry => exact absurd late (by decide)
  | _ => exact absurd stepped (by simp [Call.step, taskSleepStep])

/-- The mutex was free, or has been handed to the waiter. -/
theorem Assured.lock_succeeds
    (assured : Assured system task (.mutexLock (some index) ticks))
    (concluding : Concluding system task (.mutexLock (some index) ticks) point)
    (stepped : (Call.mutexLock (some index) ticks).step cfg system.cpu system.kernel
      system.memory task point = some result)
    (replied : result.outcome = .reply reply) : reply.succeeds = true := by
  obtain ⟨late, deadline, resumed, owner⟩ := concluding
  cases point with
  | armed timeout =>
      refine StepResult.succeeds_ofProgress ?_ (Option.some.inj stepped).symm replied
      refine mutexLockSection_endless (Cpu.basepri_of_threadContextAllowed assured.allowed)
        assured.runs (assured.ready _ rfl) ?_ ?_
      · rw [ne_eq, owner index ticks rfl rfl]
        simp
      · simpa using deadline timeout rfl
  | suspended timeout =>
      simp only [Call.step, mutexLockStep, show (system.kernel.tasks task).waitResult =
        .signaled from resumed rfl, if_true] at stepped
      obtain rfl := Option.some.inj stepped
      exact absurd replied (by simp [StepResult.goto])
  | signaled timeout =>
      obtain rfl := Option.some.inj stepped
      obtain rfl := Outcome.reply.inj replied
      simpa [Reply.succeeds] using (owner index ticks rfl rfl).mpr ⟨timeout, rfl⟩
  | entry => exact absurd late (by decide)
  | _ => exact absurd stepped (by simp [Call.step, mutexLockStep])

/-- A token was left, or has been handed to the waiter. -/
theorem Assured.take_succeeds
    {ref : SemaphoreRef} (assured : Assured system task (.semaphoreTake (some ref) ticks))
    (concluding : Concluding system task (.semaphoreTake (some ref) ticks) point)
    (stepped : (Call.semaphoreTake (some ref) ticks).step cfg system.cpu system.kernel
      system.memory task point = some result)
    (replied : result.outcome = .reply reply) : reply.succeeds = true := by
  obtain ⟨late, deadline, resumed, _⟩ := concluding
  cases point with
  | armed timeout =>
      refine StepResult.succeeds_ofProgress ?_ (Option.some.inj stepped).symm replied
      exact semaphoreTakeSection_endless (Cpu.basepri_of_threadContextAllowed assured.allowed)
        assured.runs (by simpa using deadline timeout rfl)
  | suspended timeout =>
      obtain rfl := Option.some.inj stepped
      obtain rfl := Outcome.reply.inj replied
      simpa [Reply.succeeds, Call.completion] using resumed rfl
  | entry => exact absurd late (by decide)
  | guarded => exact absurd late (by simp [Point.isGuarded])
  | _ => exact absurd stepped (by simp [Call.step, semaphoreTakeStep])

/-- There was room, or the section is entered again. -/
theorem Assured.send_succeeds
    (assured : Assured system task (.queueSendWait (some index) item ticks))
    (concluding : Concluding system task (.queueSendWait (some index) item ticks) point)
    (stepped : (Call.queueSendWait (some index) item ticks).step cfg system.cpu system.kernel
      system.memory task point = some result)
    (replied : result.outcome = .reply reply) : reply.succeeds = true := by
  obtain ⟨late, deadline, resumed, _⟩ := concluding
  have basepri := Cpu.basepri_of_threadContextAllowed assured.allowed
  have sends : ∀ timeout, point.timeout = some timeout →
      some (StepResult.ofProgress system.memory (.suspended timeout) (queueSendSection
        system.cpu system.kernel system.memory index item timeout)) = some result →
      reply.succeeds = true := fun timeout carried decided =>
    StepResult.succeeds_ofProgress (queueSendSection_endless basepri assured.runs
      (assured.valid index rfl) (by simpa using deadline timeout carried))
      (Option.some.inj decided).symm replied
  cases point with
  | armed timeout => exact sends timeout rfl stepped
  | signaled timeout => exact sends timeout rfl stepped
  | suspended timeout =>
      simp only [Call.step, queueSendStep, queueResumeStep,
        show (system.kernel.tasks task).waitResult = .signaled from resumed rfl] at stepped
      obtain rfl := Option.some.inj stepped
      exact absurd replied (by simp [StepResult.goto])
  | entry => exact absurd late (by decide)
  | _ => exact absurd stepped (by simp [Call.step, queueSendStep])

/-- There was an item, or the section is entered again. -/
theorem Assured.receive_succeeds
    (assured : Assured system task (.queueReceiveWait (some index) item ticks))
    (concluding : Concluding system task (.queueReceiveWait (some index) item ticks) point)
    (stepped : (Call.queueReceiveWait (some index) item ticks).step cfg system.cpu
      system.kernel system.memory task point = some result)
    (replied : result.outcome = .reply reply) : reply.succeeds = true := by
  obtain ⟨late, deadline, resumed, _⟩ := concluding
  have basepri := Cpu.basepri_of_threadContextAllowed assured.allowed
  have receives : ∀ timeout, point.timeout = some timeout →
      (let received := queueReceiveSection system.cpu system.kernel system.memory index
        item timeout
      some (StepResult.ofProgress received.2.1 (.suspended timeout)
        (received.1, received.2.2))) = some result →
      reply.succeeds = true := fun timeout carried decided =>
    StepResult.succeeds_ofProgress (queueReceiveSection_endless basepri
      assured.runs (assured.valid index rfl) (by simpa using deadline timeout carried))
      (Option.some.inj decided).symm replied
  cases point with
  | armed timeout => exact receives timeout rfl stepped
  | signaled timeout => exact receives timeout rfl stepped
  | suspended timeout =>
      simp only [Call.step, queueReceiveStep, queueResumeStep,
        show (system.kernel.tasks task).waitResult = .signaled from resumed rfl] at stepped
      obtain rfl := Option.some.inj stepped
      exact absurd replied (by simp [StepResult.goto])
  | entry => exact absurd late (by decide)
  | _ => exact absurd stepped (by simp [Call.step, queueReceiveStep])

/-- The condition was met in the section, or the waiter was woken with its bits. -/
theorem Assured.wait_succeeds
    {request : FlagsRequest} {matchedBits : Bool}
    (assured : Assured system task (.eventFlagsWait (some index) request ticks matchedBits))
    (concluding : Concluding system task (.eventFlagsWait (some index) request ticks matchedBits)
      point)
    (stepped : (Call.eventFlagsWait (some index) request ticks matchedBits).step cfg system.cpu
      system.kernel system.memory task point = some result)
    (replied : result.outcome = .reply reply) : reply.succeeds = true := by
  obtain ⟨late, deadline, resumed, _⟩ := concluding
  cases point with
  | armed timeout =>
      have endless : ∀ matched, (eventFlagsWaitSection system.cpu system.kernel index
          request timeout).2 ≠ .returned (false, matched) :=
        eventFlagsWaitSection_endless (Cpu.basepri_of_threadContextAllowed assured.allowed)
          assured.runs (assured.ready _ rfl) (by simpa using deadline timeout rfl)
      simp only [Call.step, eventFlagsWaitStep, Option.map_some] at stepped
      obtain rfl := Option.some.inj stepped
      generalize eventFlagsWaitSection system.cpu system.kernel index request timeout =
        ended at endless replied
      obtain ⟨kernel, ⟨value, matched⟩ | _⟩ := ended
      · cases value with
        | true =>
            obtain rfl := Outcome.reply.inj replied
            rfl
        | false => exact absurd rfl (endless matched)
      · exact absurd replied (by simp [StepResult.goto])
  | suspended timeout =>
      simp only [Call.step, eventFlagsWaitStep, show (system.kernel.tasks task).waitResult =
        .signaled from resumed rfl, if_true] at stepped
      obtain rfl := Option.some.inj stepped
      exact absurd replied (by simp [StepResult.goto])
  | signaled timeout =>
      obtain rfl := Option.some.inj stepped
      obtain rfl := Outcome.reply.inj replied
      rfl
  | entry => exact absurd late (by decide)
  | _ => exact absurd stepped (by simp [Call.step, eventFlagsWaitStep])

/-- The critical section and the reads after it report success. -/
theorem Assured.succeeds
    (assured : Assured system task call) (endless : call.endless = true)
    (concluding : Concluding system task call point)
    (stepped : call.step cfg system.cpu system.kernel system.memory task point = some result)
    (replied : result.outcome = .reply reply) : reply.succeeds = true := by
  cases call with
  | taskSleep => exact Assured.sleep_succeeds concluding stepped replied
  | mutexLock mutex =>
      cases mutex with
      | none => exact absurd endless (by simp [Call.endless])
      | some => exact assured.lock_succeeds concluding stepped replied
  | semaphoreTake semaphore =>
      cases semaphore with
      | none => exact absurd endless (by simp [Call.endless])
      | some => exact assured.take_succeeds concluding stepped replied
  | queueSendWait queue =>
      cases queue with
      | none => exact absurd endless (by simp [Call.endless])
      | some => exact assured.send_succeeds concluding stepped replied
  | queueReceiveWait queue =>
      cases queue with
      | none => exact absurd endless (by simp [Call.endless])
      | some => exact assured.receive_succeeds concluding stepped replied
  | eventFlagsWait flags =>
      cases flags with
      | none => exact absurd endless (by simp [Call.endless])
      | some => exact assured.wait_succeeds concluding stepped replied
  | _ => exact absurd endless (by simp [Call.endless])

end Conclusion

end Steps

/-! ## The whole call -/

/-- A thread reaches a waiting point by blocking. -/
theorem Core.blocked_of_waiting
    {cfg : Config} {system : System} {task : Nat} {call : Call} {point next : Point}
    {after : Kernel} (core : Core system)
    (active : system.activeThread = some (.task task))
    (effect : Effect cfg system.cpu system.kernel task call point after (.goto next))
    (waiting : next.isWaiting = true) : (after.tasks task).state = .blocked := by
  cases effect with
  | passes _ _ _ moves => cases moves <;> exact absurd waiting (by simp [Point.isWaiting])
  | @waits current reason object ticks trace priorities _ runs _ _ _ blocked =>
      obtain rfl : task = current := Thread.task.inj (core.active_eq active runs.currentTask)
      rw [blocked]
      exact congrArg Task.state (system.kernel.waiting_self call task reason object ticks trace
        priorities)
  | _ => exact absurd waiting (by simp [Point.isWaiting])

theorem Core.blocked_of_advance
    {cfg : Config} {system after : System} {task : Nat} {call : Call} {point : Point}
    {events : List Event} (core : Core system)
    (active : system.activeThread = some (.task task))
    (step : system.step cfg .advance = some (after, events))
    (inCall : after.frames (.task task) = .inCall call point) (waiting : point.isWaiting = true) :
    (after.kernel.tasks task).state = .blocked := by
  cases System.stepped step with
  | @advance thread called start result nowActive _ stepped =>
      obtain rfl := Option.some.inj (active.symm.trans nowActive)
      have effect := (Call.step_advance stepped).effect
      have frame := (Function.update_self ..).symm.trans inCall
      cases outcome : result.outcome with
      | reply =>
          rw [outcome] at frame
          exact absurd frame (by simp [Outcome.frame])
      | goto next =>
          rw [outcome] at effect frame
          obtain ⟨_, rfl⟩ := Frame.inCall.inj frame
          exact core.blocked_of_waiting active effect waiting
  | user nowActive user =>
      obtain rfl := Option.some.inj (active.symm.trans nowActive)
      rw [show system.frames (.task task) = .inCall call point from inCall] at user
      exact absurd user (by simp)

/-- A wait that only its object can end, or the sleep's own deadline. -/
structure Lasting (task : Nat) (call : Call) (timeout : WaitTimeout) (system : System) :
    Prop where
  limited : Limited task call timeout system
  endless : timeout.waitForever = true ∨ ∃ ticks, call = .taskSleep ticks
  resumed : (system.kernel.tasks task).state ≠ .blocked → ∀ point,
    system.frames (.task task) = .inCall call point → point.isWaiting = true →
      (system.kernel.tasks task).waitResult = call.completion

theorem Call.wait_taskSleep
    {call : Call} {reason : WaitReason} {object : ObjectRef}
    (wait : call.wait = some (reason, some object)) (ticks : Word) : call ≠ .taskSleep ticks := by
  rintro rfl
  exact absurd wait (by simp [Call.wait])

theorem Call.completion_of_ne
    {call : Call} (awake : ∀ ticks, call ≠ .taskSleep ticks) : call.completion = .signaled := by
  cases call with
  | taskSleep ticks => exact absurd rfl (awake ticks)
  | _ => rfl

theorem Lasting.step
    {cfg : Config} {system after : System} {action : Action} {events : List Event}
    {task : Nat} {call : Call} {timeout : WaitTimeout}
    (lasting : Lasting task call timeout system) (core : Core system)
    (step : system.step cfg action = some (after, events))
    (unreturned : ∀ other reply, Event.returned (.task task) other reply ∉ events) :
    Lasting task call timeout after := by
  refine ⟨(lasting.limited.step core step unreturned).1, lasting.endless, ?_⟩
  obtain ⟨place, stands, _⟩ := lasting.limited.stands
  intro free point inCall waiting
  cases core.taskStep step task with
  | invokes _ user =>
      rw [user] at stands
      exact absurd stands (by simp)
  | @advances called from_ result active entered stepped =>
      cases outcome : result.outcome with
      | reply value =>
          exact absurd (by simp [outcome, Outcome.returns]) (unreturned called value)
      | goto next =>
          have effect := (Call.step_advance stepped).effect
          rw [outcome] at effect inCall
          obtain ⟨_, rfl⟩ := Frame.inCall.inj ((Function.update_self ..).symm.trans inCall)
          exact absurd (core.blocked_of_waiting active effect waiting) free
  | watches same ticks move =>
      rw [same] at inCall
      cases move with
      | stays blocked wait =>
          rw [show (after.kernel.tasks task).waitResult = (system.kernel.tasks task).waitResult from
            congrArg WaitPart.result wait]
          exact lasting.resumed (fun was => free (blocked.mpr was)) point inCall waiting
      | fresh created =>
          rw [core.fresh task created] at stands
          exact absurd stands (by simp)
      | expires _ due _ result =>
          obtain ⟨blocked, finite, _⟩ := Task.dueAt_iff.mp due
          rw [lasting.limited.hasDeadline blocked] at finite
          rcases lasting.endless with forever | ⟨delay, rfl⟩
          · simp [forever] at finite
          · exact result
      | @signaled caller reason object _ _ waits _ result =>
          obtain ⟨blocked, sameReason, _, sameObject⟩ := Task.waitsOn_iff.mp waits
          obtain ⟨other, place, frame, _, wait⟩ := (core.slots task).suspended blocked
          obtain ⟨rfl, rfl⟩ := Frame.inCall.inj (frame.symm.trans inCall)
          rw [sameObject] at wait
          rw [result, Call.completion_of_ne (Call.wait_taskSleep wait)]

/-- A call that cannot fail, on its way. -/
structure Enduring (task : Nat) (call : Call) (system : System) : Prop where
  core : Core system
  running : system.kernel.running = true
  context : system.ContextAllowed task
  ready : ∀ object, call.object = some object → system.kernel.initialized object
  phase : (∃ point, system.frames (.task task) = .inCall call point ∧ point.isOpening = true) ∨
    ∃ timeout, Lasting task call timeout system

namespace Enduring

variable {cfg : Config} {system after : System} {action : Action} {events emitted : List Event}
  {task : Nat} {call : Call}

theorem frame (enduring : Enduring task call system) :
    ∃ point, system.frames (.task task) = .inCall call point := by
  rcases enduring.phase with ⟨point, inCall, _⟩ | ⟨_, lasting⟩
  · exact ⟨point, inCall⟩
  · obtain ⟨point, inCall, _⟩ := lasting.limited.stands
    exact ⟨point, inCall⟩

theorem assured
    (enduring : Enduring task call system) (run : Run cfg events system)
    (active : system.activeThread = some (.task task)) : Assured system task call where
  runs := enduring.core.active_current active
  allowed := enduring.context.unmasked (enduring.core.active_current active).currentTask
  ready := enduring.ready
  guarded _ named := semaphoreGuard_of_initialized run (enduring.ready _ named)
  valid index named := ((QueueOk.of_run index run).sound (enduring.ready _ named)).valid

/-- The step that starts the clock of the call. -/
theorem clocked
    {next : Point} {ticks : Word}
    (enduring : Enduring task call system)
    (step : system.step cfg .advance = some (after, emitted))
    (active : system.activeThread = some (.task task))
    (opening : ∃ point, system.frames (.task task) = .inCall call point ∧
      point.isOpening = true)
    (stands : after.frames (.task task) = .inCall call next)
    (clocked : next.clocked call ticks)
    (endless : ticks = waitForever ∨ call = .taskSleep ticks) :
    ∃ timeout, Lasting task call timeout after := by
  have clock : ClockStarts cfg task call ticks system after := by
    refine ⟨active, ⟨emitted, step⟩, opening, ?_⟩
    rcases clocked with ⟨sleeps, rfl⟩ | ⟨same, timeout, rfl⟩
    · exact Or.inl ⟨sleeps, stands⟩
    · exact Or.inr ⟨same, timeout, stands⟩
  refine ⟨timeoutFrom system.kernel.tickCount ticks, (clock.limited enduring.core).2.1, ?_, ?_⟩
  · rcases endless with rfl | sleeps
    · exact Or.inl (by simp [timeoutFrom])
    · exact Or.inr ⟨ticks, sleeps⟩
  · intro free point inCall waiting
    exact absurd (enduring.core.blocked_of_advance active step inCall waiting) free

theorem step
    (enduring : Enduring task call system) (endless : call.endless = true)
    (run : Run cfg events system) (step : system.step cfg action = some (after, emitted))
    (unreturned : ∀ other reply, Event.returned (.task task) other reply ∉ emitted) :
    Enduring task call after := by
  obtain ⟨point, inCall⟩ := enduring.frame
  refine ⟨enduring.core.step step, enduring.core.running_step step enduring.running,
    enduring.context.step enduring.core enduring.running inCall step, fun object named =>
      enduring.core.initialized_step step enduring.running (enduring.ready object named), ?_⟩
  rcases enduring.phase with ⟨start, stands, opening⟩ | ⟨timeout, lasting⟩
  · cases enduring.core.taskStep step task with
    | invokes _ user =>
        rw [user] at stands
        exact absurd stands (by simp)
    | @advances called place result active entered stepped =>
        obtain ⟨rfl, rfl⟩ := Frame.inCall.inj (entered.symm.trans stands)
        obtain ⟨next, outcome, further⟩ :=
          (enduring.assured run active).opens endless opening stepped
        have frame : ({ system with
            kernel := result.kernel
            memory := result.memory }.setFrame (.task task)
              (result.outcome.frame called)).frames (.task task) = .inCall called next := by
          rw [outcome]
          exact Function.update_self ..
        rcases further with early | ⟨ticks, clocked, forever⟩
        · exact Or.inl ⟨next, frame, early⟩
        · exact Or.inr (enduring.clocked step active ⟨place, stands, opening⟩ frame clocked forever)
    | watches same => exact Or.inl ⟨start, same.trans stands, opening⟩
  · exact Or.inr ⟨timeout, lasting.step enduring.core step unreturned⟩

/-- The state in which the call has just been made. -/
theorem of_invoke
    (core : Core system) (active : system.activeThread = some (.task task))
    (step : system.step cfg (.invoke call) = some (after, emitted))
    (context : system.cpu.threadContextAllowed = true)
    (ready : ∀ object, call.object = some object → system.kernel.initialized object) :
    Enduring task call after := by
  have next := core.step step
  simp only [System.step, active] at step
  split at step
  · obtain ⟨rfl, _⟩ := Prod.mk.inj (Option.some.inj step)
    exact ⟨next, (core.active_current active).running,
      ⟨(Cpu.threadContextAllowed_iff.mp context).1, fun _ => context⟩, ready,
      Or.inl ⟨.entry, Function.update_self .., rfl⟩⟩
  · exact absurd step (by simp)

/-- The last step finds what it needs. -/
theorem concluding
    {point : Point} {timeout : WaitTimeout} {past : List Event}
    (lasting : Lasting task call timeout system) (core : Core system)
    (active : system.activeThread = some (.task task))
    (inCall : system.frames (.task task) = .inCall call point)
    (run : Run cfg past system)
    (unheld : ∀ index ticks, call = .mutexLock (some index) ticks →
      holds index task past = false) : Concluding system task call point := by
  have awake : (system.kernel.tasks task).state ≠ .blocked := by
    rw [core.active_awake active]
    decide
  obtain ⟨_, same, timed⟩ := lasting.limited.stands
  obtain ⟨_, rfl⟩ := Frame.inCall.inj (inCall.symm.trans same)
  refine ⟨Point.isGuarded_of_timed timed, fun carried present => ?_,
    lasting.resumed awake point inCall, ?_⟩
  · rcases timed with rfl | kept
    · exact absurd present (by simp [Point.timeout])
    · obtain rfl := Option.some.inj (kept.symm.trans present)
      exact lasting.endless
  · rintro index ticks rfl still
    rw [(LedgerOk.of_run index run).owner_iff task, unheld index ticks rfl, System.Granted,
      System.view, inCall]
    cases point with
    | signaled kept => simp [waitView]
    | suspended => exact absurd still (by simp [Point.isWaiting])
    | asleep => exact absurd still (by simp [Point.isWaiting])
    | _ => simp [waitView]

/-- A call that cannot fail returns success. -/
theorem succeeds
    {point : Point} {result : StepResult} {reply : Reply}
    (enduring : Enduring task call system) (endless : call.endless = true)
    (run : Run cfg events system)
    (unheld : ∀ index ticks, call = .mutexLock (some index) ticks →
      holds index task events = false)
    (active : system.activeThread = some (.task task))
    (inCall : system.frames (.task task) = .inCall call point)
    (stepped : call.step cfg system.cpu system.kernel system.memory task point = some result)
    (replied : result.outcome = .reply reply) : reply.succeeds = true := by
  have assured := enduring.assured run active
  rcases enduring.phase with ⟨start, stands, opening⟩ | ⟨timeout, lasting⟩
  · obtain ⟨_, rfl⟩ := Frame.inCall.inj (inCall.symm.trans stands)
    obtain ⟨next, outcome, _⟩ := assured.opens endless opening stepped
    exact absurd (replied.symm.trans outcome) (by simp)
  · exact assured.succeeds endless
      (concluding lasting enduring.core active inCall run unheld) stepped replied

/-- Steps that do not return keep it on its way. -/
theorem kept
    {allowed : System → Action → Prop} {later : System}
    (enduring : Enduring task call system) (endless : call.endless = true)
    (run : Run cfg events system)
    (further : (forge cfg).RunFrom allowed system emitted later)
    (unreturned : ∀ other reply, Event.returned (.task task) other reply ∉ emitted) :
    Enduring task call later := by
  refine (kept_until_return (motive := fun state => ∃ past, Run cfg past state ∧
    Enduring task call state) ⟨events, run, enduring⟩ ?_ further unreturned).elim
      fun _ held => held.2
  rintro emitted state next action ⟨past, reached, held⟩ _ stepped silent
  exact ⟨_, reached.step stepped, held.step endless reached stepped silent⟩

end Enduring

/-- A call without a deadline that starts in thread mode on initialized objects returns
success, whatever runs until it returns. -/
theorem endless_waits_succeed
    {cfg : Config} {task : Nat} {call : Call} {start finish : System}
    {events during : List Event} {reply : Reply}
    (run : Run cfg events start)
    (span : CallSpan cfg task call start finish during reply)
    (endless : call.endless = true)
    (context : start.cpu.threadContextAllowed = true)
    (ready : ∀ object, call.object = some object → start.kernel.initialized object)
    (unowned : ∀ index ticks, call = .mutexLock (some index) ticks →
      (start.kernel.mutexes index).owner ≠ some task) :
    reply.succeeds = true := by
  obtain ⟨caller, called, middle, inside, action, emitted, invoked, further, unreturned, last,
    returned, _⟩ := span
  have unheld : ∀ index ticks, call = .mutexLock (some index) ticks →
      holds index task events = false := by
    intro index ticks same
    rw [← Bool.not_eq_true]
    exact fun held => unowned index ticks same
      (((LedgerOk.of_run index run).owner_iff task).mpr (Or.inl held))
  have lasts : ∃ past, Run cfg past middle ∧ Enduring task call middle ∧
      ∀ index ticks, call = .mutexLock (some index) ticks → holds index task past = false := by
    refine kept_until_return (motive := fun state => ∃ past, Run cfg past state ∧
      Enduring task call state ∧ ∀ index ticks, call = .mutexLock (some index) ticks →
        holds index task past = false)
      ⟨_, run.step invoked, Enduring.of_invoke (Core.of_run run) caller invoked context ready,
        fun index ticks same => ?_⟩ ?_ further unreturned
    · rw [holds_append, foldl_ledger_of_other (by simp)]
      exact unheld index ticks same
    · rintro emitted state next action ⟨past, reached, enduring, unheld⟩ _ stepped silent
      refine ⟨_, reached.step stepped, enduring.step endless reached stepped silent,
        fun index ticks same => ?_⟩
      rw [holds_append, foldl_ledger_of_other silent]
      exact unheld index ticks same
  obtain ⟨past, reached, enduring, unheld⟩ := lasts
  obtain ⟨point, result, active, inCall, stepped, replied, _⟩ :=
    (System.stepped last).returned returned
  exact enduring.succeeds endless reached unheld active inCall stepped replied

/-- A higher task waits for an item, ticks pass, and the other task sends one. -/
def receiveInside : List Action :=
  [.advance, .advance, .switchFrom 0, .sysTick, .sysTick,
    .invoke (.queueSend (some 0) 256), .advance, .advance, .switchFrom 1, .advance]

/-- The wait ends with an item. -/
theorem endless_receive_succeeds :
    ∃ events start finish during reply, Run Config.default events start ∧
      CallSpan Config.default 0 (.queueReceiveWait (some 0) 512 waitForever) start finish during
        reply ∧
      (start.kernel.queues 0).count = 0 ∧ reply.succeeds = true := by
  obtain ⟨events, start, run, checked⟩ :=
    Machine.RunFrom.exists_of_execFrom (forge Config.default) Machine.anyStep System.boot
      (Action.bootProgram [.queueInit (some 0) 0x20008000#32 2 1] [2, 1])
      (fun _ start => start.checkSpan Config.default 0
          (.queueReceiveWait (some 0) 512 waitForever) (.bool true) receiveInside &&
        decide (start.cpu.threadContextAllowed = true ∧
          (start.kernel.queues 0).magic = queueMagic ∧ (start.kernel.queues 0).count = 0))
      (by decide +kernel)
  simp only [Bool.and_eq_true, decide_eq_true_eq] at checked
  obtain ⟨spanned, context, magic, empty⟩ := checked
  obtain ⟨finish, during, span⟩ := System.span_of_checkSpan spanned
  have ready : ∀ object, (Call.queueReceiveWait (some 0) 512 waitForever).object = some object →
      start.kernel.initialized object := by
    rintro object ⟨⟩
    exact magic
  exact ⟨events, start, finish, during, _, run, span, empty,
    endless_waits_succeed run span (by decide) context ready fun _ _ other => by cases other⟩

end ForgeKernel
