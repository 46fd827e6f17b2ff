import ForgeKernel.Invariant.Core
import ForgeKernel.Invariant.Recording
import ForgeKernel.Model.Trace

/-!
# Critical sections as sequences of primitive updates

Every critical section and the tick are made of a few updates: the scheduler's block,
unblock and request, a change of priorities, and writes of objects, of event-flag requests,
of counters and of trace variables.  What every primitive update preserves holds across all
of them.
-/

namespace ForgeKernel

namespace Kernel

/-- One primitive update. -/
inductive Update (kernel : Kernel) : Kernel → Prop
  | blocks (reason : WaitReason) (object : Option ObjectRef) (ticks : Word) :
      Update kernel (schedulerBlockCurrentLocked kernel reason object ticks).1
  | unblocks (index : Nat) (result : WaitResult) :
      Update kernel (schedulerUnblockTaskLocked kernel index result).1
  | requests : Update kernel (schedulerRequestIfNeededLocked kernel)
  | reprices (priorities : Nat → Nat) : Update kernel (kernel.withPriorities priorities)
  | flags (index : Nat) (mask result : Word) (all clearOnExit : Bool) :
      Update kernel (kernel.setTask index { kernel.tasks index with
        waitFlagsMask := mask
        waitFlagsResult := result
        waitFlagsAll := all
        waitFlagsClearOnExit := clearOnExit })
  | counts (counters : SchedulerCounters) : Update kernel { kernel with counters := counters }
  | stores (mutexes : Nat → Mutex) (binarySemaphores : Nat → BinarySemaphore)
      (countingSemaphores : Nat → CountingSemaphore) (queues : Nat → Queue)
      (eventFlags : Nat → EventFlags) :
      Update kernel { kernel with
        mutexes := mutexes
        binarySemaphores := binarySemaphores
        countingSemaphores := countingSemaphores
        queues := queues
        eventFlags := eventFlags }
  | traces (trace : Trace) (same : trace.calls = kernel.trace.calls) :
      Update kernel { kernel with trace := trace }

/-- A sequence of primitive updates. -/
abbrev Updates : Kernel → Kernel → Prop :=
  Relation.ReflTransGen Update

/-- A primitive update that leaves the trace to the recording function. -/
structure Write (before after : Kernel) : Prop where
  update : before.Update after
  recorded : before.Recorded after

namespace Write

variable (kernel : Kernel)

/-- The block of the scheduler is one write. -/
theorem blocks (reason : WaitReason) (object : Option ObjectRef) (ticks : Word) :
    kernel.Write (schedulerBlockCurrentLocked kernel reason object ticks).1 :=
  ⟨.blocks reason object ticks, .blocks kernel reason object ticks⟩

/-- So is its unblock. -/
theorem unblocks (index : Nat) (result : WaitResult) :
    kernel.Write (schedulerUnblockTaskLocked kernel index result).1 :=
  ⟨.unblocks index result, .unblocks kernel index result⟩

/-- So is a request for a context switch. -/
theorem requests : kernel.Write (schedulerRequestIfNeededLocked kernel) :=
  ⟨.requests, .requests kernel⟩

/-- Changing priorities enters nothing in the trace. -/
theorem reprices (priorities : Nat → Nat) : kernel.Write (kernel.withPriorities priorities) :=
  ⟨.reprices priorities, .of_trace rfl rfl⟩

/-- Neither does storing an event-flag request. -/
theorem flags (index : Nat) (mask result : Word) (all clearOnExit : Bool) :
    kernel.Write (kernel.setTask index { kernel.tasks index with
      waitFlagsMask := mask
      waitFlagsResult := result
      waitFlagsAll := all
      waitFlagsClearOnExit := clearOnExit }) :=
  ⟨.flags index mask result all clearOnExit, .of_trace rfl rfl⟩

theorem counts (counters : SchedulerCounters) :
    kernel.Write { kernel with counters := counters } :=
  ⟨.counts counters, .of_trace rfl rfl⟩

/-- Neither does storing objects. -/
theorem stores
    (mutexes : Nat → Mutex) (binarySemaphores : Nat → BinarySemaphore)
    (countingSemaphores : Nat → CountingSemaphore) (queues : Nat → Queue)
    (eventFlags : Nat → EventFlags) :
    kernel.Write { kernel with
      mutexes := mutexes
      binarySemaphores := binarySemaphores
      countingSemaphores := countingSemaphores
      queues := queues
      eventFlags := eventFlags } :=
  ⟨.stores mutexes binarySemaphores countingSemaphores queues eventFlags, .of_trace rfl rfl⟩

end Write

/-- A sequence of such updates. -/
abbrev Writes : Kernel → Kernel → Prop :=
  Relation.ReflTransGen Write

namespace Writes

/-- Writes are primitive updates. -/
theorem updates {before after : Kernel} (writes : before.Writes after) :
    before.Updates after :=
  Relation.ReflTransGen.mono (fun _ _ write => write.update) before after writes

/-- Writes change the trace by entries of the recording function only. -/
theorem recorded {before after : Kernel} (writes : before.Writes after) :
    before.Recorded after := by
  induction writes with
  | refl => exact .refl before
  | tail _ write inductionHypothesis => exact inductionHypothesis.trans write.recorded

variable (kernel : Kernel)

/-- Storing one object is a write; here a mutex. -/
theorem setMutex (index : Nat) (mutex : Mutex) :
    kernel.Writes (kernel.setMutex index mutex) :=
  .single (.stores _ _ _ _ _ _)

theorem setQueue (index : Nat) (queue : Queue) :
    kernel.Writes (kernel.setQueue index queue) :=
  .single (.stores _ _ _ _ _ _)

theorem setEventFlags (index : Nat) (flags : EventFlags) :
    kernel.Writes (kernel.setEventFlags index flags) :=
  .single (.stores _ _ _ _ _ _)

/-- Either kind of semaphore is stored in one write. -/
theorem setSemaphoreCount (semaphore : SemaphoreRef) (count : Word) :
    kernel.Writes (kernel.setSemaphoreCount semaphore count) := by
  cases semaphore with
  | binary index => exact .single (.stores _ _ _ _ _ _)
  | counting index => exact .single (.stores _ _ _ _ _ _)

/-- The donation along a chain changes priorities only. -/
theorem inherits (owner donated : Nat) :
    kernel.Writes (mutexInheritPriorityChainLocked kernel owner donated) := by
  rw [mutexInheritPriorityChainLocked_eq]
  exact .single (.reprices _ _)

/-- So does the recomputation. -/
theorem recomputes (task : Nat) :
    kernel.Writes (mutexRecomputePriorityChainLocked kernel task) := by
  rw [mutexRecomputePriorityChainLocked_eq]
  exact .single (.reprices _ _)

/-- The removal of a waiter recomputes the chain of its owner. -/
theorem waiterRemoved (mutex : Nat) :
    kernel.Writes (mutexWaiterRemovedLocked kernel mutex) := by
  obtain ⟨priorities, same⟩ := mutexWaiterRemovedLocked_eq kernel mutex
  rw [same]
  exact .single (.reprices _ _)

theorem blocks (reason : WaitReason) (object : Option ObjectRef) (ticks : Word) :
    kernel.Writes (schedulerBlockCurrentLocked kernel reason object ticks).1 :=
  .single (.blocks _ _ _ _)

theorem unblocks (index : Nat) (result : WaitResult) :
    kernel.Writes (schedulerUnblockTaskLocked kernel index result).1 :=
  .single (.unblocks _ _ _)

theorem flags (index : Nat) (mask result : Word) (all clearOnExit : Bool) :
    kernel.Writes (kernel.setTask index { kernel.tasks index with
      waitFlagsMask := mask
      waitFlagsResult := result
      waitFlagsAll := all
      waitFlagsClearOnExit := clearOnExit }) :=
  .single (.flags _ _ _ _ _ _)

end Writes

end Kernel

open Kernel

/-! ## Critical sections -/

section Sections

variable (cpu : Cpu) (kernel : Kernel) (memory : Memory) (index : Nat)

/-- The section of `fr_mutex_lock` takes the mutex, or donates and blocks. -/
theorem mutexLockSection_writes (timeout : WaitTimeout) :
    kernel.Writes (mutexLockSection cpu kernel index timeout).1 := by
  unfold mutexLockSection
  split
  · exact .refl
  · dsimp only
    split
    · exact .refl
    · split
      · exact .setMutex kernel index _
      · split
        · exact .refl
        · split
          · exact .refl
          · split
            · exact (Writes.blocks kernel _ _ _).trans (Writes.inherits _ _ _)
            · exact .blocks kernel _ _ _

/-- `fr_mutex_unlock` hands over or frees the mutex, recomputes, and wakes one waiter. -/
theorem mutexUnlock_writes : kernel.Writes (mutexUnlock cpu kernel index).1 := by
  unfold mutexUnlock
  split
  · exact .refl
  · split
    · exact .refl
    · rename_i current _
      dsimp only
      split
      · exact .refl
      · split
        · exact (Writes.setMutex kernel index _).trans (Writes.recomputes _ _)
        · rename_i waiter _
          have handed := (Writes.setMutex kernel index
            { kernel.mutexes index with owner := some waiter }).trans
              (Writes.unblocks _ waiter .signaled)
          split
          · exact (handed.trans (Writes.recomputes _ current)).tail (.requests _)
          · exact handed.trans (Writes.setMutex _ index _)

theorem taskSleepSection_writes (delayTicks : Word) :
    kernel.Writes (taskSleepSection cpu kernel delayTicks).1 := by
  unfold taskSleepSection
  split
  · exact .refl
  · split
    · exact .refl
    · split
      · exact .refl
      · dsimp only
        split
        · exact .refl
        · exact .blocks kernel _ _ _

/-- The section of a take stores the count or blocks. -/
theorem semaphoreTakeSection_writes (semaphore : SemaphoreRef) (timeout : WaitTimeout) :
    kernel.Writes (semaphoreTakeSection cpu kernel semaphore timeout).1 := by
  unfold semaphoreTakeSection
  split
  · exact .refl
  · split
    · exact .setSemaphoreCount kernel semaphore _
    · split
      · exact .refl
      · exact .blocks kernel _ _ _

/-- A give wakes one waiter or stores the count. -/
theorem semaphoreGiveSection_writes (semaphore : SemaphoreRef) (maxCount : Word) :
    kernel.Writes (semaphoreGiveSection cpu kernel semaphore maxCount).1 := by
  unfold semaphoreGiveSection
  split
  · exact .refl
  · split
    · exact .refl
    · split
      · split
        · exact .refl
        · dsimp only
          split
          · exact (Writes.unblocks kernel _ _).tail (.requests _)
          · exact .unblocks kernel _ _
      · split
        · exact .refl
        · exact .setSemaphoreCount kernel semaphore _

/-- The wake-up after a transfer unblocks one waiter and requests a switch. -/
theorem queueWakeWaiterLocked_writes (reason : WaitReason) :
    kernel.Writes (queueWakeWaiterLocked kernel reason index) := by
  unfold queueWakeWaiterLocked
  split
  · exact .refl
  · dsimp only
    split
    · exact (Writes.unblocks kernel _ _).tail (.requests _)
    · exact .unblocks kernel _ _

/-- A queue operation that cannot transfer blocks. -/
theorem queueBlockSection_writes (reason : WaitReason) (timeout : WaitTimeout) :
    kernel.Writes (queueBlockSection kernel reason index timeout).1 := by
  unfold queueBlockSection
  split
  · exact .refl
  · exact .blocks kernel _ _ _

/-- The section of a send stores the queue and wakes a receiver, or blocks. -/
theorem queueSendSection_writes (item : Word) (timeout : WaitTimeout) :
    kernel.Writes (queueSendSection cpu kernel memory index item timeout).1 := by
  unfold queueSendSection
  split
  · exact .refl
  · unfold queueTrySendLocked
    dsimp only
    split
    · rename_i sent
      split at sent
      · cases sent
      · obtain rfl := Option.some.inj sent
        exact (Writes.setQueue kernel index _).trans (queueWakeWaiterLocked_writes _ index _)
    · exact queueBlockSection_writes kernel index _ timeout

/-- The section of a receive stores the queue and wakes a sender, or blocks. -/
theorem queueReceiveSection_writes (item : Word) (timeout : WaitTimeout) :
    kernel.Writes (queueReceiveSection cpu kernel memory index item timeout).1 := by
  unfold queueReceiveSection
  split
  · exact .refl
  · unfold queueTryReceiveLocked
    dsimp only
    split
    · rename_i received
      split at received
      · cases received
      · obtain ⟨rfl, rfl⟩ := Prod.mk.inj (Option.some.inj received)
        exact (Writes.setQueue kernel index _).trans (queueWakeWaiterLocked_writes _ index _)
    · exact queueBlockSection_writes kernel index _ timeout

/-- One turn of the scan of `fr_event_flags_set` wakes one waiter at most. -/
theorem eventFlagsSetStep_writes (bits : Word) (loop : Broadcast) (position : Nat) :
    loop.kernel.Writes (eventFlagsSetStep index bits loop position).kernel := by
  unfold eventFlagsSetStep
  dsimp only
  split
  · exact .refl
  · split
    · exact .refl
    · have woken := (Writes.flags loop.kernel position
        (loop.kernel.tasks position).waitFlagsMask
        (bits &&& (loop.kernel.tasks position).waitFlagsMask)
        (loop.kernel.tasks position).waitFlagsAll
        (loop.kernel.tasks position).waitFlagsClearOnExit).trans
          (Writes.unblocks _ position .signaled)
      split
      · exact woken
      · exact woken

/-- `fr_event_flags_set` is such a scan between two stores of the bits. -/
theorem eventFlagsSet_writes (bits : Word) :
    kernel.Writes (eventFlagsSet cpu kernel index bits).1 := by
  unfold eventFlagsSet
  split
  · exact .refl
  · dsimp only
    have scanned : ∀ (positions : List Nat) (loop : Broadcast),
        loop.kernel.Writes
          (positions.foldl (eventFlagsSetStep index ((kernel.eventFlags index).bits ||| bits))
            loop).kernel := by
      intro positions
      induction positions with
      | nil => exact fun _ => .refl
      | cons position positions inductionHypothesis =>
          intro loop
          exact (eventFlagsSetStep_writes index _ loop position).trans (inductionHypothesis _)
    have set := Writes.setEventFlags kernel index
      { kernel.eventFlags index with bits := (kernel.eventFlags index).bits ||| bits }
    have broadcast := set.trans (scanned (List.range kernel.taskCount) ⟨_, 0, false⟩)
    have cleared := fun flags => broadcast.trans (Writes.setEventFlags _ index flags)
    split
    · exact (cleared _).tail (.requests _)
    · exact cleared _

theorem eventFlagsClear_writes (bits : Word) :
    kernel.Writes (eventFlagsClear cpu kernel index bits).1 := by
  unfold eventFlagsClear
  split
  · exact .refl
  · exact .setEventFlags kernel index _

/-- The section of a wait clears the bits it takes, or stores its request and blocks. -/
theorem eventFlagsWaitSection_writes (request : FlagsRequest) (timeout : WaitTimeout) :
    kernel.Writes (eventFlagsWaitSection cpu kernel index request timeout).1 := by
  unfold eventFlagsWaitSection
  split
  · exact .refl
  · rename_i current _
    dsimp only
    split
    · exact .refl
    · split
      · split
        · exact .setEventFlags kernel index _
        · exact .refl
      · split
        · exact .refl
        · rename_i ticks _
          have blocked := (Writes.flags kernel current request.mask 0 request.waitAll
            request.clearOnExit).trans
              (Writes.blocks _ .eventFlags (some (.eventFlags index)) ticks)
          split
          · exact blocked
          · exact blocked.tail (.flags _ current 0 _ false false)

end Sections

/-! ## Calls -/

@[simp] theorem StepResult.ofProgress_kernel
    (memory : Memory) (waiting : Point) (ended : Kernel × Progress Bool) :
    (StepResult.ofProgress memory waiting ended).kernel = ended.1 := by
  obtain ⟨after, progress⟩ := ended
  cases progress <;> rfl

@[simp] theorem StepResult.arm_kernel
    (cpu : Cpu) (kernel : Kernel) (memory : Memory) (ticks : Word) (failure : Reply) :
    (StepResult.arm cpu kernel memory ticks failure).kernel = kernel := by
  unfold StepResult.arm
  split
  · split <;> rfl
  · rfl

/-- Calls that consist of critical sections only. -/
def Call.isPlain : Call → Bool
  | .taskCreate _ _ | .taskYield | .schedulerStart => false
  | _ => true

section Calls

variable {cfg : Config} {cpu : Cpu} {kernel : Kernel} {memory : Memory} {self : Nat}
  {point : Point} {result : StepResult}

/-- A call of one section writes what its section writes. -/
theorem atomicStep_writes
    {after : Kernel × Bool} (updates : kernel.Writes after.1)
    (stepped : atomicStep memory after point = some result) :
    kernel.Writes result.kernel := by
  cases point with
  | entry =>
      obtain rfl := Option.some.inj stepped
      exact updates
  | _ => cases stepped

/-- A null argument writes nothing. -/
theorem elim_writes
    {object : Option Nat} {operation : Nat → Kernel × Bool}
    (updates : ∀ index, kernel.Writes (operation index).1) :
    kernel.Writes (object.elim (kernel, false) operation).1 := by
  cases object with
  | none => exact .refl
  | some index => exact updates index

/-- The queue loops. -/
theorem queueEntryStep_kernel (queue : Option Nat) (item ticks : Word) :
    (queueEntryStep cpu kernel memory queue item ticks).kernel = kernel := by
  unfold queueEntryStep
  split
  · rfl
  · exact StepResult.arm_kernel ..

/-- A queue operation that resumes only reads its wait result. -/
theorem queueResumeStep_kernel (timeout : WaitTimeout) :
    (queueResumeStep kernel memory self timeout).kernel = kernel := by
  unfold queueResumeStep
  split <;> rfl

/-- Every step of a sleep is made of writes. -/
theorem taskSleepStep_writes {delayTicks : Word}
    (stepped : taskSleepStep cpu kernel memory self delayTicks point = some result) :
    kernel.Writes result.kernel := by
  cases point with
  | entry =>
      obtain rfl := Option.some.inj stepped
      rw [StepResult.ofProgress_kernel]
      exact taskSleepSection_writes cpu kernel delayTicks
  | asleep =>
      obtain rfl := Option.some.inj stepped
      exact .refl
  | _ => cases stepped

/-- Every step of a lock is made of writes. -/
theorem mutexLockStep_writes {mutex : Option Nat} {timeoutTicks : Word}
    (stepped : mutexLockStep cpu kernel memory self mutex timeoutTicks point = some result) :
    kernel.Writes result.kernel := by
  cases point with
  | entry =>
      simp only [mutexLockStep] at stepped
      split at stepped
      · obtain rfl := Option.some.inj stepped
        exact .refl
      · obtain rfl := Option.some.inj stepped
        rw [StepResult.arm_kernel]
  | armed timeout =>
      obtain ⟨index, _, rfl⟩ := Option.map_eq_some_iff.mp stepped
      rw [StepResult.ofProgress_kernel]
      exact mutexLockSection_writes cpu kernel index timeout
  | suspended timeout =>
      simp only [mutexLockStep] at stepped
      split at stepped
      · obtain rfl := Option.some.inj stepped
        exact .refl
      · obtain rfl := Option.some.inj stepped
        exact .refl
  | signaled timeout =>
      obtain ⟨index, _, rfl⟩ := Option.map_eq_some_iff.mp stepped
      exact .refl
  | _ => cases stepped

/-- Every step of a take is made of writes. -/
theorem semaphoreTakeStep_writes {semaphore : Option SemaphoreRef} {timeoutTicks : Word}
    (stepped : semaphoreTakeStep cpu kernel memory self semaphore timeoutTicks point =
      some result) :
    kernel.Writes result.kernel := by
  cases point with
  | entry =>
      simp only [semaphoreTakeStep] at stepped
      split at stepped
      · obtain rfl := Option.some.inj stepped
        exact .refl
      · split at stepped
        · obtain rfl := Option.some.inj stepped
          exact .refl
        · obtain rfl := Option.some.inj stepped
          exact .refl
  | guarded maxCount =>
      obtain rfl := Option.some.inj stepped
      rw [StepResult.arm_kernel]
  | armed timeout =>
      obtain ⟨ref, _, rfl⟩ := Option.map_eq_some_iff.mp stepped
      rw [StepResult.ofProgress_kernel]
      exact semaphoreTakeSection_writes cpu kernel ref timeout
  | suspended timeout =>
      obtain rfl := Option.some.inj stepped
      exact .refl
  | _ => cases stepped

theorem semaphoreGiveStep_writes {semaphore : Option SemaphoreRef}
    (stepped : semaphoreGiveStep cpu kernel memory semaphore point = some result) :
    kernel.Writes result.kernel := by
  cases point with
  | entry =>
      simp only [semaphoreGiveStep] at stepped
      split at stepped
      · obtain rfl := Option.some.inj stepped
        exact .refl
      · split at stepped
        · obtain rfl := Option.some.inj stepped
          exact .refl
        · obtain rfl := Option.some.inj stepped
          exact .refl
  | guarded maxCount =>
      obtain ⟨ref, _, rfl⟩ := Option.map_eq_some_iff.mp stepped
      exact semaphoreGiveSection_writes cpu kernel ref maxCount
  | _ => cases stepped

/-- Every step of a send is made of writes. -/
theorem queueSendStep_writes {queue : Option Nat} {item timeoutTicks : Word}
    (stepped : queueSendStep cpu kernel memory self queue item timeoutTicks point =
      some result) :
    kernel.Writes result.kernel := by
  cases point with
  | entry =>
      obtain rfl := Option.some.inj stepped
      rw [queueEntryStep_kernel]
  | armed timeout | signaled timeout =>
      obtain ⟨index, _, rfl⟩ := Option.map_eq_some_iff.mp stepped
      rw [StepResult.ofProgress_kernel]
      exact queueSendSection_writes cpu kernel memory index item timeout
  | suspended timeout =>
      obtain rfl := Option.some.inj stepped
      rw [queueResumeStep_kernel]
  | _ => cases stepped

/-- Every step of a receive is made of writes. -/
theorem queueReceiveStep_writes {queue : Option Nat} {item timeoutTicks : Word}
    (stepped : queueReceiveStep cpu kernel memory self queue item timeoutTicks point =
      some result) :
    kernel.Writes result.kernel := by
  cases point with
  | entry =>
      obtain rfl := Option.some.inj stepped
      rw [queueEntryStep_kernel]
  | armed timeout | signaled timeout =>
      obtain ⟨index, _, rfl⟩ := Option.map_eq_some_iff.mp stepped
      rw [StepResult.ofProgress_kernel]
      exact queueReceiveSection_writes cpu kernel memory index item timeout
  | suspended timeout =>
      obtain rfl := Option.some.inj stepped
      rw [queueResumeStep_kernel]
  | _ => cases stepped

/-- Every step of an event-flag wait is made of writes. -/
theorem eventFlagsWaitStep_writes
    {flags : Option Nat} {request : FlagsRequest} {timeoutTicks : Word} {matchedBits : Bool}
    (stepped : eventFlagsWaitStep cpu kernel memory self flags request timeoutTicks matchedBits
      point = some result) :
    kernel.Writes result.kernel := by
  cases point with
  | entry =>
      simp only [eventFlagsWaitStep] at stepped
      split at stepped
      · obtain rfl := Option.some.inj stepped
        exact .refl
      · obtain rfl := Option.some.inj stepped
        rw [StepResult.arm_kernel]
  | armed timeout =>
      obtain ⟨index, _, rfl⟩ := Option.map_eq_some_iff.mp stepped
      have updates := eventFlagsWaitSection_writes cpu kernel index request timeout
      generalize eventFlagsWaitSection cpu kernel index request timeout = ended at updates
      obtain ⟨after, progress⟩ := ended
      cases progress <;> exact updates
  | suspended timeout =>
      simp only [eventFlagsWaitStep] at stepped
      split at stepped
      · obtain rfl := Option.some.inj stepped
        exact .refl
      · obtain rfl := Option.some.inj stepped
        exact .refl
  | signaled timeout =>
      obtain rfl := Option.some.inj stepped
      exact .refl
  | _ => cases stepped

/-- A read at the entry of a call. -/
theorem read_writes
    {reply : Reply}
    (stepped : (match point with
      | .entry => some (StepResult.reply kernel memory reply)
      | _ => none) = some result) :
    kernel.Writes result.kernel := by
  cases point with
  | entry =>
      obtain rfl := Option.some.inj stepped
      exact .refl
  | _ => cases stepped

/-- The operation that a call of the trace interface performs. -/
def Call.traceOperation : Call → Option TraceOperation
  | .traceInit => some .init
  | .traceEnable enabled => some (.enable enabled)
  | .traceClear => some .clear
  | _ => none

/-- Every step of another plain call is a sequence of writes. -/
theorem Call.step_writes {call : Call} (plain : call.isPlain = true)
    (untraced : call.traceOperation = none)
    (stepped : call.step cfg cpu kernel memory self point = some result) :
    kernel.Writes result.kernel := by
  cases call with
  | taskCreate => cases plain
  | taskYield => cases plain
  | schedulerStart => cases plain
  | taskSleep => exact taskSleepStep_writes stepped
  | mutexInit =>
      refine atomicStep_writes (elim_writes fun index => ?_) stepped
      unfold ForgeKernel.mutexInit
      split
      · exact .refl
      · exact .setMutex kernel index _
  | mutexLock => exact mutexLockStep_writes stepped
  | mutexUnlock =>
      exact atomicStep_writes (elim_writes fun index => mutexUnlock_writes cpu kernel index)
        stepped
  | binarySemaphoreInit =>
      refine atomicStep_writes (elim_writes fun index => ?_) stepped
      unfold ForgeKernel.binarySemaphoreInit
      split
      · exact .refl
      · exact .single (.stores _ _ _ _ _ _)
  | countingSemaphoreInit =>
      refine atomicStep_writes (elim_writes fun index => ?_) stepped
      unfold ForgeKernel.countingSemaphoreInit
      split
      · exact .refl
      · exact .single (.stores _ _ _ _ _ _)
  | semaphoreTake => exact semaphoreTakeStep_writes stepped
  | semaphoreGive => exact semaphoreGiveStep_writes stepped
  | queueInit =>
      refine atomicStep_writes (elim_writes fun index => ?_) stepped
      unfold ForgeKernel.queueInit
      split
      · exact .refl
      · exact .setQueue kernel index _
  | queueSendWait => exact queueSendStep_writes stepped
  | queueReceiveWait => exact queueReceiveStep_writes stepped
  | eventFlagsInit =>
      refine atomicStep_writes (elim_writes fun index => ?_) stepped
      unfold ForgeKernel.eventFlagsInit
      split
      · exact .refl
      · exact .setEventFlags kernel index _
  | eventFlagsSet =>
      exact atomicStep_writes
        (elim_writes fun index => eventFlagsSet_writes cpu kernel index _) stepped
  | eventFlagsClear =>
      exact atomicStep_writes
        (elim_writes fun index => eventFlagsClear_writes cpu kernel index _) stepped
  | eventFlagsGet => exact read_writes stepped
  | eventFlagsWait => exact eventFlagsWaitStep_writes stepped
  | kernelCheckInvariants => exact read_writes stepped
  | traceInit => cases untraced
  | traceEnable => cases untraced
  | traceClear => cases untraced

/-- A call of the trace interface changes nothing but the trace. -/
theorem Call.step_retraces {call : Call} {operation : TraceOperation}
    (performs : call.traceOperation = some operation)
    (stepped : call.step cfg cpu kernel memory self point = some result) :
    result.kernel = { kernel with trace := operation.apply kernel.trace } := by
  have entry : ∀ after : Kernel × Bool, atomicStep memory after point = some result →
      result.kernel = after.1 := by
    intro after performed
    cases point with
    | entry =>
        obtain rfl := Option.some.inj performed
        rfl
    | _ => cases performed
  cases call with
  | traceInit | traceEnable | traceClear =>
      obtain rfl := Option.some.inj performs
      exact entry _ stepped
  | _ => cases performs

/-- Every step of a plain call is a sequence of primitive updates. -/
theorem Call.step_updates {call : Call} (plain : call.isPlain = true)
    (stepped : call.step cfg cpu kernel memory self point = some result) :
    kernel.Updates result.kernel := by
  cases performs : call.traceOperation with
  | none => exact (Call.step_writes plain performs stepped).updates
  | some operation =>
      rw [Call.step_retraces performs stepped]
      refine .single (.traces _ ?_)
      cases call with
      | traceInit | traceEnable | traceClear =>
          obtain rfl := Option.some.inj performs
          rfl
      | _ => cases performs

end Calls

/-! ## The tick -/

/-- One turn of the timeout scan ends one wait at most. -/
theorem schedulerExpireStep_writes (now : Word) (kernel : Kernel) (position : Nat) :
    kernel.Writes (schedulerExpireStep now kernel position) := by
  unfold schedulerExpireStep
  dsimp only
  split
  · exact .refl
  · split
    · exact .refl
    · have woken := Writes.unblocks kernel position .timeout
      split
      · split
        · exact (woken.trans (Writes.waiterRemoved _ _)).tail (.counts _ _)
        · exact woken.tail (.counts _ _)
      · exact woken

/-- Once the tick counter has moved, the rest of the handler is a sequence of writes. -/
theorem sysTickHandler_writes (kernel : Kernel) :
    kernel.ticked.Writes (sysTickHandler kernel) := by
  have scanned : ∀ (positions : List Nat) (start : Kernel),
      start.Writes (positions.foldl (schedulerExpireStep kernel.ticked.tickCount) start) := by
    intro positions
    induction positions with
    | nil => exact fun _ => .refl
    | cons position positions inductionHypothesis =>
        intro start
        exact (schedulerExpireStep_writes _ start position).trans (inductionHypothesis _)
  change kernel.ticked.Writes (schedulerTickIsr kernel.ticked)
  unfold schedulerTickIsr
  split
  · exact .refl
  · exact (scanned _ _).tail (.requests _)

/-- After the counter the tick is made of updates only. -/
theorem sysTickHandler_updates (kernel : Kernel) :
    kernel.ticked.Updates (sysTickHandler kernel) :=
  (sysTickHandler_writes kernel).updates

/-! ## What primitive updates preserve -/

/-- An unblock either wakes a blocked task or changes nothing. -/
theorem schedulerUnblockTaskLocked_cases (kernel : Kernel) (index : Nat) (result : WaitResult) :
    schedulerUnblockTaskLocked kernel index result = (kernel, false) ∨
      ((kernel.tasks index).state = .blocked ∧ ∃ trace,
        schedulerUnblockTaskLocked kernel index result =
          (kernel.wakeTask index result trace, true)) := by
  by_cases refused : (kernel.tasks index).state ≠ .blocked ∨
      (kernel.tasks index).waitReason = .none ∨ (result ≠ .timeout ∧ result ≠ .signaled)
  · left
    unfold schedulerUnblockTaskLocked
    rw [if_pos refused]
  · right
    simp only [not_or, not_not, not_and_or] at refused
    obtain ⟨blocked, named, final⟩ := refused
    refine ⟨blocked, schedulerUnblockTaskLocked_eq kernel index result blocked named ?_⟩
    rintro rfl
    rcases final with absurdity | absurdity <;> cases absurdity

/-- What a task keeps across primitive updates. -/
structure Task.SameStack (before after : Task) : Prop where
  savedSp : after.savedSp = before.savedSp
  stackBase : after.stackBase = before.stackBase
  stackTop : after.stackTop = before.stackTop
  entry : after.entry = before.entry
  argument : after.argument = before.argument
  stackSizeWords : after.stackSizeWords = before.stackSizeWords
  id : after.id = before.id
  basePriority : after.basePriority = before.basePriority

theorem Task.SameStack.refl (task : Task) : task.SameStack task :=
  ⟨rfl, rfl, rfl, rfl, rfl, rfl, rfl, rfl⟩

theorem Task.SameStack.trans
    {first second third : Task} (left : first.SameStack second) (right : second.SameStack third) :
    first.SameStack third :=
  ⟨right.savedSp.trans left.savedSp, right.stackBase.trans left.stackBase,
    right.stackTop.trans left.stackTop, right.entry.trans left.entry,
    right.argument.trans left.argument, right.stackSizeWords.trans left.stackSizeWords,
    right.id.trans left.id, right.basePriority.trans left.basePriority⟩

namespace Kernel

/-- The registry keeps its slots and their stacks; states move among those the scheduler
knows about. -/
structure SameSlots (before after : Kernel) : Prop where
  taskCount : after.taskCount = before.taskCount
  kept : ∀ index, (before.tasks index).SameStack (after.tasks index)
  states : ∀ index, StateMove (before.tasks index).state (after.tasks index).state

/-- A step that leaves the registry alone keeps its slots. -/
theorem SameSlots.of_tasks
    {before after : Kernel} (taskCount : after.taskCount = before.taskCount)
    (tasks : after.tasks = before.tasks) : before.SameSlots after :=
  ⟨taskCount, fun index => tasks ▸ .refl _, fun index => Or.inl (by rw [tasks])⟩

/-- Slots that two steps keep are kept by both together. -/
theorem SameSlots.trans
    {first second third : Kernel} (left : first.SameSlots second)
    (right : second.SameSlots third) : first.SameSlots third where
  taskCount := right.taskCount.trans left.taskCount
  kept index := (left.kept index).trans (right.kept index)
  states index := (left.states index).trans (right.states index)

/-- Writing one control block outside its stack fields. -/
theorem SameSlots.setTask
    (kernel : Kernel) {index : Nat} {task : Task}
    (same : (kernel.tasks index).SameStack task)
    (state : StateMove (kernel.tasks index).state task.state) :
    kernel.SameSlots (kernel.setTask index task) where
  taskCount := rfl
  kept other := by
    by_cases own : other = index
    · rw [own, setTask_tasks_self]
      exact same
    · rw [setTask_tasks_of_ne kernel task own]
      exact .refl _
  states other := by
    by_cases own : other = index
    · rw [own, setTask_tasks_self]
      exact state
    · rw [setTask_tasks_of_ne kernel task own]
      exact Or.inl rfl

/-- What the kernel keeps across primitive updates. -/
structure Framed (before after : Kernel) : Prop extends SameSlots before after where
  idleTask : after.idleTask = before.idleTask
  halted : after.halted = before.halted
  running : after.running = before.running
  currentTask : after.currentTask = before.currentTask
  pendSv : after.pendSv = true → before.pendSv = true ∨ before.running = true

/-- A step that leaves the registry and the control data alone keeps the frame. -/
theorem Framed.of_tasks
    {before after : Kernel}
    (idleTask : after.idleTask = before.idleTask) (halted : after.halted = before.halted)
    (running : after.running = before.running)
    (currentTask : after.currentTask = before.currentTask)
    (taskCount : after.taskCount = before.taskCount) (pendSv : after.pendSv = before.pendSv)
    (tasks : after.tasks = before.tasks) : before.Framed after :=
  ⟨.of_tasks taskCount tasks, idleTask, halted, running, currentTask,
    fun pending => Or.inl (pendSv ▸ pending)⟩

theorem Framed.refl (kernel : Kernel) : kernel.Framed kernel :=
  .of_tasks rfl rfl rfl rfl rfl rfl rfl

/-- What each of two steps keeps is kept by both together. -/
theorem Framed.trans
    {first second third : Kernel} (left : first.Framed second) (right : second.Framed third) :
    first.Framed third where
  toSameSlots := left.toSameSlots.trans right.toSameSlots
  idleTask := right.idleTask.trans left.idleTask
  halted := right.halted.trans left.halted
  running := right.running.trans left.running
  currentTask := right.currentTask.trans left.currentTask
  pendSv pending := by
    rcases right.pendSv pending with earlier | running
    · exact left.pendSv earlier
    · exact Or.inr (left.running ▸ running)

/-- Every primitive update keeps the slots, the current task and the idle task. -/
theorem Update.framed {before after : Kernel} (update : before.Update after) :
    before.Framed after := by
  cases update with
  | blocks reason object ticks =>
      rcases schedulerBlockCurrentLocked_cases before reason object ticks with
        refused | ⟨current, trace, _, running, state, _, same⟩
      · rw [refused]
        exact .refl before
      · rw [same]
        have written : before.SameSlots (before.setTask current
            ((before.tasks current).beginWait reason object ticks before.tickCount)) :=
          .setTask before ⟨rfl, rfl, rfl, rfl, rfl, rfl, rfl, rfl⟩
            (Or.inr ⟨Or.inr (Or.inl state), Or.inr (Or.inr rfl)⟩)
        exact ⟨⟨rfl, written.kept, written.states⟩, rfl, rfl, rfl, rfl, fun _ => Or.inr running⟩
  | unblocks index result =>
      rcases schedulerUnblockTaskLocked_cases before index result with
        refused | ⟨blocked, trace, same⟩
      · rw [refused]
        exact .refl before
      · rw [same]
        have written : before.SameSlots (before.setTask index
            ((before.tasks index).endWait result (before.wakeState index))) := by
          refine .setTask before ⟨rfl, rfl, rfl, rfl, rfl, rfl, rfl, rfl⟩
            (Or.inr ⟨Or.inr (Or.inr blocked), ?_⟩)
          rcases before.wakeState_eq index with woken | woken
          · exact Or.inr (Or.inl woken)
          · exact Or.inl woken
        exact ⟨⟨rfl, written.kept, written.states⟩, rfl, rfl, rfl, rfl, Or.inl⟩
  | requests =>
      rw [schedulerRequestIfNeededLocked_eq]
      refine ⟨.of_tasks rfl rfl, rfl, rfl, rfl, rfl, fun pending => ?_⟩
      rcases (Bool.or_eq_true _ _).mp pending with earlier | due
      · exact Or.inl earlier
      · exact Or.inr ((Bool.and_eq_true _ _).mp due).1
  | reprices =>
      exact ⟨⟨rfl, fun _ => ⟨rfl, rfl, rfl, rfl, rfl, rfl, rfl, rfl⟩, fun _ => Or.inl rfl⟩,
        rfl, rfl, rfl, rfl, Or.inl⟩
  | flags =>
      exact ⟨.setTask before ⟨rfl, rfl, rfl, rfl, rfl, rfl, rfl, rfl⟩ (Or.inl rfl), rfl, rfl,
        rfl, rfl, Or.inl⟩
  | counts => exact .of_tasks rfl rfl rfl rfl rfl rfl rfl
  | stores => exact .of_tasks rfl rfl rfl rfl rfl rfl rfl
  | traces => exact .of_tasks rfl rfl rfl rfl rfl rfl rfl

/-- So does every sequence of them. -/
theorem Updates.framed {before after : Kernel} (updates : before.Updates after) :
    before.Framed after := by
  induction updates with
  | refl => exact .refl before
  | tail _ update inductionHypothesis => exact inductionHypothesis.trans update.framed

end Kernel

end ForgeKernel
