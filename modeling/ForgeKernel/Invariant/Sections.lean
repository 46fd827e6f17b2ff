import ForgeKernel.Invariant.Chains
import ForgeKernel.Model.Semaphore
import ForgeKernel.Model.Queue
import ForgeKernel.Model.EventFlags

/-!
# Outcomes of the critical sections

Every critical section of a kernel call ends in one of a few ways.  An inductive
proposition lists them for each section, with the kernel they leave behind in
terms of `wakeTask`, `blockTask` and `withPriorities`.
-/

namespace ForgeKernel

open Inheritance Scans

/-! ## Waiter selection -/

theorem Task.waitsOn_iff {reason : WaitReason} {object : ObjectRef} {task : Task} :
    Task.waitsOn reason object task = true ↔
      task.state = .blocked ∧ task.waitReason = reason ∧ task.waitResult = .pending ∧
        task.waitObject = some object := by
  simp [Task.waitsOn, and_assoc]

/-- The selected waiter waits on the object and no other such waiter has a higher
effective priority. -/
theorem schedulerSelectWaiterLocked_some
    {kernel : Kernel} {reason : WaitReason} {object : ObjectRef} {waiter : Nat}
    (selected : schedulerSelectWaiterLocked kernel reason object = some waiter) :
    waiter < kernel.taskCount ∧
      Task.waitsOn reason object (kernel.tasks waiter) = true ∧
      ∀ other < kernel.taskCount, Task.waitsOn reason object (kernel.tasks other) = true →
        kernel.priorityOf other ≤ kernel.priorityOf waiter := by
  have best := kernel.selectBest_isBest (Task.waitsOn reason object)
  rw [show kernel.selectBest (Task.waitsOn reason object) = some waiter from selected] at best
  exact ⟨best.1.2, best.1.1, fun other other_lt waits => best.2 other ⟨waits, other_lt⟩⟩

/-- No selection means no waiter. -/
theorem schedulerSelectWaiterLocked_none
    {kernel : Kernel} {reason : WaitReason} {object : ObjectRef}
    (selected : schedulerSelectWaiterLocked kernel reason object = none) :
    ∀ index < kernel.taskCount, Task.waitsOn reason object (kernel.tasks index) = false := by
  have best := kernel.selectBest_isBest (Task.waitsOn reason object)
  rw [show kernel.selectBest (Task.waitsOn reason object) = none from selected] at best
  intro index index_lt
  rw [Bool.eq_false_iff]
  intro waits
  have present : index ∈ kernel.eligibleTasks (Task.waitsOn reason object) :=
    ⟨waits, index_lt⟩
  rw [show kernel.eligibleTasks (Task.waitsOn reason object) = ∅ from best] at present
  exact Set.notMem_empty index present

/-- Completing the wait of a selected waiter succeeds. -/
theorem schedulerUnblockTaskLocked_waiter
    (kernel : Kernel) {reason : WaitReason} {object : ObjectRef} {waiter : Nat}
    (waits : Task.waitsOn reason object (kernel.tasks waiter) = true)
    (named : reason ≠ .none) :
    ∃ trace, schedulerUnblockTaskLocked kernel waiter .signaled =
      (kernel.wakeTask waiter .signaled trace, true) := by
  obtain ⟨blocked, same, _, _⟩ := Task.waitsOn_iff.mp waits
  exact schedulerUnblockTaskLocked_eq kernel waiter .signaled blocked (same ▸ named) (by decide)

/-- The current task of a section is a user task. -/
theorem schedulerCurrentTask_eq_some {kernel : Kernel} {current : Nat} :
    schedulerCurrentTask kernel = some current ↔
      kernel.currentTask = some (.user current) := by
  unfold schedulerCurrentTask
  split <;> simp_all

namespace Kernel

/-- Recompute the chain of a task. -/
def recomputed (kernel : Kernel) (task : Nat) : Kernel :=
  kernel.withPriorities (recompute (mutexUpstreamOwner kernel)
    kernel.effectivePriority kernel.taskCount task kernel.priorityOf)

/-- Donate a priority along the chain of an owner. -/
def donated (kernel : Kernel) (owner gift : Nat) : Kernel :=
  kernel.withPriorities (donate (mutexUpstreamOwner kernel) kernel.taskCount
    owner gift kernel.priorityOf)

/-- The running current task is `current`. -/
structure Runs (kernel : Kernel) (current : Nat) : Prop where
  currentTask : kernel.currentTask = some (.user current)
  running : kernel.running = true
  state : (kernel.tasks current).state = .running

end Kernel

/-! ## Mutexes -/

/-- Outcomes of the critical section of `fr_mutex_lock`. -/
inductive LockOutcome (kernel : Kernel) (index : Nat) (timeout : WaitTimeout) :
    Kernel × Progress Bool → Prop
  | refused : LockOutcome kernel index timeout (kernel, .returned false)
  | acquired {current : Nat}
      (active : kernel.currentTask = some (.user current))
      (running : kernel.running = true)
      (initialized : (kernel.mutexes index).magic = mutexMagic)
      (free : (kernel.mutexes index).owner = none) :
      LockOutcome kernel index timeout
        (kernel.setMutex index { kernel.mutexes index with owner := some current },
          .returned true)
  | waits {current owner : Nat} {ticks : Word} {trace : Trace}
      (runs : kernel.Runs current)
      (initialized : (kernel.mutexes index).magic = mutexMagic)
      (held : (kernel.mutexes index).owner = some owner)
      (different : owner ≠ current)
      (remaining : waitTimeoutRemaining kernel.tickCount timeout = some ticks)
      (accepted : blockAccepted .mutex (some (.mutex index)) ticks) :
      LockOutcome kernel index timeout
        ((kernel.blockTask current .mutex (some (.mutex index)) ticks trace).donated
          owner (kernel.priorityOf current), .waiting)

/-- `fr_mutex_lock` in its section, case by case. -/
theorem mutexLockSection_outcome
    (cpu : Cpu) (kernel : Kernel) (index : Nat) (timeout : WaitTimeout) :
    LockOutcome kernel index timeout (mutexLockSection cpu kernel index timeout) := by
  unfold mutexLockSection
  split
  · exact .refused
  · rename_i current present
    rw [schedulerCurrentTask_eq_some] at present
    dsimp only
    split
    · exact .refused
    · rename_i entered
      simp only [not_or, not_not, Bool.not_eq_false] at entered
      split
      · rename_i free
        exact .acquired present entered.2.2 entered.2.1 free
      · rename_i owner held
        split
        · exact .refused
        · rename_i different
          split
          · exact .refused
          · rename_i ticks remaining
            rcases schedulerBlockCurrentLocked_cases kernel .mutex (some (.mutex index)) ticks
              with blocked | ⟨task, trace, active, running, state, accepted, blocked⟩
            · rw [blocked]
              exact .refused
            · have same : task = current := by simpa [active] using present
              subst same
              rw [blocked]
              simp only [if_true, mutexInheritPriorityChainLocked_eq]
              have priority : ((kernel.blockTask task .mutex (some (.mutex index)) ticks
                  trace).tasks task).priority = kernel.priorityOf task := by
                simp [Kernel.blockTask, Task.beginWait, Kernel.priorityOf]
              rw [priority]
              exact .waits ⟨active, running, state⟩ entered.2.1 held different remaining
                accepted

/-- Outcomes of `fr_mutex_unlock`. -/
inductive UnlockOutcome (kernel : Kernel) (index : Nat) : Kernel × Bool → Prop
  | refused : UnlockOutcome kernel index (kernel, false)
  | released {current : Nat}
      (active : kernel.currentTask = some (.user current))
      (running : kernel.running = true)
      (initialized : (kernel.mutexes index).magic = mutexMagic)
      (held : (kernel.mutexes index).owner = some current)
      (unwanted : ∀ waiter < kernel.taskCount,
        Task.waitsOn .mutex (.mutex index) (kernel.tasks waiter) = false) :
      UnlockOutcome kernel index
        ((kernel.setMutex index { kernel.mutexes index with owner := none }).recomputed
          current, true)
  | handed {current waiter : Nat} {trace : Trace}
      (active : kernel.currentTask = some (.user current))
      (running : kernel.running = true)
      (initialized : (kernel.mutexes index).magic = mutexMagic)
      (held : (kernel.mutexes index).owner = some current)
      (waiter_lt : waiter < kernel.taskCount)
      (waits : Task.waitsOn .mutex (.mutex index) (kernel.tasks waiter) = true)
      (highest : ∀ other < kernel.taskCount,
        Task.waitsOn .mutex (.mutex index) (kernel.tasks other) = true →
          kernel.priorityOf other ≤ kernel.priorityOf waiter) :
      UnlockOutcome kernel index
        ((((kernel.setMutex index { kernel.mutexes index with owner := some waiter }).wakeTask
          waiter .signaled trace).recomputed current).requested, true)

/-- `fr_mutex_unlock`, case by case. -/
theorem mutexUnlock_outcome (cpu : Cpu) (kernel : Kernel) (index : Nat) :
    UnlockOutcome kernel index (mutexUnlock cpu kernel index) := by
  unfold mutexUnlock
  split
  · exact .refused
  · split
    · exact .refused
    · rename_i current present
      rw [schedulerCurrentTask_eq_some] at present
      dsimp only
      split
      · exact .refused
      · rename_i entered
        simp only [not_or, not_not, Bool.not_eq_false] at entered
        obtain ⟨_, initialized, running, held⟩ := entered
        split
        · rename_i selected
          rw [mutexRecomputePriorityChainLocked_eq]
          exact .released present running initialized held
            (schedulerSelectWaiterLocked_none selected)
        · rename_i waiter selected
          obtain ⟨waiter_lt, waits, highest⟩ := schedulerSelectWaiterLocked_some selected
          obtain ⟨trace, woken⟩ := schedulerUnblockTaskLocked_waiter
            (kernel.setMutex index { kernel.mutexes index with owner := some waiter })
            waits (by decide)
          simp only [woken, if_true, mutexRecomputePriorityChainLocked_eq,
            schedulerRequestIfNeededLocked_eq]
          exact .handed present running initialized held waiter_lt waits highest

/-! ## Semaphores -/

/-- Outcomes of the critical section of `fr_semaphore_take_common`. -/
inductive TakeOutcome (kernel : Kernel) (semaphore : SemaphoreRef) (timeout : WaitTimeout) :
    Kernel × Progress Bool → Prop
  | refused : TakeOutcome kernel semaphore timeout (kernel, .returned false)
  | taken
      (running : kernel.running = true)
      (available : kernel.semaphoreCount semaphore ≠ 0) :
      TakeOutcome kernel semaphore timeout
        (kernel.setSemaphoreCount semaphore (kernel.semaphoreCount semaphore - 1),
          .returned true)
  | waits {current : Nat} {ticks : Word} {trace : Trace}
      (runs : kernel.Runs current)
      (empty : kernel.semaphoreCount semaphore = 0)
      (remaining : waitTimeoutRemaining kernel.tickCount timeout = some ticks)
      (accepted : blockAccepted .sync (some (.semaphore semaphore)) ticks) :
      TakeOutcome kernel semaphore timeout
        (kernel.blockTask current .sync (some (.semaphore semaphore)) ticks trace, .waiting)

/-- A take in its section, case by case. -/
theorem semaphoreTakeSection_outcome
    (cpu : Cpu) (kernel : Kernel) (semaphore : SemaphoreRef) (timeout : WaitTimeout) :
    TakeOutcome kernel semaphore timeout
      (semaphoreTakeSection cpu kernel semaphore timeout) := by
  unfold semaphoreTakeSection
  split
  · exact .refused
  · rename_i entered
    simp only [not_or, not_not, Bool.not_eq_false] at entered
    split
    · rename_i available
      exact .taken entered.2.1 available
    · rename_i empty
      split
      · exact .refused
      · rename_i ticks remaining
        rcases schedulerBlockCurrentLocked_cases kernel .sync
            (some (.semaphore semaphore)) ticks
          with blocked | ⟨task, trace, active, running, state, accepted, blocked⟩
        · rw [blocked]
          exact .refused
        · rw [blocked]
          exact .waits ⟨active, running, state⟩ (not_not.mp empty) remaining accepted

/-- Outcomes of `fr_semaphore_give_common`. -/
inductive GiveOutcome
    (cpu : Cpu) (kernel : Kernel) (semaphore : SemaphoreRef) (maxCount : Word) :
    Kernel × Bool → Prop
  | denied
      (context : maxCount = 0 ∨ cpu.threadContextAllowed = false ∨
        kernel.running = false ∨ schedulerCurrentTask kernel = none) :
      GiveOutcome cpu kernel semaphore maxCount (kernel, false)
  | conflict {waiter : Nat}
      (waiter_lt : waiter < kernel.taskCount)
      (waits : Task.waitsOn .sync (.semaphore semaphore) (kernel.tasks waiter) = true)
      (available : kernel.semaphoreCount semaphore ≠ 0) :
      GiveOutcome cpu kernel semaphore maxCount (kernel, false)
  | full
      (unwanted : ∀ waiter < kernel.taskCount,
        Task.waitsOn .sync (.semaphore semaphore) (kernel.tasks waiter) = false)
      (saturated : maxCount ≤ kernel.semaphoreCount semaphore) :
      GiveOutcome cpu kernel semaphore maxCount (kernel, false)
  | woken {waiter : Nat} {trace : Trace}
      (running : kernel.running = true)
      (waiter_lt : waiter < kernel.taskCount)
      (waits : Task.waitsOn .sync (.semaphore semaphore) (kernel.tasks waiter) = true)
      (highest : ∀ other < kernel.taskCount,
        Task.waitsOn .sync (.semaphore semaphore) (kernel.tasks other) = true →
          kernel.priorityOf other ≤ kernel.priorityOf waiter)
      (empty : kernel.semaphoreCount semaphore = 0) :
      GiveOutcome cpu kernel semaphore maxCount
        ((kernel.wakeTask waiter .signaled trace).requested, true)
  | stored
      (running : kernel.running = true)
      (unwanted : ∀ waiter < kernel.taskCount,
        Task.waitsOn .sync (.semaphore semaphore) (kernel.tasks waiter) = false)
      (room : kernel.semaphoreCount semaphore < maxCount) :
      GiveOutcome cpu kernel semaphore maxCount
        (kernel.setSemaphoreCount semaphore (kernel.semaphoreCount semaphore + 1), true)

theorem Cpu.basepri_of_threadContextAllowed
    {cpu : Cpu} (allowed : cpu.threadContextAllowed = true) : cpu.basepri = 0 := by
  simp only [Cpu.threadContextAllowed, Bool.and_eq_true, decide_eq_true_eq] at allowed
  exact allowed.2

/-- A give, case by case. -/
theorem semaphoreGiveSection_outcome
    (cpu : Cpu) (kernel : Kernel) (semaphore : SemaphoreRef) (maxCount : Word) :
    GiveOutcome cpu kernel semaphore maxCount
      (semaphoreGiveSection cpu kernel semaphore maxCount) := by
  unfold semaphoreGiveSection
  split
  · rename_i context
    exact .denied (by tauto)
  · rename_i allowed
    simp only [not_or, Bool.not_eq_false] at allowed
    split
    · rename_i context
      rw [or_iff_right (not_not.mpr (Cpu.basepri_of_threadContextAllowed allowed.2))] at context
      exact .denied (by tauto)
    · rename_i entered
      simp only [not_or, not_not, Bool.not_eq_false] at entered
      split
      · rename_i waiter selected
        obtain ⟨waiter_lt, waits, highest⟩ := schedulerSelectWaiterLocked_some selected
        split
        · rename_i available
          exact .conflict waiter_lt waits available
        · rename_i empty
          obtain ⟨trace, woken⟩ := schedulerUnblockTaskLocked_waiter kernel waits (by decide)
          simp only [woken, if_true, schedulerRequestIfNeededLocked_eq]
          exact .woken entered.2.1 waiter_lt waits highest (not_not.mp empty)
      · rename_i selected
        have unwanted := schedulerSelectWaiterLocked_none selected
        split
        · rename_i saturated
          exact .full unwanted saturated
        · rename_i room
          exact .stored entered.2.1 unwanted (BitVec.not_le.mp room)

/-! ## Queues -/

/-- Outcomes of `fr_queue_wake_waiter_locked`. -/
inductive WakeOutcome (kernel : Kernel) (reason : WaitReason) (index : Nat) : Kernel → Prop
  | unwanted
      (nobody : ∀ waiter < kernel.taskCount,
        Task.waitsOn reason (.queue index) (kernel.tasks waiter) = false) :
      WakeOutcome kernel reason index kernel
  | woken {waiter : Nat} {trace : Trace}
      (waiter_lt : waiter < kernel.taskCount)
      (waits : Task.waitsOn reason (.queue index) (kernel.tasks waiter) = true) :
      WakeOutcome kernel reason index ((kernel.wakeTask waiter .signaled trace).requested)

/-- After a transfer the best waiter is woken, if there is one. -/
theorem queueWakeWaiterLocked_outcome
    (kernel : Kernel) {reason : WaitReason} (index : Nat) (named : reason ≠ .none) :
    WakeOutcome kernel reason index (queueWakeWaiterLocked kernel reason index) := by
  unfold queueWakeWaiterLocked
  split
  · rename_i selected
    exact .unwanted (schedulerSelectWaiterLocked_none selected)
  · rename_i waiter selected
    obtain ⟨waiter_lt, waits, _⟩ := schedulerSelectWaiterLocked_some selected
    obtain ⟨trace, woken⟩ := schedulerUnblockTaskLocked_waiter kernel waits named
    simp only [woken, if_true, schedulerRequestIfNeededLocked_eq]
    exact .woken waiter_lt waits

/-- The conditions under which a queue section looks at the ring. -/
structure QueueEntered (kernel : Kernel) (index : Nat) : Prop where
  running : kernel.running = true
  current : schedulerCurrentTask kernel ≠ none
  valid : queueStateValidLocked (kernel.queues index) = true

/-- The queue after one item was stored. -/
def Queue.pushed (queue : Queue) (memory : Memory) (item : Word) : Queue :=
  { queue with
    bytes := queueCopyBytes queue.bytes (queue.tail * queue.itemSize).toNat memory
      item.toNat queue.itemSize.toNat
    tail := queueNextIndex queue.tail queue.capacity
    count := queue.count + 1 }

/-- The queue after its oldest item was removed. -/
def Queue.popped (queue : Queue) : Queue :=
  { queue with
    head := queueNextIndex queue.head queue.capacity
    count := queue.count - 1 }

/-- Outcomes of one critical section of `fr_queue_send_wait`. -/
inductive SendOutcome
    (cpu : Cpu) (kernel : Kernel) (memory : Memory) (index : Nat) (item : Word)
    (timeout : WaitTimeout) : Kernel × Progress Bool → Prop
  | denied
      (context : ¬(cpu.basepri = 0 ∧ QueueEntered kernel index)) :
      SendOutcome cpu kernel memory index item timeout (kernel, .returned false)
  | expired
      (entered : QueueEntered kernel index)
      (full : (kernel.queues index).count = (kernel.queues index).capacity) :
      SendOutcome cpu kernel memory index item timeout (kernel, .returned false)
  | sent {after : Kernel}
      (entered : QueueEntered kernel index)
      (room : (kernel.queues index).count ≠ (kernel.queues index).capacity)
      (wake : WakeOutcome (kernel.setQueue index ((kernel.queues index).pushed memory item))
        .queueReceive index after) :
      SendOutcome cpu kernel memory index item timeout (after, .returned true)
  | waits {current : Nat} {ticks : Word} {trace : Trace}
      (entered : QueueEntered kernel index)
      (full : (kernel.queues index).count = (kernel.queues index).capacity)
      (runs : kernel.Runs current)
      (remaining : waitTimeoutRemaining kernel.tickCount timeout = some ticks)
      (accepted : blockAccepted .queueSend (some (.queue index)) ticks) :
      SendOutcome cpu kernel memory index item timeout
        (kernel.blockTask current .queueSend (some (.queue index)) ticks trace, .waiting)

/-- Outcomes of one critical section of `fr_queue_receive_wait`. -/
inductive ReceiveOutcome
    (cpu : Cpu) (kernel : Kernel) (memory : Memory) (index : Nat) (item : Word)
    (timeout : WaitTimeout) : Kernel × Memory × Progress Bool → Prop
  | denied
      (context : ¬(cpu.basepri = 0 ∧ QueueEntered kernel index)) :
      ReceiveOutcome cpu kernel memory index item timeout (kernel, memory, .returned false)
  | expired
      (entered : QueueEntered kernel index)
      (empty : (kernel.queues index).count = 0) :
      ReceiveOutcome cpu kernel memory index item timeout (kernel, memory, .returned false)
  | received {after : Kernel}
      (entered : QueueEntered kernel index)
      (present : (kernel.queues index).count ≠ 0)
      (wake : WakeOutcome (kernel.setQueue index (kernel.queues index).popped)
        .queueSend index after) :
      ReceiveOutcome cpu kernel memory index item timeout
        (after, queueCopyBytes memory item.toNat (kernel.queues index).bytes
          ((kernel.queues index).head * (kernel.queues index).itemSize).toNat
          (kernel.queues index).itemSize.toNat, .returned true)
  | waits {current : Nat} {ticks : Word} {trace : Trace}
      (entered : QueueEntered kernel index)
      (empty : (kernel.queues index).count = 0)
      (runs : kernel.Runs current)
      (remaining : waitTimeoutRemaining kernel.tickCount timeout = some ticks)
      (accepted : blockAccepted .queueReceive (some (.queue index)) ticks) :
      ReceiveOutcome cpu kernel memory index item timeout
        (kernel.blockTask current .queueReceive (some (.queue index)) ticks trace, memory,
          .waiting)

/-- A failed transfer gives up or waits. -/
theorem queueBlockSection_cases
    (kernel : Kernel) (reason : WaitReason) (index : Nat) (timeout : WaitTimeout) :
    queueBlockSection kernel reason index timeout = (kernel, .returned false) ∨
      ∃ current ticks trace, kernel.Runs current ∧
        waitTimeoutRemaining kernel.tickCount timeout = some ticks ∧
        blockAccepted reason (some (.queue index)) ticks ∧
        queueBlockSection kernel reason index timeout =
          (kernel.blockTask current reason (some (.queue index)) ticks trace, .waiting) := by
  unfold queueBlockSection
  split
  · exact Or.inl rfl
  · rename_i ticks remaining
    rcases schedulerBlockCurrentLocked_cases kernel reason (some (.queue index)) ticks
      with blocked | ⟨task, trace, active, running, state, accepted, blocked⟩
    · exact Or.inl (by simp [blocked])
    · exact Or.inr ⟨task, ticks, trace, ⟨active, running, state⟩, remaining, accepted,
        by simp [blocked]⟩

/-- The guard of a queue section, the other way round. -/
theorem queueEntered_iff {cpu : Cpu} {kernel : Kernel} {index : Nat} :
    (cpu.basepri ≠ 0 ∨ kernel.running = false ∨ schedulerCurrentTask kernel = none ∨
      queueStateValidLocked (kernel.queues index) = false) ↔
      ¬(cpu.basepri = 0 ∧ QueueEntered kernel index) := by
  constructor
  · rintro (masked | stopped | idle | invalid) ⟨unmasked, entered⟩
    · exact masked unmasked
    · simp [entered.running] at stopped
    · exact entered.current idle
    · simp [entered.valid] at invalid
  · intro outside
    by_contra inside
    simp only [not_or, not_not, Bool.not_eq_false] at inside
    exact outside ⟨inside.1, inside.2.1, inside.2.2.1, inside.2.2.2⟩

/-- A send in its section, case by case. -/
theorem queueSendSection_outcome
    (cpu : Cpu) (kernel : Kernel) (memory : Memory) (index : Nat) (item : Word)
    (timeout : WaitTimeout) :
    SendOutcome cpu kernel memory index item timeout
      (queueSendSection cpu kernel memory index item timeout) := by
  unfold queueSendSection
  split
  · rename_i outside
    exact .denied (queueEntered_iff.mp outside)
  · rename_i inside
    have entered := (not_not.mp (mt queueEntered_iff.mpr inside)).2
    unfold queueTrySendLocked
    by_cases full : (kernel.queues index).count = (kernel.queues index).capacity
    · simp only [if_pos full]
      rcases queueBlockSection_cases kernel .queueSend index timeout
        with gaveUp | ⟨current, ticks, trace, runs, remaining, accepted, blocked⟩
      · rw [gaveUp]
        exact .expired entered full
      · rw [blocked]
        exact .waits entered full runs remaining accepted
    · simp only [if_neg full]
      exact .sent entered full (queueWakeWaiterLocked_outcome _ index (by decide))

/-- A receive in its section, case by case. -/
theorem queueReceiveSection_outcome
    (cpu : Cpu) (kernel : Kernel) (memory : Memory) (index : Nat) (item : Word)
    (timeout : WaitTimeout) :
    ReceiveOutcome cpu kernel memory index item timeout
      (queueReceiveSection cpu kernel memory index item timeout) := by
  unfold queueReceiveSection
  split
  · rename_i outside
    exact .denied (queueEntered_iff.mp outside)
  · rename_i inside
    have entered := (not_not.mp (mt queueEntered_iff.mpr inside)).2
    unfold queueTryReceiveLocked
    by_cases empty : (kernel.queues index).count = 0
    · simp only [if_pos empty]
      rcases queueBlockSection_cases kernel .queueReceive index timeout
        with gaveUp | ⟨current, ticks, trace, runs, remaining, accepted, blocked⟩
      · rw [gaveUp]
        exact .expired entered empty
      · rw [blocked]
        exact .waits entered empty runs remaining accepted
    · simp only [if_neg empty]
      exact .received entered empty (queueWakeWaiterLocked_outcome _ index (by decide))

/-! ## Event flags -/

/-- A waiter that `fr_event_flags_set` completes at a snapshot of the bits. -/
def Task.satisfiedBy (index : Nat) (bits : Word) (task : Task) : Bool :=
  Task.waitsOn .eventFlags (.eventFlags index) task && decide (task.waitFlagsMask ≠ 0) &&
    eventFlagsConditionMet bits task.waitFlagsMask task.waitFlagsAll

/-- The registry after the broadcast has visited the first `count` slots. -/
def Kernel.broadcast
    (kernel : Kernel) (index : Nat) (bits : Word) (count : Nat) (trace : Trace) : Kernel :=
  { kernel with
    tasks := fun position =>
      if position < count ∧ (kernel.tasks position).satisfiedBy index bits then
        { (kernel.tasks position).endWait .signaled (kernel.wakeState position) with
          waitFlagsResult := bits &&& (kernel.tasks position).waitFlagsMask }
      else kernel.tasks position
    trace := trace }

/-- A broadcast that satisfies nobody changes no task. -/
theorem Kernel.broadcast_tasks_of_unsatisfied
    (kernel : Kernel) {index count : Nat} {bits : Word} (trace : Trace)
    (unsatisfied : ∀ position < count,
      (kernel.tasks position).satisfiedBy index bits = false) :
    (kernel.broadcast index bits count trace).tasks = kernel.tasks := by
  funext position
  refine if_neg fun chosen => ?_
  rw [unsatisfied position chosen.1] at chosen
  exact absurd chosen.2 Bool.false_ne_true

/-- The scan of `fr_event_flags_set` changes no priority. -/
@[simp] theorem Kernel.broadcast_priorityOf
    (kernel : Kernel) (index : Nat) (bits : Word) (count : Nat) (trace : Trace) :
    (kernel.broadcast index bits count trace).priorityOf = kernel.priorityOf := by
  funext position
  simp only [Kernel.priorityOf, Kernel.broadcast]
  split <;> rfl

/-- What the broadcast loop has done after `count` positions. -/
structure BroadcastState
    (kernel : Kernel) (index : Nat) (bits : Word) (count : Nat) (loop : Broadcast) : Prop where
  kernel_eq : loop.kernel = kernel.broadcast index bits count loop.kernel.trace
  quiet : loop.taskWoken = false →
    ∀ position < count, (kernel.tasks position).satisfiedBy index bits = false

/-- A task that does not wait for these bits is passed over. -/
theorem BroadcastState.skip
    {kernel : Kernel} {index : Nat} {bits : Word} {count : Nat} {loop : Broadcast}
    (reached : BroadcastState kernel index bits count loop)
    (unsatisfied : (kernel.tasks count).satisfiedBy index bits = false) :
    BroadcastState kernel index bits (count + 1) loop where
  kernel_eq := by
    have same : kernel.broadcast index bits (count + 1) loop.kernel.trace =
        kernel.broadcast index bits count loop.kernel.trace := by
      simp only [Kernel.broadcast, Kernel.mk.injEq, and_true]
      funext position
      by_cases last : position = count
      · subst last
        simp [unsatisfied]
      · have bound : position < count + 1 ↔ position < count := by omega
        simp only [bound]
    rw [same]
    exact reached.kernel_eq
  quiet calm position small := by
    by_cases last : position = count
    · exact last ▸ unsatisfied
    · exact reached.quiet calm position (by omega)

/-- One iteration passes a slot over or completes the waiter in it. -/
theorem eventFlagsSetStep_cases
    (index : Nat) (bits : Word) (loop : Broadcast) (position : Nat) :
    ((loop.kernel.tasks position).satisfiedBy index bits = false ∧
      eventFlagsSetStep index bits loop position = loop) ∨
    ((loop.kernel.tasks position).satisfiedBy index bits = true ∧
      ∃ trace, eventFlagsSetStep index bits loop position =
        { kernel := { loop.kernel with
            tasks := Function.update loop.kernel.tasks position
              { (loop.kernel.tasks position).endWait .signaled
                  (loop.kernel.wakeState position) with
                waitFlagsResult := bits &&& (loop.kernel.tasks position).waitFlagsMask }
            trace := trace }
          clearMask :=
            if (loop.kernel.tasks position).waitFlagsClearOnExit then
              loop.clearMask ||| (loop.kernel.tasks position).waitFlagsMask
            else loop.clearMask
          taskWoken := true }) := by
  unfold eventFlagsSetStep
  dsimp only
  split
  · rename_i unrelated
    refine .inl ⟨?_, rfl⟩
    rcases unrelated with unrelated | empty <;> simp [Task.satisfiedBy, *]
  · rename_i related
    simp only [not_or, Bool.not_eq_false] at related
    split
    · rename_i unmet
      exact .inl ⟨by simp [Task.satisfiedBy, unmet], rfl⟩
    · rename_i met
      rw [Bool.not_eq_false] at met
      obtain ⟨blocked, reason, _, _⟩ := Task.waitsOn_iff.mp related.1
      obtain ⟨trace, woken⟩ := schedulerUnblockTaskLocked_eq
        (loop.kernel.setTask position { loop.kernel.tasks position with
          waitFlagsResult := bits &&& (loop.kernel.tasks position).waitFlagsMask })
        position .signaled (by simpa using blocked) (by simp [reason]) (by decide)
      refine .inr ⟨by simpa [Task.satisfiedBy, related.1, met] using related.2, trace, ?_⟩
      rw [woken]
      simp only [if_true, Kernel.wakeTask, Kernel.setTask, Kernel.wakeState,
        Function.update_idem, Function.update_self]
      rfl

/-- One turn of the scan satisfies the task at its position when its condition is met. -/
theorem eventFlagsSetStep_state
    {kernel : Kernel} {index : Nat} {bits : Word} {count : Nat} {loop : Broadcast}
    (reached : BroadcastState kernel index bits count loop) :
    BroadcastState kernel index bits (count + 1)
      (eventFlagsSetStep index bits loop count) := by
  have unvisited : loop.kernel.tasks count = kernel.tasks count := by
    rw [reached.kernel_eq]
    simp [Kernel.broadcast]
  rcases eventFlagsSetStep_cases index bits loop count
    with ⟨unsatisfied, same⟩ | ⟨satisfied, trace, woken⟩
  · rw [same]
    exact reached.skip (unvisited ▸ unsatisfied)
  · rw [woken]
    rw [unvisited] at satisfied ⊢
    refine ⟨?_, by simp⟩
    rw [reached.kernel_eq]
    simp only [Kernel.broadcast, Kernel.wakeState, Kernel.mk.injEq, and_true]
    funext position
    by_cases last : position = count
    · subst last
      rw [Function.update_self, if_pos ⟨Nat.lt_succ_self position, satisfied⟩]
      rfl
    · have bound : position < count + 1 ↔ position < count := by omega
      simp only [Function.update_of_ne last, bound]

/-- The broadcast does not look at the stored bits. -/
theorem Kernel.broadcast_setEventFlags
    (kernel : Kernel) (index : Nat) (first second : EventFlags)
    (bits : Word) (count : Nat) (trace : Trace) :
    ((kernel.setEventFlags index first).broadcast index bits count trace).setEventFlags
        index second =
      (kernel.broadcast index bits count trace).setEventFlags index second := by
  simp only [setEventFlags, broadcast, Function.update_idem]
  rfl

/-- Outcomes of `fr_event_flags_set`. -/
inductive SetOutcome (kernel : Kernel) (index : Nat) (bits : Word) : Kernel × Bool → Prop
  | denied : SetOutcome kernel index bits (kernel, false)
  | silent {cleared : Word} {trace : Trace}
      (running : kernel.running = true)
      (unsatisfied : ∀ position < kernel.taskCount, (kernel.tasks position).satisfiedBy index
        ((kernel.eventFlags index).bits ||| bits) = false) :
      SetOutcome kernel index bits
        ((kernel.broadcast index ((kernel.eventFlags index).bits ||| bits)
          kernel.taskCount trace).setEventFlags index { kernel.eventFlags index with
            bits := ((kernel.eventFlags index).bits ||| bits) &&& ~~~cleared }, true)
  | broadcast {cleared : Word} {trace : Trace}
      (running : kernel.running = true) :
      SetOutcome kernel index bits
        (((kernel.broadcast index ((kernel.eventFlags index).bits ||| bits)
          kernel.taskCount trace).setEventFlags index { kernel.eventFlags index with
            bits := ((kernel.eventFlags index).bits ||| bits) &&& ~~~cleared }).requested,
          true)

theorem eventFlagsEntryAllowed_running
    {cpu : Cpu} {kernel : Kernel} {index : Nat}
    (allowed : eventFlagsEntryAllowed cpu kernel index = true) : kernel.running = true := by
  simp only [eventFlagsEntryAllowed, Bool.and_eq_true] at allowed
  exact allowed.1.2

/-- `fr_event_flags_set`, case by case. -/
theorem eventFlagsSet_outcome (cpu : Cpu) (kernel : Kernel) (index : Nat) (bits : Word) :
    SetOutcome kernel index bits (eventFlagsSet cpu kernel index bits) := by
  unfold eventFlagsSet
  split
  · exact .denied
  · rename_i entered
    simp only [not_or, Bool.not_eq_false] at entered
    have running := eventFlagsEntryAllowed_running entered.2
    dsimp only
    generalize current : (kernel.eventFlags index).bits ||| bits = currentBits
    generalize start : kernel.setEventFlags index
      { kernel.eventFlags index with bits := currentBits } = marked
    have reached : BroadcastState marked index currentBits marked.taskCount
        ((List.range marked.taskCount).foldl (eventFlagsSetStep index currentBits)
          ⟨marked, 0, false⟩) :=
      Scans.foldl_range_invariant
        (motive := fun count loop => BroadcastState marked index currentBits count loop)
        marked.taskCount ⟨marked, 0, false⟩ ⟨by simp [Kernel.broadcast], by simp⟩
        (fun _ _ _ reached => eventFlagsSetStep_state reached)
    generalize (List.range marked.taskCount).foldl (eventFlagsSetStep index currentBits)
      ⟨marked, 0, false⟩ = loop at reached ⊢
    obtain ⟨after, clearMask, taskWoken⟩ := loop
    obtain ⟨after_eq, quiet⟩ := reached
    dsimp only at after_eq quiet ⊢
    have stored : after.eventFlags index =
        { kernel.eventFlags index with bits := currentBits } := by
      rw [after_eq, ← start]
      exact Function.update_self ..
    simp only [stored]
    rw [after_eq, ← start, Kernel.broadcast_setEventFlags]
    rw [← start] at quiet
    subst current
    cases taskWoken with
    | true =>
        rw [if_pos rfl, schedulerRequestIfNeededLocked_eq]
        exact .broadcast running
    | false => exact .silent running (quiet rfl)

/-- The fields that `fr_event_flags_wait` stores before it blocks. -/
def Task.withRequest (task : Task) (request : FlagsRequest) : Task :=
  { task with
    waitFlagsMask := request.mask
    waitFlagsResult := 0
    waitFlagsAll := request.waitAll
    waitFlagsClearOnExit := request.clearOnExit }

/-- Outcomes of the critical section of `fr_event_flags_wait`. -/
inductive FlagsWaitOutcome
    (kernel : Kernel) (index : Nat) (request : FlagsRequest) (timeout : WaitTimeout) :
    Kernel × Progress (Bool × Word) → Prop
  | refused : FlagsWaitOutcome kernel index request timeout (kernel, .returned (false, 0))
  | unblocked {current : Nat}
      (active : kernel.currentTask = some (.user current)) :
      FlagsWaitOutcome kernel index request timeout
        (kernel.setTask current ((kernel.tasks current).withRequest ⟨0, false, false⟩),
          .returned (false, 0))
  | satisfied
      (running : kernel.running = true)
      (met : eventFlagsConditionMet (kernel.eventFlags index).bits request.mask
        request.waitAll = true) :
      FlagsWaitOutcome kernel index request timeout
        (if request.clearOnExit then
            kernel.setEventFlags index { kernel.eventFlags index with
              bits := (kernel.eventFlags index).bits &&& ~~~request.mask }
          else kernel,
          .returned (true, (kernel.eventFlags index).bits &&& request.mask))
  | waits {current : Nat} {ticks : Word} {trace : Trace}
      (runs : kernel.Runs current)
      (unmet : eventFlagsConditionMet (kernel.eventFlags index).bits request.mask
        request.waitAll = false)
      (remaining : waitTimeoutRemaining kernel.tickCount timeout = some ticks)
      (accepted : blockAccepted .eventFlags (some (.eventFlags index)) ticks) :
      FlagsWaitOutcome kernel index request timeout
        ((kernel.setTask current ((kernel.tasks current).withRequest request)).blockTask
          current .eventFlags (some (.eventFlags index)) ticks trace, .waiting)

/-- `fr_event_flags_wait` in its section, case by case. -/
theorem eventFlagsWaitSection_outcome
    (cpu : Cpu) (kernel : Kernel) (index : Nat) (request : FlagsRequest)
    (timeout : WaitTimeout) :
    FlagsWaitOutcome kernel index request timeout
      (eventFlagsWaitSection cpu kernel index request timeout) := by
  unfold eventFlagsWaitSection
  split
  · exact .refused
  · rename_i current present
    rw [schedulerCurrentTask_eq_some] at present
    dsimp only
    split
    · exact .refused
    · rename_i entered
      simp only [not_or, not_not, Bool.not_eq_false] at entered
      split
      · rename_i met
        exact .satisfied entered.2.2 met
      · rename_i unmet
        rw [Bool.not_eq_true] at unmet
        split
        · exact .refused
        · rename_i ticks remaining
          rcases schedulerBlockCurrentLocked_cases
              (kernel.setTask current ((kernel.tasks current).withRequest request))
              .eventFlags (some (.eventFlags index)) ticks
            with blocked | ⟨task, trace, active, running, state, accepted, blocked⟩
          · simp only [Task.withRequest] at blocked
            rw [blocked]
            have cleared : (kernel.setTask current
                ((kernel.tasks current).withRequest request)).setTask current
                  { (kernel.setTask current
                      ((kernel.tasks current).withRequest request)).tasks current with
                    waitFlagsMask := 0
                    waitFlagsAll := false
                    waitFlagsClearOnExit := false } =
                kernel.setTask current
                  ((kernel.tasks current).withRequest ⟨0, false, false⟩) := by
              simp [Kernel.setTask, Task.withRequest]
            rw [if_neg Bool.false_ne_true]
            exact cleared ▸ .unblocked present
          · have same : task = current := by
              change kernel.currentTask = _ at active
              simpa [active] using present
            subst same
            simp only [Task.withRequest] at blocked
            rw [blocked]
            exact .waits ⟨present, running, by simpa [Task.withRequest] using state⟩ unmet
              remaining accepted

/-! ## Sleeping and expiry -/

/-- Outcomes of the critical section of `fr_task_sleep`. -/
inductive SleepOutcome (cpu : Cpu) (kernel : Kernel) (delayTicks : Word) :
    Kernel × Progress Bool → Prop
  | refused : SleepOutcome cpu kernel delayTicks (kernel, .returned false)
  | sleeps {current : Nat} {trace : Trace}
      (runs : kernel.Runs current)
      (unmasked : cpu.pendSvMasked = false)
      (accepted : blockAccepted .sleep none delayTicks)
      (finite : delayTicks ≤ waitMaxFiniteTicks) :
      SleepOutcome cpu kernel delayTicks
        (kernel.blockTask current .sleep none delayTicks trace, .waiting)

/-- `fr_task_sleep` in its section, case by case. -/
theorem taskSleepSection_outcome (cpu : Cpu) (kernel : Kernel) (delayTicks : Word) :
    SleepOutcome cpu kernel delayTicks (taskSleepSection cpu kernel delayTicks) := by
  unfold taskSleepSection
  split
  · exact .refused
  · rename_i bounds
    rw [not_or, BitVec.not_lt] at bounds
    split
    · exact .refused
    · rename_i context
      split
      · exact .refused
      · split
        · exact .refused
        · rename_i entered
          rcases schedulerBlockCurrentLocked_cases kernel .sleep none delayTicks
            with blocked | ⟨task, trace, active, running, state, accepted, blocked⟩
          · rw [blocked]
            exact .refused
          · rw [blocked]
            refine .sleeps ⟨active, running, state⟩ ?_ accepted bounds.2
            simp only [not_or, not_not, Bool.not_eq_true] at context entered
            simp [Cpu.pendSvMasked, context, entered.1]

/-- The wait of a task ends at tick `now`. -/
def Task.dueAt (now : Word) (task : Task) : Bool :=
  decide (task.state = .blocked) && task.waitHasDeadline &&
    tickDeadlineReached now task.waitDeadline

theorem Task.dueAt_iff {now : Word} {task : Task} :
    task.dueAt now = true ↔ task.state = .blocked ∧ task.waitHasDeadline = true ∧
      tickDeadlineReached now task.waitDeadline = true := by
  simp [Task.dueAt, and_assoc]

/-- Outcomes of one iteration of `fr_scheduler_expire_timeouts`. -/
inductive ExpireOutcome (now : Word) (kernel : Kernel) (index : Nat) : Kernel → Prop
  | skipped (early : (kernel.tasks index).dueAt now = false) :
      ExpireOutcome now kernel index kernel
  | expired {trace : Trace} {counters : SchedulerCounters}
      (due : (kernel.tasks index).dueAt now = true)
      (unrelated : (kernel.tasks index).waitReason ≠ .mutex) :
      ExpireOutcome now kernel index
        { kernel.wakeTask index .timeout trace with counters := counters }
  | withdrawn {trace : Trace} {counters : SchedulerCounters} {mutex : Nat}
      (due : (kernel.tasks index).dueAt now = true)
      (reason : (kernel.tasks index).waitReason = .mutex)
      (object : (kernel.tasks index).waitObject = some (.mutex mutex)) :
      ExpireOutcome now kernel index
        { mutexWaiterRemovedLocked (kernel.wakeTask index .timeout trace) mutex with
          counters := counters }

/-- One turn of the timeout scan, case by case. -/
theorem schedulerExpireStep_outcome
    (now : Word) (kernel : Kernel) (index : Nat)
    (named : (kernel.tasks index).state = .blocked → (kernel.tasks index).waitReason ≠ .none)
    (object : (kernel.tasks index).state = .blocked →
      (kernel.tasks index).waitReason = .mutex →
      ∃ mutex, (kernel.tasks index).waitObject = some (.mutex mutex)) :
    ExpireOutcome now kernel index (schedulerExpireStep now kernel index) := by
  unfold schedulerExpireStep
  dsimp only
  split
  · rename_i inactive
    refine .skipped ?_
    rcases inactive with other | endless <;> simp [Task.dueAt, *]
  · rename_i active
    simp only [not_or, not_not, Bool.not_eq_false] at active
    split
    · rename_i early
      exact .skipped (by simp [Task.dueAt, early])
    · rename_i reached
      rw [Bool.not_eq_false] at reached
      have due : (kernel.tasks index).dueAt now = true := by
        simp [Task.dueAt, active, reached]
      obtain ⟨trace, woken⟩ := schedulerUnblockTaskLocked_eq kernel index .timeout
        active.1 (named active.1) (by decide)
      rw [woken, if_pos rfl]
      by_cases reason : (kernel.tasks index).waitReason = .mutex
      · obtain ⟨mutex, present⟩ := object active.1 reason
        simp only [reason, present]
        exact .withdrawn due reason present
      · split
        · rename_i same _
          exact absurd same reason
        · exact .expired due reason

end ForgeKernel
