import ForgeKernel.Invariant.Queues

/-!
# No lost queue wake-up

A wake-up reserves nothing, but it is never lost either: while a receiver is
blocked, every item in the ring is matched by a receiver that has been signaled
and has not retried yet, and the same holds for senders and free slots.
-/

namespace ForgeKernel

open Machines

/-! ## The two directions of transfer -/

/-- The two queue loops. -/
inductive Direction
  | send
  | receive
  deriving DecidableEq, Repr

namespace Direction

/-- The loop on the other side of the queue. -/
def flip : Direction → Direction
  | .send => .receive
  | .receive => .send

/-- The reason with which a loop blocks. -/
def reason : Direction → WaitReason
  | .send => .queueSend
  | .receive => .queueReceive

/-- The call of a loop. -/
def call (direction : Direction) (index : Nat) (item ticks : Word) : Call :=
  match direction with
  | .send => .queueSendWait (some index) item ticks
  | .receive => .queueReceiveWait (some index) item ticks

/-- What a transfer uses up: free slots for a send, items for a receive. -/
def supply (direction : Direction) (queue : Queue) : Nat :=
  match direction with
  | .send => queue.capacity.toNat - queue.count.toNat
  | .receive => queue.count.toNat

variable {direction : Direction} {index : Nat} {item ticks : Word}

theorem call_send :
    Call.queueSendWait (some index) item ticks = Direction.send.call index item ticks := rfl

theorem call_receive :
    Call.queueReceiveWait (some index) item ticks = Direction.receive.call index item ticks := rfl

theorem call_wait :
    (direction.call index item ticks).wait = some (direction.reason, some (.queue index)) := by
  cases direction <;> rfl

theorem reason_injective
    {other : Direction} (same : direction.reason = other.reason) : direction = other := by
  cases direction <;> cases other <;> simp_all [reason]

theorem reason_inj
    {other : Direction}
    (wait : (direction.call index item ticks).wait = some (other.reason, some (.queue index))) :
    direction = other := by
  cases direction <;> cases other <;> simp_all [Direction.call, Call.wait, reason]

theorem flip_ne : direction.flip ≠ direction := by
  cases direction <;> decide

end Direction

/-- One critical section of a queue loop, without the bytes. -/
inductive TransferOutcome
    (direction : Direction) (cpu : Cpu) (kernel : Kernel) (index : Nat) :
    Kernel × Progress Bool → Prop
  | denied
      (context : ¬(cpu.basepri = 0 ∧ QueueEntered kernel index)) :
      TransferOutcome direction cpu kernel index (kernel, .returned false)
  | expired
      (entered : QueueEntered kernel index)
      (exhausted : direction.supply (kernel.queues index) = 0) :
      TransferOutcome direction cpu kernel index (kernel, .returned false)
  | moved {queue : Queue} {after : Kernel}
      (entered : QueueEntered kernel index)
      (magic : queue.magic = (kernel.queues index).magic)
      (used : direction.supply queue + 1 = direction.supply (kernel.queues index))
      (gained : direction.flip.supply queue =
        direction.flip.supply (kernel.queues index) + 1)
      (wake : WakeOutcome (kernel.setQueue index queue) direction.flip.reason index after) :
      TransferOutcome direction cpu kernel index (after, .returned true)
  | waits {current : Nat} {ticks : Word} {trace : Trace}
      (entered : QueueEntered kernel index)
      (exhausted : direction.supply (kernel.queues index) = 0)
      (runs : kernel.Runs current) :
      TransferOutcome direction cpu kernel index
        (kernel.blockTask current direction.reason (some (.queue index)) ticks trace, .waiting)

section Outcomes

variable {cpu : Cpu} {kernel : Kernel} {memory : Memory} {index : Nat} {item : Word}
  {timeout : WaitTimeout}

theorem SendOutcome.transfer
    {ended : Kernel × Progress Bool}
    (outcome : SendOutcome cpu kernel memory index item timeout ended)
    (sound : queueStateValidLocked (kernel.queues index) = true → (kernel.queues index).Sound) :
    TransferOutcome .send cpu kernel index ended := by
  cases outcome with
  | denied context => exact .denied context
  | expired entered full => exact .expired entered (by simp [Direction.supply, full])
  | sent entered room wake =>
      obtain ⟨less, succ⟩ := (sound entered.valid).count_succ room
      refine .moved entered ?_ ?_ ?_ wake
      · rfl
      · simp only [Direction.supply, Queue.pushed, succ]
        omega
      · simp only [Direction.supply, Direction.flip, Queue.pushed, succ]
  | waits entered full runs => exact .waits entered (by simp [Direction.supply, full]) runs

theorem ReceiveOutcome.transfer
    {ended : Kernel × Memory × Progress Bool}
    (outcome : ReceiveOutcome cpu kernel memory index item timeout ended)
    (sound : queueStateValidLocked (kernel.queues index) = true → (kernel.queues index).Sound) :
    TransferOutcome .receive cpu kernel index (ended.1, ended.2.2) := by
  cases outcome with
  | denied context => exact .denied context
  | expired entered empty => exact .expired entered (by simp [Direction.supply, empty])
  | received entered present wake =>
      have pred := Queue.Sound.count_pred present
      have bounded := (sound entered.valid).count_le
      refine .moved entered ?_ ?_ ?_ wake
      · rfl
      · simp only [Direction.supply, Queue.popped]
        omega
      · simp only [Direction.supply, Direction.flip, Queue.popped]
        omega
  | waits entered empty runs => exact .waits entered (by simp [Direction.supply, empty]) runs

end Outcomes

/-- What the wake-up of a transfer does to each task. -/
theorem WakeOutcome.tasks_cases
    {kernel after : Kernel} {reason : WaitReason} {index : Nat}
    (wake : WakeOutcome kernel reason index after) (task : Nat) :
    after.tasks task = kernel.tasks task ∨
      Task.waitsOn reason (.queue index) (kernel.tasks task) = true ∧
        after.tasks task = (kernel.tasks task).endWait .signaled (kernel.wakeState task) := by
  cases wake with
  | unwanted => exact Or.inl rfl
  | @woken waiter trace _ waits =>
      by_cases chosen : task = waiter
      · subst chosen
        exact Or.inr ⟨waits, Function.update_self ..⟩
      · exact Or.inl (Function.update_of_ne chosen ..)

/-- Steps of both loops. -/
theorem Direction.step_cases
    {cfg : Config} {cpu : Cpu} {kernel : Kernel} {memory : Memory} {self index : Nat}
    {direction : Direction} {item ticks : Word} {point : Point} {result : StepResult}
    (sound : queueStateValidLocked (kernel.queues index) = true → (kernel.queues index).Sound)
    (stepped : (direction.call index item ticks).step cfg cpu kernel memory self point =
      some result) :
    LoopStep kernel memory self (fun timeout result => ∃ ended written,
      TransferOutcome direction cpu kernel index ended ∧
        result = .ofProgress written (.suspended timeout) ended) point result := by
  cases direction with
  | send =>
      cases queueSendStep_cases stepped with
      | refuses => exact .refuses
      | arms => exact .arms
      | decides start decided =>
          obtain ⟨ended, outcome, rfl⟩ := decided
          exact .decides start ⟨ended, memory, outcome.transfer sound, rfl⟩
      | expires unsignaled => exact .expires unsignaled
      | resumes signaled => exact .resumes signaled
  | receive =>
      cases queueReceiveStep_cases stepped with
      | refuses => exact .refuses
      | arms => exact .arms
      | decides start decided =>
          obtain ⟨ended, outcome, rfl⟩ := decided
          exact .decides start ⟨_, ended.2.1, outcome.transfer sound, rfl⟩
      | expires unsignaled => exact .expires unsignaled
      | resumes signaled => exact .resumes signaled

/-! ## The counting invariant -/

/-- A task is blocked in the loop on the queue. -/
def System.BlockedIn (system : System) (direction : Direction) (index task : Nat) : Prop :=
  Task.waitsOn direction.reason (.queue index) (system.kernel.tasks task) = true

/-- Tasks signaled out of the loop that have not executed their retry critical section
since. -/
def System.signaledOut (system : System) (direction : Direction) (index : Nat) : Finset Nat :=
  system.signaledFrom direction.reason (.queue index)

/-- Whoever is blocked in a loop finds what it needs matched by signaled tasks of the
same loop; and the queue of a task in a wait is initialized. -/
structure WakeupsOk (index : Nat) (system : System) : Prop where
  matched : ∀ direction task, system.BlockedIn direction index task →
    direction.supply (system.kernel.queues index) ≤
      (system.signaledOut direction index).card
  ready : ∀ direction task,
    system.BlockedIn direction index task ∨ task ∈ system.signaledOut direction index →
      (system.kernel.queues index).magic = queueMagic

namespace WakeupsOk

variable {cfg : Config} {index : Nat} {system after : System} {action : Action}
  {events : List Event}

/-- Steps that take nobody off or onto the list, and leave the supplies. -/
theorem congr
    (wakeups : WakeupsOk index system)
    (queue : after.kernel.queues index = system.kernel.queues index)
    (signaled : ∀ direction, after.signaledOut direction index =
      system.signaledOut direction index)
    (waits : ∀ direction task, after.BlockedIn direction index task →
      system.BlockedIn direction index task) :
    WakeupsOk index after := by
  refine ⟨fun direction task blocked => ?_, fun direction task busy => ?_⟩
  · rw [queue, signaled]
    exact wakeups.matched direction task (waits direction task blocked)
  · rw [queue]
    rw [signaled] at busy
    exact wakeups.ready direction task (busy.imp_left (waits direction task))

theorem untouched
    (wakeups : WakeupsOk index system) (core : Core system) (next : Core after)
    (same : Untouched (.queue index) system after events) : WakeupsOk index after :=
  wakeups.congr same.data (fun _ => core.signaledFrom_congr next fun _ => same.fliesFrom)
    fun _ _ => same.waitsOn core next

/-- A loop that finds nothing for it gives up or blocks. -/
theorem exhausted
    {direction : Direction}
    (wakeups : WakeupsOk index system)
    (queue : after.kernel.queues index = system.kernel.queues index)
    (magic : (system.kernel.queues index).magic = queueMagic)
    (empty : direction.supply (system.kernel.queues index) = 0)
    (signaled : ∀ other, other ≠ direction → after.signaledOut other index =
      system.signaledOut other index)
    (waits : ∀ other, other ≠ direction → ∀ task, after.BlockedIn other index task →
      system.BlockedIn other index task) :
    WakeupsOk index after := by
  refine ⟨fun other task blocked => ?_, fun _ _ _ => queue ▸ magic⟩
  rw [queue]
  by_cases same : other = direction
  · rw [same, empty]
    exact Nat.zero_le _
  · rw [signaled other same]
    exact wakeups.matched other task (waits other same task blocked)

/-- A transfer uses up what one signaled task of its loop was woken for, and wakes a
task of the other loop if there is one. -/
theorem moves
    (self : Nat) (direction : Direction)
    (wakeups : WakeupsOk index system) (core : Core system)
    (magic : (after.kernel.queues index).magic = queueMagic)
    (used : direction.supply (after.kernel.queues index) + 1 =
      direction.supply (system.kernel.queues index))
    (gained : direction.flip.supply (after.kernel.queues index) =
      direction.flip.supply (system.kernel.queues index) + 1)
    (kept : (system.signaledOut direction index).erase self ⊆
      after.signaledOut direction index)
    (keptFlip : system.signaledOut direction.flip index ⊆
      after.signaledOut direction.flip index)
    (waits : ∀ other task, after.BlockedIn other index task →
      system.BlockedIn other index task)
    (wakes : ∀ task, after.BlockedIn direction.flip index task →
      ∃ waiter, system.BlockedIn direction.flip index waiter ∧
        waiter ∈ after.signaledOut direction.flip index) :
    WakeupsOk index after := by
  refine ⟨fun other task blocked => ?_, fun _ _ _ => magic⟩
  have before := wakeups.matched other task (waits other task blocked)
  by_cases same : other = direction
  · subst same
    have atMostOne := Finset.pred_card_le_card_erase (s := system.signaledOut other index)
      (a := self)
    have bounded := Finset.card_le_card kept
    omega
  · obtain rfl : other = direction.flip := by
      cases other <;> cases direction <;> simp_all [Direction.flip]
    obtain ⟨waiter, waited, signaled⟩ := wakes task blocked
    have new : waiter ∉ system.signaledOut direction.flip index :=
      core.notMem_of_waitsOn waited
    have grown : insert waiter (system.signaledOut direction.flip index) ⊆
        after.signaledOut direction.flip index := by
      intro position present
      rcases Finset.mem_insert.mp present with rfl | old
      · exact signaled
      · exact keptFlip old
    have bounded := Finset.card_le_card grown
    rw [Finset.card_insert_of_notMem new] at bounded
    omega

section Advance

variable {self : Nat} {direction : Direction} {item ticks : Word} {point : Point}
  {memory : Memory} {frame : Frame}

/-- Steps that leave the kernel alone and keep the view of the thread. -/
theorem still
    (wakeups : WakeupsOk index system) (core : Core system)
    (next : Core ({ system with memory := memory }.setFrame (.task self) frame))
    (own : waitView (system.kernel.tasks self) frame = system.view self) :
    WakeupsOk index ({ system with memory := memory }.setFrame (.task self) frame) := by
  refine wakeups.congr rfl (fun direction => core.signaledFrom_congr next fun task => ?_)
    fun _ _ => id
  rw [System.view_setFrame_still rfl]
  rintro index ⟨⟩
  exact own

/-- The thread that is about to retry was not signaled out of another loop. -/
theorem own_notMem
    (core : Core system)
    (inCall : system.frames (.task self) = .inCall (direction.call index item ticks) point)
    {timeout : WaitTimeout} (start : point = .armed timeout ∨ point = .signaled timeout)
    {other : Direction} (different : other ≠ direction) :
    self ∉ system.signaledOut other index := by
  intro signaled
  obtain ⟨call, view, wait⟩ := WaitView.fliesFrom_iff.mp (core.mem_signaledFrom.mp signaled)
  rw [System.view, inCall] at view
  rcases start with rfl | rfl
  · exact absurd view (by simp [waitView])
  · obtain rfl := WaitView.flying.inj view
    exact different (Direction.reason_inj wait).symm

/-- A retry is never denied: its thread runs unmasked and its queue is initialized. -/
theorem not_denied
    {timeout : WaitTimeout}
    (wakeups : WakeupsOk index system) (core : Core system) (ok : QueueOk index system)
    (active : system.activeThread = some (.task self))
    (inCall : system.frames (.task self) =
      .inCall (direction.call index item ticks) (.signaled timeout)) :
    system.cpu.basepri = 0 ∧ QueueEntered system.kernel index := by
  have runs := core.active_current active
  have unmasked := core.guarded_unmasked active inCall rfl rfl
  have signaled : self ∈ system.signaledOut direction index := by
    refine core.mem_signaledFrom.mpr (WaitView.fliesFrom_iff.mpr
      ⟨direction.call index item ticks, ?_, Direction.call_wait⟩)
    rw [System.view, inCall]
    rfl
  have sound := ok.sound (wakeups.ready direction self (Or.inr signaled))
  simp only [Cpu.pendSvMasked, Bool.or_eq_false_iff, decide_eq_false_iff_not, not_not] at unmasked
  refine ⟨unmasked.2, runs.running, ?_, sound.valid⟩
  rw [ne_eq, Option.eq_none_iff_forall_ne_some, not_forall]
  exact ⟨self, not_not.mpr (schedulerCurrentTask_eq_some.mpr runs.currentTask)⟩

/-- One critical section of a loop. -/
theorem decided
    {timeout : WaitTimeout} {ended : Kernel × Progress Bool}
    (wakeups : WakeupsOk index system) (core : Core system) (ok : QueueOk index system)
    (active : system.activeThread = some (.task self))
    (inCall : system.frames (.task self) = .inCall (direction.call index item ticks) point)
    (start : point = .armed timeout ∨ point = .signaled timeout)
    (outcome : TransferOutcome direction system.cpu system.kernel index ended)
    (after_eq : after = { system with
      kernel := (StepResult.ofProgress memory (.suspended timeout) ended).kernel
      memory := memory }.setFrame (.task self)
        ((StepResult.ofProgress memory (.suspended timeout) ended).outcome.frame
          (direction.call index item ticks)))
    (next : Core after) :
    WakeupsOk index after := by
  have framed : ∀ other, other ≠ self →
      after.frames (.task other) = system.frames (.task other) := by
    intro other different
    rw [after_eq]
    exact System.setFrame_of_ne _ _ different
  have left : ∀ other, other ≠ direction →
      (system.signaledOut other index).erase self = system.signaledOut other index :=
    fun other different => Finset.erase_eq_of_notMem (own_notMem core inCall start different)
  cases outcome with
  | denied context =>
      rcases start with rfl | rfl
      · subst after_eq
        refine wakeups.still core next ?_
        rw [System.view, inCall]
        rfl
      · exact absurd (wakeups.not_denied core ok active inCall) context
  | expired entered empty =>
      subst after_eq
      refine wakeups.exhausted rfl (ok.of_valid entered.valid).magic empty
        (fun other different => ?_) fun _ _ _ => id
      rw [← left other different]
      refine core.signaledFrom_erase next
        (fun task different => System.view_congr (framed task different) rfl) ?_
      rw [System.view_setFrame_self]
      rfl
  | @moved queue kernel entered magic used gained wake =>
      have sameQueue : after.kernel.queues index = queue := by
        rw [after_eq]
        exact wake.queues
      have changed : after.kernel.tasks = kernel.tasks := by
        rw [after_eq]
        rfl
      have others : ∀ task, task ≠ self → after.view task = system.view task ∨
          ∃ reason object, Task.waitsOn reason object (system.kernel.tasks task) = true := by
        intro task different
        rcases wake.tasks_cases task with same | ⟨waits, _⟩
        · exact Or.inl (System.view_congr (framed task different)
            ((congrFun changed task).trans same))
        · exact Or.inr ⟨_, _, waits⟩
      refine wakeups.moves self direction core ?_ ?_ ?_ ?_ ?_ ?_ ?_
      · rw [sameQueue, magic]
        exact (ok.of_valid entered.valid).magic
      · rw [sameQueue, used]
      · rw [sameQueue, gained]
      · exact core.signaledFrom_erase_subset next others
      · rw [← left direction.flip Direction.flip_ne]
        exact core.signaledFrom_erase_subset next others
      · intro other task blocked
        rw [System.BlockedIn, changed] at blocked
        rcases wake.tasks_cases task with same | ⟨_, woken⟩
        · rwa [same] at blocked
        · rw [woken, Task.waitsOn_endWait _ (Kernel.wakeState_ne_blocked _ _)] at blocked
          exact absurd blocked Bool.false_ne_true
      · intro task blocked
        rw [System.BlockedIn, changed] at blocked
        cases wake with
        | unwanted nobody =>
            have registered := core.registered_of_blocked (Task.waitsOn_iff.mp blocked).1
            exact absurd (blocked.symm.trans (nobody task registered)) (by decide)
        | @woken waiter trace _ waits =>
            have woken : after.kernel.tasks waiter = (system.kernel.tasks waiter).endWait
                .signaled ((system.kernel.setQueue index queue).wakeState waiter) := by
              rw [changed]
              exact Function.update_self ..
            exact ⟨waiter, waits, next.mem_signaledFrom.mpr
              (core.fliesFrom_woken active waits framed woken (Kernel.wakeState_ne_blocked _ _))⟩
  | @waits current delay trace entered empty blocks =>
      obtain rfl : self = current := Thread.task.inj (core.active_eq active blocks.currentTask)
      subst after_eq
      refine wakeups.exhausted rfl (ok.of_valid entered.valid).magic empty
        (fun other different => ?_) fun other different task blocked => ?_
      · rw [← left other different]
        refine core.signaledFrom_erase next (fun task different =>
          System.view_congr (framed task different) (Function.update_of_ne different ..)) ?_
        rw [System.view_setFrame_self]
        simp [StepResult.ofProgress, StepResult.goto, Outcome.frame, waitView, Kernel.blockTask,
          Task.beginWait, WaitView.fliesFrom]
      · change Task.waitsOn other.reason (.queue index)
          (Function.update system.kernel.tasks self _ task) = true at blocked
        by_cases mine : task = self
        · subst mine
          rw [Function.update_self] at blocked
          have reason : direction.reason = other.reason := (Task.waitsOn_iff.mp blocked).2.1
          exact absurd (Direction.reason_injective reason).symm different
        · rwa [Function.update_of_ne mine] at blocked

/-- Every step of a loop. -/
theorem advance
    {result : StepResult}
    (wakeups : WakeupsOk index system) (core : Core system) (ok : QueueOk index system)
    (active : system.activeThread = some (.task self))
    (inCall : system.frames (.task self) = .inCall (direction.call index item ticks) point)
    (stepped : (direction.call index item ticks).step cfg system.cpu system.kernel
      system.memory self point = some result) :
    WakeupsOk index ({ system with
      kernel := result.kernel
      memory := result.memory }.setFrame (.task self)
        (result.outcome.frame (direction.call index item ticks))) := by
  have next := core.advance active inCall stepped
  have awake : (system.kernel.tasks self).state ≠ .blocked := by
    rw [core.active_awake active]
    decide
  have view : system.view self = waitView (system.kernel.tasks self)
      (.inCall (direction.call index item ticks) point) := by
    rw [System.view, inCall]
  cases Direction.step_cases ok.of_valid stepped with
  | refuses => exact wakeups.still core next (by rw [view]; rfl)
  | arms => exact wakeups.still core next (by rw [view]; rfl)
  | expires unsignaled =>
      refine wakeups.still core next ?_
      rw [view]
      simp [StepResult.reply, Outcome.frame, waitView, awake, unsignaled]
  | resumes signaled =>
      refine wakeups.still core next ?_
      rw [view]
      simp [StepResult.goto, Outcome.frame, waitView, awake, signaled]
  | @decides _ timeout _ start decided =>
      obtain ⟨ended, written, outcome, rfl⟩ := decided
      have memory : (StepResult.ofProgress written (.suspended timeout) ended).memory =
          written := by
        obtain ⟨kernel, progress⟩ := ended
        cases progress <;> rfl
      rw [memory] at next ⊢
      exact wakeups.decided core ok active inCall start outcome rfl next

end Advance

/-- Before the scheduler starts nobody waits. -/
theorem of_stopped
    (core : Core system) (stopped : system.kernel.running = false) : WakeupsOk index system := by
  have unblocked : ∀ direction task, ¬system.BlockedIn direction index task := by
    intro direction task blocked
    rw [core.running_of_blocked (Task.waitsOn_iff.mp blocked).1] at stopped
    exact absurd stopped (by decide)
  have unsignaled : ∀ direction task, task ∉ system.signaledOut direction index := by
    intro direction task signaled
    have flies := core.mem_signaledFrom.mp signaled
    rw [System.view, core.dormant stopped task] at flies
    exact absurd flies Bool.false_ne_true
  refine ⟨fun direction task blocked => absurd blocked (unblocked direction task), ?_⟩
  rintro direction task (blocked | signaled)
  · exact absurd blocked (unblocked direction task)
  · exact absurd signaled (unsignaled direction task)

theorem initial : WakeupsOk index System.boot :=
  of_stopped Core.initial rfl

/-- A loop changes nothing before the scheduler starts. -/
theorem stopped_loop
    {kernel : Kernel} {memory : Memory} {cpu : Cpu} {slot : Nat} {direction : Direction}
    {item ticks : Word} {point : Point} {result : StepResult}
    (sound : queueStateValidLocked (kernel.queues index) = true → (kernel.queues index).Sound)
    (stepped : (direction.call index item ticks).step cfg cpu kernel memory slot point =
      some result)
    (stopped : kernel.running = false) : result.kernel = kernel := by
  cases Direction.step_cases sound stepped with
  | decides start decided =>
      obtain ⟨ended, written, outcome, rfl⟩ := decided
      cases outcome with
      | denied => rfl
      | expired => rfl
      | moved entered => exact absurd (stopped.symm.trans entered.running) Bool.false_ne_true
      | waits entered => exact absurd (stopped.symm.trans entered.running) Bool.false_ne_true
  | _ => rfl

/-- Every step of a loop, by whichever thread. -/
theorem loop
    {thread : Thread} {direction : Direction} {item ticks : Word} {point : Point}
    {result : StepResult}
    (wakeups : WakeupsOk index system) (core : Core system) (ok : QueueOk index system)
    (active : system.activeThread = some thread)
    (inCall : system.frames thread = .inCall (direction.call index item ticks) point)
    (stepped : (direction.call index item ticks).step cfg system.cpu system.kernel
      system.memory thread.slot point = some result) :
    WakeupsOk index ({ system with
      kernel := result.kernel
      memory := result.memory }.setFrame thread
        (result.outcome.frame (direction.call index item ticks))) := by
  obtain ⟨_, ⟨rfl, stopped⟩ | ⟨self, rfl, _⟩⟩ := core.active_cases active
  · refine of_stopped (core.advance active inCall stepped) ?_
    change result.kernel.running = false
    rw [stopped_loop ok.of_valid stepped stopped]
    exact stopped
  · exact wakeups.advance core ok active inCall stepped

/-- `fr_queue_init` runs before anybody waits, or is refused. -/
theorem configures
    {thread : Thread} {storage capacity itemSize : Word} {point : Point} {result : StepResult}
    (wakeups : WakeupsOk index system) (core : Core system)
    (active : system.activeThread = some thread)
    (inCall : system.frames thread =
      .inCall (.queueInit (some index) storage capacity itemSize) point)
    (stepped : (Call.queueInit (some index) storage capacity itemSize).step cfg system.cpu
      system.kernel system.memory thread.slot point = some result) :
    WakeupsOk index ({ system with
      kernel := result.kernel
      memory := result.memory }.setFrame thread
        (result.outcome.frame (.queueInit (some index) storage capacity itemSize))) := by
  have next := core.advance active inCall stepped
  cases point with
  | entry =>
      obtain rfl := Option.some.inj stepped
      have outcome := queueInit_outcome system.kernel index storage capacity itemSize
      simp only [Option.elim] at next ⊢
      generalize queueInit system.kernel index storage capacity itemSize = ended at outcome next ⊢
      cases outcome with
      | refused =>
          obtain ⟨_, ⟨rfl, stopped⟩ | ⟨self, rfl, _⟩⟩ := core.active_cases active
          · exact of_stopped next stopped
          · refine wakeups.still core next ?_
            rw [System.view, inCall]
            rfl
      | configured stopped => exact of_stopped next stopped
  | _ => exact absurd stepped (by simp [Call.step, atomicStep])

theorem step
    (wakeups : WakeupsOk index system) (core : Core system) (ok : QueueOk index system)
    (step : system.step cfg action = some (after, events)) : WakeupsOk index after := by
  cases core.objectStep step (.queue index) with
  | untouched same => exact wakeups.untouched core (core.step step) same
  | @advance thread call point result active inCall mine stepped =>
      rcases Call.queue_cases mine with ⟨storage, capacity, itemSize, rfl⟩ |
        ⟨item, ticks, rfl⟩ | ⟨item, ticks, rfl⟩
      · exact wakeups.configures core active inCall stepped
      · rw [Direction.call_send] at inCall stepped ⊢
        exact wakeups.loop core ok active inCall stepped
      · rw [Direction.call_receive] at inCall stepped ⊢
        exact wakeups.loop core ok active inCall stepped

theorem of_run
    {allowed : System → Action → Prop} (index : Nat)
    (run : (forge cfg).Run allowed events system) : WakeupsOk index system :=
  (run.stateInvariant (motive := fun system =>
      Core system ∧ QueueOk index system ∧ WakeupsOk index system)
    ⟨Core.initial, QueueOk.initial, WakeupsOk.initial⟩
    fun _ _ _ _ held _ stepped =>
      ⟨held.1.step stepped, held.2.1.step held.1 stepped,
        held.2.2.step held.1 held.2.1 stepped⟩).2.2

end WakeupsOk

/-- A task blocked in a queue loop leaves nothing behind that no signaled task is about
to use. -/
theorem no_lost_queue_wakeup
    {cfg : Config} {events : List Event} {system : System}
    (run : Run cfg events system) (index : Nat) :
    (∀ task, (system.kernel.tasks task).state = .blocked →
      (system.kernel.tasks task).waitReason = .queueReceive →
      (system.kernel.tasks task).waitObject = some (.queue index) →
      (system.kernel.queues index).count.toNat ≤
        (system.signaledFrom .queueReceive (.queue index)).card ∧
      (system.signaledFrom .queueReceive (.queue index) = ∅ →
        (system.kernel.queues index).count = 0)) ∧
    (∀ task, (system.kernel.tasks task).state = .blocked →
      (system.kernel.tasks task).waitReason = .queueSend →
      (system.kernel.tasks task).waitObject = some (.queue index) →
      (system.kernel.queues index).count.toNat ≤ (system.kernel.queues index).capacity.toNat ∧
      (system.kernel.queues index).capacity.toNat - (system.kernel.queues index).count.toNat ≤
        (system.signaledFrom .queueSend (.queue index)).card ∧
      (system.signaledFrom .queueSend (.queue index) = ∅ →
        (system.kernel.queues index).count = (system.kernel.queues index).capacity)) := by
  have core := Core.of_run run
  have ok := QueueOk.of_run index run
  have wakeups := WakeupsOk.of_run index run
  have blockedIn : ∀ direction task, (system.kernel.tasks task).state = .blocked →
      (system.kernel.tasks task).waitReason = direction.reason →
      (system.kernel.tasks task).waitObject = some (.queue index) →
      system.BlockedIn direction index task := fun direction task blocked reason object =>
    Task.waitsOn_iff.mpr ⟨blocked, reason, (core.slots task).pending blocked, object⟩
  refine ⟨fun task blocked reason object => ?_, fun task blocked reason object => ?_⟩
  · have waits := blockedIn .receive task blocked reason object
    have bounded := wakeups.matched .receive task waits
    refine ⟨bounded, fun nobody => ?_⟩
    rw [System.signaledOut, Direction.reason, nobody, Finset.card_empty, Nat.le_zero] at bounded
    exact BitVec.eq_of_toNat_eq bounded
  · have waits := blockedIn .send task blocked reason object
    have bounded := wakeups.matched .send task waits
    have sound := ok.sound (wakeups.ready .send task (Or.inl waits))
    refine ⟨sound.count_le, bounded, fun nobody => ?_⟩
    rw [System.signaledOut, Direction.reason, nobody, Finset.card_empty, Nat.le_zero] at bounded
    exact BitVec.eq_of_toNat_eq
      (Nat.le_antisymm sound.count_le (Nat.le_of_sub_eq_zero bounded))

/-- Two receivers block, and the third task sends one item. -/
def wakeupProgram : List Action :=
  Action.bootProgram [.queueInit (some 0) 0x20008000#32 2 1] [3, 2, 1] ++
    ([.invoke (.queueReceiveWait (some 0) 512 waitForever), .advance, .advance, .switchFrom 0,
       .invoke (.queueReceiveWait (some 0) 768 waitForever), .advance, .advance, .switchFrom 1,
       .invoke (.queueSend (some 0) 256), .advance, .advance] : List Action)

/-- The second receiver stays blocked on a queue with an item, which the first one has
been signaled to take. -/
theorem item_has_signaled_receiver :
    ∃ events system, Run Config.default events system ∧
      (system.kernel.tasks 1).state = .blocked ∧
      (system.kernel.queues 0).count = 1 ∧
      0 < (system.signaledFrom .queueReceive (.queue 0)).card := by
  obtain ⟨events, system, run, checked⟩ :=
    Machine.RunFrom.exists_of_execFrom (forge Config.default) Machine.anyStep System.boot
      wakeupProgram (fun _ system =>
        decide ((system.kernel.tasks 1).state = .blocked ∧
          (system.kernel.tasks 1).waitReason = .queueReceive ∧
          (system.kernel.tasks 1).waitObject = some (.queue 0) ∧
          (system.kernel.queues 0).count = 1))
      (by decide +kernel)
  obtain ⟨blocked, reason, object, count⟩ := of_decide_eq_true checked
  have bounded := ((no_lost_queue_wakeup run 0).1 1 blocked reason object).1
  rw [count] at bounded
  exact ⟨events, system, run, blocked, count, bounded⟩

end ForgeKernel
