import ForgeKernel.Library.Ring
import ForgeKernel.Invariant.Waits

/-!
# Queues

The ring of an initialized queue is sound in every reachable state, and the two
transfers append and remove items of the list that the ring holds.
-/

namespace ForgeKernel

open Machines

/-! ## Copying bytes -/

/-- A copy changes the bytes of its destination only. -/
theorem queueCopyBytes_apply
    (destination : Nat → Byte) (base : Nat) (source : Nat → Byte) (sourceBase size address : Nat) :
    queueCopyBytes destination base source sourceBase size address =
      if base ≤ address ∧ address < base + size then source (sourceBase + (address - base))
      else destination address := by
  induction size with
  | zero =>
      rw [if_neg (by omega)]
      rfl
  | succ size inductionHypothesis =>
      have last : queueCopyBytes destination base source sourceBase (size + 1) =
          Function.update (queueCopyBytes destination base source sourceBase size) (base + size)
            (source (sourceBase + size)) := by
        simp [queueCopyBytes, List.range_succ]
      rw [last]
      by_cases here : address = base + size
      · subst here
        rw [Function.update_self, if_pos (by omega), Nat.add_sub_cancel_left]
      · rw [Function.update_of_ne here, inductionHypothesis]
        by_cases inside : base ≤ address ∧ address < base + size
        · rw [if_pos inside, if_pos (by omega)]
        · rw [if_neg inside, if_neg (by omega)]

/-- Reading back what was copied. -/
theorem readBytes_copied
    (destination : Nat → Byte) (base : Nat) (source : Nat → Byte) (sourceBase size : Nat) :
    readBytes (queueCopyBytes destination base source sourceBase size) base size =
      readBytes source sourceBase size := by
  apply List.map_congr_left
  intro offset inside
  have small : offset < size := List.mem_range.mp inside
  rw [queueCopyBytes_apply, if_pos (by omega), Nat.add_sub_cancel_left]

/-- Copying elsewhere changes nothing. -/
theorem readBytes_separate
    {destination : Nat → Byte} {base : Nat} {source : Nat → Byte}
    {sourceBase size address length : Nat}
    (separate : ∀ offset < length,
      ¬(base ≤ address + offset ∧ address + offset < base + size)) :
    readBytes (queueCopyBytes destination base source sourceBase size) address length =
      readBytes destination address length := by
  apply List.map_congr_left
  intro offset inside
  rw [queueCopyBytes_apply, if_neg (separate offset (List.mem_range.mp inside))]

/-! ## Sound rings -/

namespace Queue

/-- The bytes of one slot. -/
def slot (queue : Queue) (position : Nat) : List Byte :=
  readBytes queue.bytes (position * queue.itemSize.toNat) queue.itemSize.toNat

/-- The items in the queue, oldest first. -/
def items (queue : Queue) : List (List Byte) :=
  Rings.contents queue.capacity.toNat queue.head.toNat queue.count.toNat queue.slot

/-- An initialized queue with sound indices and sizes. -/
structure Sound (queue : Queue) : Prop where
  magic : queue.magic = queueMagic
  storage : queue.storage ≠ 0
  capacity_pos : 0 < queue.capacity.toNat
  itemSize_pos : 0 < queue.itemSize.toNat
  fits : queue.capacity.toNat * queue.itemSize.toNat < 2 ^ 32
  head_lt : queue.head.toNat < queue.capacity.toNat
  count_le : queue.count.toNat ≤ queue.capacity.toNat
  tail_eq : queue.tail.toNat = (queue.head.toNat + queue.count.toNat) % queue.capacity.toNat

end Queue

/-- The overflow check of the source, without division. -/
theorem capacity_fits_iff {capacity itemSize : Word} (positive : 0 < itemSize.toNat) :
    ¬0xFFFFFFFF#32 / itemSize < capacity ↔ capacity.toNat * itemSize.toNat < 2 ^ 32 := by
  rw [BitVec.lt_def, BitVec.toNat_udiv, Nat.not_lt, Nat.le_div_iff_mul_le positive]
  exact Nat.lt_succ_iff.symm

/-- The next index of a ring, without wrap-around of the word. -/
theorem queueNextIndex_toNat {index capacity : Word} (small : index.toNat < capacity.toNat) :
    (queueNextIndex index capacity).toNat = (index.toNat + 1) % capacity.toNat := by
  have bound := capacity.isLt
  have next : (index + 1).toNat = index.toNat + 1 := by
    rw [BitVec.toNat_add]
    exact Nat.mod_eq_of_lt (by simpa using (by omega : index.toNat + 1 < 2 ^ 32))
  rw [Rings.succ_mod small]
  unfold queueNextIndex
  by_cases last : index + 1 = capacity
  · rw [if_pos last, if_pos (by rw [← last, next])]
    rfl
  · rw [if_neg last, if_neg, next]
    intro same
    exact last (BitVec.eq_of_toNat_eq (next.trans same))

namespace Queue.Sound

variable {queue : Queue}

theorem tail_lt (sound : queue.Sound) : queue.tail.toNat < queue.capacity.toNat := by
  rw [sound.tail_eq]
  exact Nat.mod_lt _ sound.capacity_pos

/-- Offsets of slots do not wrap. -/
theorem offset_toNat
    (sound : queue.Sound) {index : Word} (small : index.toNat < queue.capacity.toNat) :
    (index * queue.itemSize).toNat = index.toNat * queue.itemSize.toNat := by
  have below := Rings.cell_lt small sound.itemSize_pos
  have fits := sound.fits
  rw [BitVec.toNat_mul]
  exact Nat.mod_eq_of_lt (by omega)

/-- A sound queue passes the check of `fr_queue_state_valid_locked`. -/
theorem valid (sound : queue.Sound) : queueStateValidLocked queue = true := by
  have capacity : queue.capacity ≠ 0 := fun zero => by
    have positive := sound.capacity_pos
    simp [zero] at positive
  have itemSize : queue.itemSize ≠ 0 := fun zero => by
    have positive := sound.itemSize_pos
    simp [zero] at positive
  have fits := (capacity_fits_iff sound.itemSize_pos).mpr sound.fits
  unfold queueStateValidLocked
  rw [if_neg, if_neg fits]
  · exact decide_eq_true ⟨sound.head_lt, sound.tail_lt, sound.count_le⟩
  · rintro (magic | storage | zero | zero)
    · exact magic sound.magic
    · exact sound.storage storage
    · exact capacity zero
    · exact itemSize zero

/-- Counting an item up does not overflow while there is room. -/
theorem count_succ
    (sound : queue.Sound) (room : queue.count ≠ queue.capacity) :
    queue.count.toNat < queue.capacity.toNat ∧
      (queue.count + 1).toNat = queue.count.toNat + 1 := by
  have bound := queue.capacity.isLt
  have less : queue.count.toNat < queue.capacity.toNat :=
    lt_of_le_of_ne sound.count_le fun same => room (BitVec.eq_of_toNat_eq same)
  refine ⟨less, ?_⟩
  rw [BitVec.toNat_add]
  exact Nat.mod_eq_of_lt (by simpa using (by omega : queue.count.toNat + 1 < 2 ^ 32))

theorem count_pred (present : queue.count ≠ 0) :
    queue.count.toNat = (queue.count - 1).toNat + 1 := by
  have positive : queue.count.toNat ≠ 0 := fun zero => present (BitVec.eq_of_toNat_eq zero)
  have bound := queue.count.isLt
  have small : (1 : Word).toNat = 1 := rfl
  rw [BitVec.toNat_sub, small]
  omega

/-- A queue with room stays sound when an item is pushed. -/
theorem pushed
    (sound : queue.Sound) (room : queue.count ≠ queue.capacity) (memory : Memory) (item : Word) :
    (queue.pushed memory item).Sound := by
  obtain ⟨less, succ⟩ := sound.count_succ room
  refine ⟨sound.magic, sound.storage, sound.capacity_pos, sound.itemSize_pos, sound.fits,
    sound.head_lt, ?_, ?_⟩
  · change (queue.count + 1).toNat ≤ queue.capacity.toNat
    omega
  · change (queueNextIndex queue.tail queue.capacity).toNat =
      (queue.head.toNat + (queue.count + 1).toNat) % queue.capacity.toNat
    rw [queueNextIndex_toNat sound.tail_lt, sound.tail_eq, succ, Nat.mod_add_mod]
    rfl

/-- A queue with an item stays sound when it is popped. -/
theorem popped (sound : queue.Sound) (present : queue.count ≠ 0) : queue.popped.Sound := by
  have pred := count_pred present
  have bounded := sound.count_le
  refine ⟨sound.magic, sound.storage, sound.capacity_pos, sound.itemSize_pos, sound.fits,
    ?_, ?_, ?_⟩
  · change (queueNextIndex queue.head queue.capacity).toNat < queue.capacity.toNat
    rw [queueNextIndex_toNat sound.head_lt]
    exact Nat.mod_lt _ sound.capacity_pos
  · change (queue.count - 1).toNat ≤ queue.capacity.toNat
    omega
  · change queue.tail.toNat =
      ((queueNextIndex queue.head queue.capacity).toNat + (queue.count - 1).toNat) %
        queue.capacity.toNat
    rw [queueNextIndex_toNat sound.head_lt, Nat.mod_add_mod, sound.tail_eq, pred]
    congr 1
    omega

/-- A send appends the bytes of the sender's buffer. -/
theorem items_pushed
    (sound : queue.Sound) (room : queue.count ≠ queue.capacity) (memory : Memory) (item : Word) :
    (queue.pushed memory item).items =
      queue.items ++ [readBytes memory item.toNat queue.itemSize.toNat] := by
  obtain ⟨less, succ⟩ := sound.count_succ room
  have offset := sound.offset_toNat sound.tail_lt
  change Rings.contents queue.capacity.toNat queue.head.toNat (queue.count + 1).toNat
    (queue.pushed memory item).slot = _
  rw [succ]
  apply Rings.contents_push less
  · rw [← sound.tail_eq]
    change readBytes (queueCopyBytes queue.bytes (queue.tail * queue.itemSize).toNat memory
      item.toNat queue.itemSize.toNat) (queue.tail.toNat * queue.itemSize.toNat)
        queue.itemSize.toNat = _
    rw [offset, readBytes_copied]
  · intro position other _
    rw [← sound.tail_eq] at other
    change readBytes (queueCopyBytes queue.bytes (queue.tail * queue.itemSize).toNat memory
      item.toNat queue.itemSize.toNat) (position * queue.itemSize.toNat)
        queue.itemSize.toNat = _
    rw [offset]
    apply readBytes_separate
    intro cell inside
    exact Rings.cell_separate other inside

/-- A receive removes the oldest item, which is the slot at the head. -/
theorem items_popped (sound : queue.Sound) (present : queue.count ≠ 0) :
    queue.items = queue.slot queue.head.toNat :: queue.popped.items := by
  have pred := count_pred present
  have popped : queue.popped.items = Rings.contents queue.capacity.toNat
      (queueNextIndex queue.head queue.capacity).toNat (queue.count - 1).toNat queue.slot := rfl
  rw [popped, queueNextIndex_toNat sound.head_lt, Queue.items, pred,
    Rings.contents_pop queue.slot sound.head_lt]

end Queue.Sound

/-! ## Steps of the queue calls -/

/-- Steps of a queue loop around its critical section. -/
inductive LoopStep
    (kernel : Kernel) (memory : Memory) (self : Nat)
    (decides : WaitTimeout → StepResult → Prop) : Point → StepResult → Prop
  | refuses :
      LoopStep kernel memory self decides .entry (.reply kernel memory (.bool false))
  | arms {timeout : WaitTimeout} :
      LoopStep kernel memory self decides .entry (.goto kernel memory (.armed timeout))
  | decides {point : Point} {timeout : WaitTimeout} {result : StepResult}
      (start : point = .armed timeout ∨ point = .signaled timeout)
      (decided : decides timeout result) :
      LoopStep kernel memory self decides point result
  | expires {timeout : WaitTimeout}
      (unsignaled : (kernel.tasks self).waitResult ≠ .signaled) :
      LoopStep kernel memory self decides (.suspended timeout)
        (.reply kernel memory (.bool false))
  | resumes {timeout : WaitTimeout}
      (signaled : (kernel.tasks self).waitResult = .signaled) :
      LoopStep kernel memory self decides (.suspended timeout)
        (.goto kernel memory (.signaled timeout))

section Loops

variable {cfg : Config} {cpu : Cpu} {kernel : Kernel} {memory : Memory} {self index : Nat}
  {item timeoutTicks : Word} {point : Point} {result : StepResult}
  {decides : WaitTimeout → StepResult → Prop}

theorem queueEntryStep_loop {queue : Option Nat} :
    LoopStep kernel memory self decides .entry
      (queueEntryStep cpu kernel memory queue item timeoutTicks) := by
  unfold queueEntryStep
  split
  · exact .refuses
  · unfold StepResult.arm
    split
    · split
      · exact .arms
      · exact .refuses
    · exact .refuses

theorem queueResumeStep_loop {timeout : WaitTimeout} :
    LoopStep kernel memory self decides (.suspended timeout)
      (queueResumeStep kernel memory self timeout) := by
  unfold queueResumeStep
  split
  · rename_i signaled
    exact .resumes signaled
  all_goals
    rename_i unsignaled
    exact .expires (by simp [unsignaled])

/-- A step of a send runs its section, or only moves on. -/
theorem queueSendStep_cases
    (stepped : (Call.queueSendWait (some index) item timeoutTicks).step cfg cpu kernel memory
      self point = some result) :
    LoopStep kernel memory self (fun timeout result =>
      ∃ ended, SendOutcome cpu kernel memory index item timeout ended ∧
        result = .ofProgress memory (.suspended timeout) ended) point result := by
  change queueSendStep cpu kernel memory self (some index) item timeoutTicks point =
    some result at stepped
  cases point with
  | entry =>
      obtain rfl := Option.some.inj stepped
      exact queueEntryStep_loop
  | armed timeout =>
      obtain rfl := Option.some.inj stepped
      exact .decides (Or.inl rfl) ⟨_, queueSendSection_outcome .., rfl⟩
  | signaled timeout =>
      obtain rfl := Option.some.inj stepped
      exact .decides (Or.inr rfl) ⟨_, queueSendSection_outcome .., rfl⟩
  | suspended timeout =>
      obtain rfl := Option.some.inj stepped
      exact queueResumeStep_loop
  | _ => exact absurd stepped (by simp [queueSendStep])

/-- A step of a receive runs its section, or only moves on. -/
theorem queueReceiveStep_cases
    (stepped : (Call.queueReceiveWait (some index) item timeoutTicks).step cfg cpu kernel memory
      self point = some result) :
    LoopStep kernel memory self (fun timeout result =>
      ∃ ended, ReceiveOutcome cpu kernel memory index item timeout ended ∧
        result = .ofProgress ended.2.1 (.suspended timeout) (ended.1, ended.2.2))
      point result := by
  change queueReceiveStep cpu kernel memory self (some index) item timeoutTicks point =
    some result at stepped
  cases point with
  | entry =>
      obtain rfl := Option.some.inj stepped
      exact queueEntryStep_loop
  | armed timeout =>
      obtain rfl := Option.some.inj stepped
      exact .decides (Or.inl rfl) ⟨_, queueReceiveSection_outcome .., rfl⟩
  | signaled timeout =>
      obtain rfl := Option.some.inj stepped
      exact .decides (Or.inr rfl) ⟨_, queueReceiveSection_outcome .., rfl⟩
  | suspended timeout =>
      obtain rfl := Option.some.inj stepped
      exact queueResumeStep_loop
  | _ => exact absurd stepped (by simp [queueReceiveStep])

end Loops

/-- The three kinds of calls on a queue. -/
theorem Call.queue_cases {call : Call} {index : Nat} (mine : call.object = some (.queue index)) :
    (∃ storage capacity itemSize, call = .queueInit (some index) storage capacity itemSize) ∨
      (∃ item ticks, call = .queueSendWait (some index) item ticks) ∨
      (∃ item ticks, call = .queueReceiveWait (some index) item ticks) := by
  cases call <;> simp_all [Call.object]

/-- Outcomes of `fr_queue_init`. -/
inductive QueueInitOutcome
    (kernel : Kernel) (index : Nat) (storage capacity itemSize : Word) :
    Kernel × Bool → Prop
  | refused : QueueInitOutcome kernel index storage capacity itemSize (kernel, false)
  | configured {queue : Queue}
      (stopped : kernel.running = false)
      (sound : queue.Sound)
      (empty : queue.count = 0)
      (capacity_eq : queue.capacity = capacity)
      (itemSize_eq : queue.itemSize = itemSize)
      (bytes_eq : queue.bytes = (kernel.queues index).bytes) :
      QueueInitOutcome kernel index storage capacity itemSize
        (kernel.setQueue index queue, true)

/-- `fr_queue_init`, case by case. -/
theorem queueInit_outcome
    (kernel : Kernel) (index : Nat) (storage capacity itemSize : Word) :
    QueueInitOutcome kernel index storage capacity itemSize
      (queueInit kernel index storage capacity itemSize) := by
  unfold queueInit
  split
  · exact .refused
  · rename_i accepted
    simp only [not_or, Bool.not_eq_true] at accepted
    obtain ⟨stored, someCapacity, someSize, fits, stopped⟩ := accepted
    have capacity_pos : 0 < capacity.toNat :=
      Nat.pos_of_ne_zero fun zero => someCapacity (BitVec.eq_of_toNat_eq zero)
    have itemSize_pos : 0 < itemSize.toNat :=
      Nat.pos_of_ne_zero fun zero => someSize (BitVec.eq_of_toNat_eq zero)
    refine .configured stopped ⟨rfl, stored, capacity_pos, itemSize_pos,
      (capacity_fits_iff itemSize_pos).mp fits, capacity_pos, Nat.zero_le _, ?_⟩ rfl rfl rfl rfl
    exact (Nat.zero_mod _).symm

/-! ## What a step does to a queue -/

/-- Events that go with a change of the queue. -/
def Event.moves (index : Nat) : Event → Bool
  | .sent _ queue _ | .received _ queue _ => queue = index
  | .returned _ (.queueInit (some queue) _ _ _) (.bool true) => queue = index
  | _ => false

/-- Events about other objects move no item of this queue. -/
theorem Event.moves_of_silent
    {index : Nat} {event : Event} (silent : event.about (.queue index) = false) :
    event.moves index = false := by
  unfold Event.moves
  split
  · simpa [Event.about, eq_comm] using silent
  · simpa [Event.about, eq_comm] using silent
  · simpa [Event.about, Call.object] using silent
  · rfl

/-- A step leaves the queue alone, initializes it, or moves one item. -/
inductive QueueMove (index : Nat) (before after : System) : List Event → Prop
  | keeps {events : List Event}
      (same : after.kernel.queues index = before.kernel.queues index)
      (silent : ∀ event ∈ events, event.moves index = false) :
      QueueMove index before after events
  | configures {thread : Thread} {storage capacity itemSize : Word}
      (stopped : before.kernel.running = false)
      (sound : (after.kernel.queues index).Sound)
      (empty : (after.kernel.queues index).count = 0)
      (capacity_eq : (after.kernel.queues index).capacity = capacity)
      (itemSize_eq : (after.kernel.queues index).itemSize = itemSize)
      (bytes_eq : (after.kernel.queues index).bytes = (before.kernel.queues index).bytes) :
      QueueMove index before after
        [.returned thread (.queueInit (some index) storage capacity itemSize) (.bool true)]
  | sends {thread : Thread} {item ticks : Word}
      (active : before.activeThread = some thread)
      (running : before.kernel.running = true)
      (valid : queueStateValidLocked (before.kernel.queues index) = true)
      (room : (before.kernel.queues index).count ≠ (before.kernel.queues index).capacity)
      (same : after.kernel.queues index =
        (before.kernel.queues index).pushed before.memory item) :
      QueueMove index before after
        [.sent thread index (readBytes before.memory item.toNat
            (before.kernel.queues index).itemSize.toNat),
          .returned thread (.queueSendWait (some index) item ticks) (.bool true)]
  | receives {thread : Thread} {item ticks : Word}
      (active : before.activeThread = some thread)
      (running : before.kernel.running = true)
      (valid : queueStateValidLocked (before.kernel.queues index) = true)
      (present : (before.kernel.queues index).count ≠ 0)
      (same : after.kernel.queues index = (before.kernel.queues index).popped)
      (memory : after.memory = queueCopyBytes before.memory item.toNat
        (before.kernel.queues index).bytes
        ((before.kernel.queues index).head * (before.kernel.queues index).itemSize).toNat
        (before.kernel.queues index).itemSize.toNat) :
      QueueMove index before after
        [.received thread index (readBytes after.memory item.toNat
            (before.kernel.queues index).itemSize.toNat),
          .returned thread (.queueReceiveWait (some index) item ticks) (.bool true)]

/-- The queue that a wake-up leaves behind. -/
theorem WakeOutcome.queues
    {kernel : Kernel} {reason : WaitReason} {index : Nat} {queue : Queue} {after : Kernel}
    (wake : WakeOutcome (kernel.setQueue index queue) reason index after) :
    after.queues index = queue := by
  rw [wake.wakes.2.queues]
  exact Function.update_self ..

/-- Every step of the system, seen from one queue. -/
theorem Core.queueMove
    {cfg : Config} {system after : System} {action : Action} {events : List Event}
    (core : Core system) (step : system.step cfg action = some (after, events)) (index : Nat) :
    QueueMove index system after events := by
  cases core.objectStep step (.queue index) with
  | untouched same =>
      exact .keeps same.data fun event present => Event.moves_of_silent (same.events event present)
  | @advance thread call point result active inCall mine stepped =>
      rcases Call.queue_cases mine with ⟨storage, capacity, itemSize, rfl⟩ |
        ⟨item, ticks, rfl⟩ | ⟨item, ticks, rfl⟩
      · cases point with
        | entry =>
            obtain rfl := Option.some.inj stepped
            have outcome := queueInit_outcome system.kernel index storage capacity itemSize
            simp only [Option.elim]
            generalize queueInit system.kernel index storage capacity itemSize = ended at *
            cases outcome with
            | refused =>
                refine .keeps rfl ?_
                simp [observe, StepResult.reply, Outcome.returns, Event.moves]
            | configured stopped sound empty capacity_eq itemSize_eq bytes_eq =>
                have own : ∀ queue, (system.kernel.setQueue index queue).queues index = queue :=
                  fun _ => Function.update_self ..
                refine .configures stopped ?_ ?_ ?_ ?_ ?_ <;>
                  simp only [System.setFrame, StepResult.reply, own] <;> assumption
        | _ => exact absurd stepped (by simp [Call.step, atomicStep])
      · cases queueSendStep_cases stepped with
        | decides _ decided =>
            obtain ⟨ended, outcome, rfl⟩ := decided
            cases outcome with
            | denied => exact .keeps rfl (by simp [observe, StepResult.ofProgress,
                StepResult.reply, Outcome.returns, Event.moves])
            | expired => exact .keeps rfl (by simp [observe, StepResult.ofProgress,
                StepResult.reply, Outcome.returns, Event.moves])
            | sent entered room wake =>
                exact .sends active entered.running entered.valid room wake.queues
            | waits => exact .keeps rfl (by simp [observe, StepResult.ofProgress,
                StepResult.goto, Outcome.returns])
        | _ => exact .keeps rfl (by simp [observe, StepResult.reply, StepResult.goto,
            Outcome.returns, Event.moves])
      · cases queueReceiveStep_cases stepped with
        | decides _ decided =>
            obtain ⟨ended, outcome, rfl⟩ := decided
            cases outcome with
            | denied => exact .keeps rfl (by simp [observe, StepResult.ofProgress,
                StepResult.reply, Outcome.returns, Event.moves])
            | expired => exact .keeps rfl (by simp [observe, StepResult.ofProgress,
                StepResult.reply, Outcome.returns, Event.moves])
            | received entered present wake =>
                exact .receives active entered.running entered.valid present wake.queues rfl
            | waits => exact .keeps rfl (by simp [observe, StepResult.ofProgress,
                StepResult.goto, Outcome.returns])
        | _ => exact .keeps rfl (by simp [observe, StepResult.reply, StepResult.goto,
            Outcome.returns, Event.moves])

/-- The state of a queue: initialized with a sound ring, or untouched since reset. -/
structure QueueOk (index : Nat) (system : System) : Prop where
  sound : (system.kernel.queues index).magic = queueMagic → (system.kernel.queues index).Sound
  blank : (system.kernel.queues index).magic ≠ queueMagic →
    (system.kernel.queues index).count = 0
  stopped : system.kernel.running = false → (system.kernel.queues index).count = 0

namespace QueueOk

variable {cfg : Config} {index : Nat} {system after : System} {action : Action}
  {events : List Event}

/-- A queue that passes the check is sound. -/
theorem of_valid
    (ok : QueueOk index system)
    (valid : queueStateValidLocked (system.kernel.queues index) = true) :
    (system.kernel.queues index).Sound := by
  refine ok.sound ?_
  unfold queueStateValidLocked at valid
  split at valid
  · exact absurd valid Bool.false_ne_true
  · rename_i checked
    by_contra magic
    exact checked (Or.inl magic)

/-- The invariant holds when boot code starts. -/
theorem initial : QueueOk index System.boot :=
  ⟨fun magic => absurd (show (0 : Word) = queueMagic from magic) (by decide), fun _ => rfl,
    fun _ => rfl⟩

/-- Every step of the system keeps it. -/
theorem step
    (ok : QueueOk index system) (core : Core system)
    (step : system.step cfg action = some (after, events)) : QueueOk index after := by
  have started : after.kernel.running = false → system.kernel.running = false := by
    intro stopped
    by_contra running
    rw [core.running_step step (by simpa using running)] at stopped
    exact absurd stopped (by decide)
  cases core.queueMove step index with
  | keeps same =>
      refine ⟨?_, ?_, ?_⟩
      · rw [same]
        exact ok.sound
      · rw [same]
        exact ok.blank
      · rw [same]
        exact fun stopped => ok.stopped (started stopped)
  | configures _ sound empty =>
      exact ⟨fun _ => sound, fun _ => empty, fun _ => empty⟩
  | @sends thread item ticks _ running valid room same =>
      have sound := (ok.of_valid valid).pushed room system.memory item
      rw [← same] at sound
      refine ⟨fun _ => sound, fun magic => absurd sound.magic magic, fun stopped => ?_⟩
      rw [started stopped] at running
      exact absurd running Bool.false_ne_true
  | receives _ running valid present same =>
      have sound := (ok.of_valid valid).popped present
      rw [← same] at sound
      refine ⟨fun _ => sound, fun magic => absurd sound.magic magic, fun stopped => ?_⟩
      rw [started stopped] at running
      exact absurd running Bool.false_ne_true

/-- It holds along every run. -/
theorem of_run
    {allowed : System → Action → Prop} (index : Nat)
    (run : (forge cfg).Run allowed events system) : QueueOk index system :=
  (run.stateInvariant (motive := fun system => Core system ∧ QueueOk index system)
    ⟨Core.initial, QueueOk.initial⟩
    fun _ _ _ _ held _ stepped => ⟨held.1.step stepped, held.2.step held.1 stepped⟩).2

end QueueOk

end ForgeKernel
