import ForgeKernel.Invariant.Queues

/-!
# Queues are bounded first-in first-out buffers

The byte strings sent to a queue are those received from it, in the same order,
followed by the items that the ring still holds.
-/

namespace ForgeKernel

open Machines

/-! ## Transfers and configuration, read from the events -/

/-- The item that an event appends to a queue. -/
def Event.sentTo (index : Nat) : Event → Option (List Byte)
  | .sent _ queue bytes => if queue = index then some bytes else none
  | _ => none

/-- The item that an event takes from a queue. -/
def Event.receivedFrom (index : Nat) : Event → Option (List Byte)
  | .received _ queue bytes => if queue = index then some bytes else none
  | _ => none

/-- Items of the successful sends, in the order of their critical sections. -/
def sentItems (index : Nat) (events : List Event) : List (List Byte) :=
  events.filterMap (Event.sentTo index)

/-- Items of the successful receives, in the order of their critical sections. -/
def receivedItems (index : Nat) (events : List Event) : List (List Byte) :=
  events.filterMap (Event.receivedFrom index)

/-- Capacity and item size after one more event. -/
def Event.configures (index : Nat) (shape : Option (Word × Word)) :
    Event → Option (Word × Word)
  | .returned _ (.queueInit (some queue) _ capacity itemSize) (.bool true) =>
      if queue = index then some (capacity, itemSize) else shape
  | _ => shape

/-- Capacity and item size of the last successful `fr_queue_init`. -/
def queueShape (index : Nat) (events : List Event) : Option (Word × Word) :=
  events.foldl (Event.configures index) none

section Events

variable {index : Nat} {events : List Event}

@[simp] theorem sentItems_nil : sentItems index [] = [] := rfl

@[simp] theorem receivedItems_nil : receivedItems index [] = [] := rfl

@[simp] theorem sentItems_cons (event : Event) :
    sentItems index (event :: events) =
      (event.sentTo index).toList ++ sentItems index events := by
  unfold sentItems
  cases moved : event.sentTo index <;> simp [moved]

@[simp] theorem receivedItems_cons (event : Event) :
    receivedItems index (event :: events) =
      (event.receivedFrom index).toList ++ receivedItems index events := by
  unfold receivedItems
  cases moved : event.receivedFrom index <;> simp [moved]

theorem Event.sentTo_of_still {event : Event} (still : event.moves index = false) :
    event.sentTo index = none := by
  unfold Event.sentTo
  split
  · exact if_neg (of_decide_eq_false still)
  · rfl

theorem Event.receivedFrom_of_still {event : Event} (still : event.moves index = false) :
    event.receivedFrom index = none := by
  unfold Event.receivedFrom
  split
  · exact if_neg (of_decide_eq_false still)
  · rfl

theorem Event.configures_of_still
    {event : Event} (still : event.moves index = false) (shape : Option (Word × Word)) :
    event.configures index shape = shape := by
  unfold Event.configures
  split
  · exact if_neg (of_decide_eq_false still)
  · rfl

/-- Events that move nothing send nothing. -/
theorem sentItems_of_still (still : ∀ event ∈ events, event.moves index = false) :
    sentItems index events = [] :=
  List.filterMap_eq_nil_iff.mpr fun event present => Event.sentTo_of_still (still event present)

/-- Nor do they receive anything. -/
theorem receivedItems_of_still (still : ∀ event ∈ events, event.moves index = false) :
    receivedItems index events = [] :=
  List.filterMap_eq_nil_iff.mpr fun event present =>
    Event.receivedFrom_of_still (still event present)

theorem queueShape_of_still
    (still : ∀ event ∈ events, event.moves index = false) (shape : Option (Word × Word)) :
    events.foldl (Event.configures index) shape = shape :=
  Scans.foldl_invariant (motive := (· = shape)) events shape rfl
    fun entry event present same =>
      (Event.configures_of_still (still event present) entry).trans same

end Events

/-! ## The invariant -/

/-- The queue is what the events say. -/
structure FifoOk (index : Nat) (events : List Event) (system : System) : Prop where
  shaped : ∀ capacity itemSize, queueShape index events = some (capacity, itemSize) →
    (system.kernel.queues index).capacity = capacity ∧
      (system.kernel.queues index).itemSize = itemSize ∧ (system.kernel.queues index).Sound
  unshaped : queueShape index events = none →
    (system.kernel.queues index).magic ≠ queueMagic ∧ sentItems index events = []
  balance : sentItems index events =
    receivedItems index events ++ (system.kernel.queues index).items

namespace FifoOk

variable {cfg : Config} {index : Nat} {events emitted : List Event} {system after : System}
  {action : Action}

/-- Before the first transfer the streams are empty. -/
theorem initial : FifoOk index [] System.boot where
  shaped _ _ none := absurd none (by simp [queueShape])
  unshaped _ := ⟨show (0 : Word) ≠ queueMagic by decide, rfl⟩
  balance := rfl

theorem items_of_empty {queue : Queue} (empty : queue.count = 0) : queue.items = [] := by
  rw [Queue.items, empty]
  rfl

/-- Before the scheduler starts nothing has been transferred. -/
theorem untransferred
    (fifo : FifoOk index events system) (ok : QueueOk index system)
    (stopped : system.kernel.running = false) :
    sentItems index events = receivedItems index events := by
  rw [fifo.balance, items_of_empty (ok.stopped stopped), List.append_nil]

/-- Every step keeps what was sent equal to what was received and what the ring holds. -/
theorem step
    (fifo : FifoOk index events system) (core : Core system) (ok : QueueOk index system)
    (step : system.step cfg action = some (after, emitted)) :
    FifoOk index (events ++ emitted) after := by
  have sentAll : sentItems index (events ++ emitted) =
      sentItems index events ++ sentItems index emitted := List.filterMap_append
  have receivedAll : receivedItems index (events ++ emitted) =
      receivedItems index events ++ receivedItems index emitted := List.filterMap_append
  have shapeAll : queueShape index (events ++ emitted) =
      emitted.foldl (Event.configures index) (queueShape index events) := List.foldl_append ..
  cases core.queueMove step index with
  | keeps same silent =>
      rw [queueShape_of_still silent] at shapeAll
      refine ⟨?_, ?_, ?_⟩
      · rw [shapeAll, same]
        exact fifo.shaped
      · rw [shapeAll, same, sentAll, sentItems_of_still silent, List.append_nil]
        exact fifo.unshaped
      · rw [sentAll, receivedAll, sentItems_of_still silent, receivedItems_of_still silent, same,
          List.append_nil, List.append_nil]
        exact fifo.balance
  | configures stopped sound empty capacity_eq itemSize_eq =>
      have shape : queueShape index (events ++ _) = some (_, _) :=
        shapeAll.trans (if_pos rfl)
      refine ⟨?_, ?_, ?_⟩
      · intro capacity itemSize configured
        rw [shape] at configured
        obtain ⟨rfl, rfl⟩ := Prod.mk.inj (Option.some.inj configured)
        exact ⟨capacity_eq, itemSize_eq, sound⟩
      · intro unconfigured
        rw [shape] at unconfigured
        exact absurd unconfigured (by simp)
      · rw [sentAll, receivedAll, items_of_empty empty, fifo.untransferred ok stopped]
        simp [Event.sentTo, Event.receivedFrom]
  | @sends thread item ticks _ running valid room same =>
      have sound := ok.of_valid valid
      refine ⟨?_, ?_, ?_⟩
      · intro capacity itemSize configured
        obtain ⟨capacity_eq, itemSize_eq, _⟩ := fifo.shaped capacity itemSize
          (shapeAll.symm.trans configured)
        rw [same]
        exact ⟨capacity_eq, itemSize_eq, sound.pushed room system.memory item⟩
      · intro unconfigured
        exact absurd sound.magic (fifo.unshaped (shapeAll.symm.trans unconfigured)).1
      · rw [sentAll, receivedAll, same, sound.items_pushed room, fifo.balance]
        simp [Event.sentTo, Event.receivedFrom]
  | @receives thread item ticks _ running valid present same memory =>
      have sound := ok.of_valid valid
      refine ⟨?_, ?_, ?_⟩
      · intro capacity itemSize configured
        obtain ⟨capacity_eq, itemSize_eq, _⟩ := fifo.shaped capacity itemSize
          (shapeAll.symm.trans configured)
        rw [same]
        exact ⟨capacity_eq, itemSize_eq, sound.popped present⟩
      · intro unconfigured
        exact absurd sound.magic (fifo.unshaped (shapeAll.symm.trans unconfigured)).1
      · -- The receiver's buffer now holds the bytes of the slot at the head.
        have delivered : readBytes after.memory item.toNat
            (system.kernel.queues index).itemSize.toNat =
              (system.kernel.queues index).slot (system.kernel.queues index).head.toNat := by
          rw [memory, readBytes_copied, sound.offset_toNat sound.head_lt]
          rfl
        rw [sentAll, receivedAll, same, fifo.balance, sound.items_popped present, delivered]
        simp [Event.sentTo, Event.receivedFrom]

/-- So it is along every run. -/
theorem of_run
    {allowed : System → Action → Prop} (index : Nat)
    (run : (forge cfg).Run allowed events system) : FifoOk index events system :=
  (run.invariant (motive := fun events system =>
      Core system ∧ QueueOk index system ∧ FifoOk index events system)
    ⟨Core.initial, QueueOk.initial, FifoOk.initial⟩
    fun _ _ _ _ _ held _ stepped =>
      ⟨held.1.step stepped, held.2.1.step held.1 stepped,
        held.2.2.step held.1 held.2.1 stepped⟩).2.2

end FifoOk

/-! ## Transfers and returns -/

/-- A send is observed in the step in which it returns true. -/
theorem Stepped.sent
    {cfg : Config} {system after : System} {action : Action} {events : List Event}
    {thread : Thread} {queue : Nat} {bytes : List Byte}
    (step : Stepped cfg system action after events)
    (present : Event.sent thread queue bytes ∈ events) :
    ∃ item ticks, Event.returned thread (.queueSendWait (some queue) item ticks) (.bool true) ∈
      events := by
  obtain ⟨caller, call, point, result, _, rfl, observed⟩ :=
    step.observed present (fun _ _ => Event.noConfusion) (fun _ _ _ => Event.noConfusion)
  unfold observe at observed
  split at observed
  · rename_i item ticks outcome _
    obtain ⟨rfl, rfl, _⟩ := Event.sent.inj (List.mem_singleton.mp observed)
    refine ⟨item, ticks, List.mem_append_right _ ?_⟩
    rw [outcome]
    exact List.mem_singleton_self _
  · exact absurd observed (by simp)
  · exact absurd observed (by simp)
  · split at observed <;> exact absurd observed (by simp)
  · exact absurd observed List.not_mem_nil

/-- A receive is observed in the step in which it returns true. -/
theorem Stepped.received
    {cfg : Config} {system after : System} {action : Action} {events : List Event}
    {thread : Thread} {queue : Nat} {bytes : List Byte}
    (step : Stepped cfg system action after events)
    (present : Event.received thread queue bytes ∈ events) :
    ∃ item ticks, Event.returned thread (.queueReceiveWait (some queue) item ticks)
      (.bool true) ∈ events := by
  obtain ⟨caller, call, point, result, _, rfl, observed⟩ :=
    step.observed present (fun _ _ => Event.noConfusion) (fun _ _ _ => Event.noConfusion)
  unfold observe at observed
  split at observed
  · exact absurd observed (by simp)
  · rename_i item ticks outcome _
    obtain ⟨rfl, rfl, _⟩ := Event.received.inj (List.mem_singleton.mp observed)
    refine ⟨item, ticks, List.mem_append_right _ ?_⟩
    rw [outcome]
    exact List.mem_singleton_self _
  · exact absurd observed (by simp)
  · split at observed <;> exact absurd observed (by simp)
  · exact absurd observed List.not_mem_nil

/-- Events that only occur together with a successful return of the task do not occur
in a call that fails. -/
theorem CallSpan.notMem_of_failure
    {cfg : Config} {task : Nat} {call : Call} {start finish : System} {events : List Event}
    {event : Event}
    (span : CallSpan cfg task call start finish events (.bool false))
    (uncalled : ∀ thread other, event ≠ .called thread other)
    (announced : ∀ system after action emitted, Stepped cfg system action after emitted →
      event ∈ emitted → ∃ other, Event.returned (.task task) other (.bool true) ∈ emitted) :
    event ∉ events := by
  obtain ⟨_, called, middle, during, action, emitted, _, further, unreturned, last, returned,
    rfl⟩ := span
  intro present
  rcases List.mem_append.mp present with early | late
  · rcases List.mem_append.mp early with invoked | inside
    · exact uncalled _ _ (List.mem_singleton.mp invoked)
    · have success : ∃ other, Event.returned (.task task) other (.bool true) ∈ during := by
        revert inside
        refine further.invariant (motive := fun during _ => event ∈ during →
          ∃ other, Event.returned (.task task) other (.bool true) ∈ during) (by simp) ?_
        intro before extra system next move held _ stepped inside
        rcases List.mem_append.mp inside with old | new
        · obtain ⟨other, success⟩ := held old
          exact ⟨other, List.mem_append_left _ success⟩
        · obtain ⟨other, success⟩ := announced _ _ _ _ (System.stepped stepped) new
          exact ⟨other, List.mem_append_right _ success⟩
      obtain ⟨other, success⟩ := success
      exact unreturned other _ success
  · obtain ⟨other, success⟩ := announced _ _ _ _ (System.stepped last) late
    obtain ⟨_, _, _, _, _, _, _, shape⟩ := (System.stepped last).returned returned
    rw [shape] at success
    rcases List.mem_append.mp success with observed | only
    · exact returned_notMem_observe observed
    · simp at only

/-- Kernel code writes user memory only when it delivers an item. -/
theorem step_memory
    {cfg : Config} {system after : System} {action : Action} {events : List Event}
    (step : system.step cfg action = some (after, events)) :
    after.memory = system.memory ∨ (∃ address value, action = .storeByte address value) ∨
      ∃ thread queue bytes, system.activeThread = some thread ∧
        Event.received thread queue bytes ∈ events := by
  cases System.stepped step with
  | sysTick => exact Or.inl rfl
  | pendSv => exact Or.inl rfl
  | invoke => exact Or.inl rfl
  | user _ _ stores =>
      rcases stores with same | stored
      · exact Or.inl same
      · exact Or.inr (Or.inl stored)
  | @advance thread call point result active inCall stepped =>
      have other := (Call.step_advance stepped).memory
      cases call with
      | queueReceiveWait reference item ticks =>
          cases reference with
          | none =>
              left
              cases point with
              | entry =>
                  obtain rfl := Option.some.inj stepped
                  rfl
              | suspended timeout =>
                  obtain rfl := Option.some.inj stepped
                  unfold queueResumeStep
                  split <;> rfl
              | _ => exact absurd stepped (by simp [Call.step, queueReceiveStep])
          | some index =>
              cases queueReceiveStep_cases stepped with
              | decides _ decided =>
                  obtain ⟨ended, outcome, rfl⟩ := decided
                  cases outcome with
                  | received =>
                      exact Or.inr (Or.inr ⟨thread, index, _, active, List.mem_append_left _
                        (List.mem_singleton_self _)⟩)
                  | _ => exact Or.inl rfl
              | _ => exact Or.inl rfl
      | _ => exact Or.inl (other (by simp))

/-- Bytes behind the last slot are never written. -/
theorem QueueMove.bytes_outside
    {index : Nat} {system after : System} {events : List Event}
    (move : QueueMove index system after events) (ok : QueueOk index system) {offset : Nat}
    (outside : (system.kernel.queues index).capacity.toNat *
      (system.kernel.queues index).itemSize.toNat ≤ offset) :
    (after.kernel.queues index).bytes offset = (system.kernel.queues index).bytes offset := by
  cases move with
  | keeps same => rw [same]
  | configures _ _ _ _ _ bytes => rw [bytes]
  | receives _ _ _ _ same =>
      rw [same]
      rfl
  | @sends thread item ticks _ _ valid _ same =>
      have sound := ok.of_valid valid
      rw [same]
      change queueCopyBytes _ _ _ _ _ offset = _
      rw [queueCopyBytes_apply, sound.offset_toNat sound.tail_lt, if_neg]
      rintro ⟨_, below⟩
      have last := Rings.cell_lt sound.tail_lt
        (by have positive := sound.itemSize_pos; omega :
          (system.kernel.queues index).itemSize.toNat - 1 <
            (system.kernel.queues index).itemSize.toNat)
      have positive := sound.itemSize_pos
      omega

/-- Queues are linearizable bounded first-in first-out buffers. -/
theorem queue_fifo
    {cfg : Config} {events : List Event} {system : System}
    (run : Run cfg events system) (index : Nat) :
    sentItems index events =
      receivedItems index events ++ (system.kernel.queues index).items ∧
    receivedItems index events <+: sentItems index events ∧
    (sentItems index events).length =
      (receivedItems index events).length + (system.kernel.queues index).count.toNat ∧
    (∀ capacity itemSize, queueShape index events = some (capacity, itemSize) →
      (system.kernel.queues index).capacity = capacity ∧
      (system.kernel.queues index).itemSize = itemSize ∧
      0 < capacity.toNat ∧ 0 < itemSize.toNat ∧
      capacity.toNat * itemSize.toNat < 2 ^ 32 ∧
      (system.kernel.queues index).count.toNat ≤ capacity.toNat ∧
      (system.kernel.queues index).head.toNat < capacity.toNat ∧
      (system.kernel.queues index).tail.toNat < capacity.toNat ∧
      (system.kernel.queues index).tail.toNat =
        ((system.kernel.queues index).head.toNat +
          (system.kernel.queues index).count.toNat) % capacity.toNat ∧
      (∀ position : Word, position = (system.kernel.queues index).head ∨
          position = (system.kernel.queues index).tail →
        (position * itemSize).toNat = position.toNat * itemSize.toNat ∧
        ∀ cell < itemSize.toNat,
          (position * itemSize).toNat + cell < capacity.toNat * itemSize.toNat)) ∧
    (queueShape index events = none →
      sentItems index events = [] ∧ receivedItems index events = []) ∧
    (∀ action after emitted, system.step cfg action = some (after, emitted) →
      (system.kernel.running = true →
        (∀ thread bytes, system.activeThread = some thread →
          Event.sent thread index bytes ∉ emitted ∧ Event.received thread index bytes ∉ emitted) →
        after.kernel.queues index = system.kernel.queues index) ∧
      ((∀ thread queue bytes, system.activeThread = some thread →
          Event.received thread queue bytes ∉ emitted) →
        (∀ address value, action ≠ .storeByte address value) →
        after.memory = system.memory) ∧
      (∀ offset, (system.kernel.queues index).capacity.toNat *
          (system.kernel.queues index).itemSize.toNat ≤ offset →
        (after.kernel.queues index).bytes offset =
          (system.kernel.queues index).bytes offset)) ∧
    (∀ task call finish during, CallSpan cfg task call system finish during (.bool false) →
      ∀ queue bytes, Event.sent (.task task) queue bytes ∉ during ∧
        Event.received (.task task) queue bytes ∉ during) := by
  have core := Core.of_run run
  have ok := QueueOk.of_run index run
  have fifo := FifoOk.of_run index run
  have length : (sentItems index events).length =
      (receivedItems index events).length + (system.kernel.queues index).count.toNat := by
    rw [fifo.balance, List.length_append, Queue.items, Rings.length_contents]
  refine ⟨fifo.balance, ⟨_, fifo.balance.symm⟩, length, ?_, ?_, ?_, ?_⟩
  · intro capacity itemSize shape
    obtain ⟨rfl, rfl, sound⟩ := fifo.shaped capacity itemSize shape
    refine ⟨rfl, rfl, sound.capacity_pos, sound.itemSize_pos, sound.fits, sound.count_le,
      sound.head_lt, sound.tail_lt, sound.tail_eq, ?_⟩
    intro position place
    have small : position.toNat < (system.kernel.queues index).capacity.toNat := by
      rcases place with rfl | rfl
      · exact sound.head_lt
      · exact sound.tail_lt
    refine ⟨sound.offset_toNat small, fun cell inside => ?_⟩
    rw [sound.offset_toNat small]
    exact Rings.cell_lt small inside
  · intro unconfigured
    have unsent := (fifo.unshaped unconfigured).2
    have balance := fifo.balance
    rw [unsent, eq_comm, List.append_eq_nil_iff] at balance
    exact ⟨unsent, balance.1⟩
  · intro action after emitted step
    have move := core.queueMove step index
    refine ⟨fun running still => ?_, fun undelivered unstored => ?_,
      fun offset outside => move.bytes_outside ok outside⟩
    · cases move with
      | keeps same => exact same
      | configures stopped =>
          rw [running] at stopped
          exact absurd stopped (by decide)
      | sends active => exact absurd List.mem_cons_self (still _ _ active).1
      | receives active => exact absurd List.mem_cons_self (still _ _ active).2
    · rcases step_memory step with same | ⟨address, value, stores⟩ |
        ⟨thread, queue, bytes, active, delivered⟩
      · exact same
      · exact absurd stores (unstored address value)
      · exact absurd delivered (undelivered thread queue bytes active)
  · intro task call finish during span queue bytes
    refine ⟨span.notMem_of_failure (by simp) fun _ _ _ _ step present => ?_,
      span.notMem_of_failure (by simp) fun _ _ _ _ step present => ?_⟩
    · obtain ⟨_, _, returned⟩ := step.sent present
      exact ⟨_, returned⟩
    · obtain ⟨_, _, returned⟩ := step.received present
      exact ⟨_, returned⟩

/-- Two sends of one byte each, and a receive into another buffer. -/
def transferProgram : List Action :=
  Action.bootProgram [.queueInit (some 0) 0x20008000#32 2 1] [1] ++
    ([.storeByte 256 7, .invoke (.queueSend (some 0) 256), .advance, .advance,
       .storeByte 256 9, .invoke (.queueSend (some 0) 256), .advance, .advance,
       .invoke (.queueReceive (some 0) 512), .advance, .advance] : List Action)

/-- The first byte has been delivered, the second is in the ring. -/
theorem transfers_in_order :
    ∃ events system, Run Config.default events system ∧
      queueShape 0 events = some (2, 1) ∧ sentItems 0 events = [[7], [9]] ∧
      receivedItems 0 events <+: sentItems 0 events ∧
      (system.kernel.queues 0).count.toNat ≤ 2 ∧ (system.memory 512 : Byte) = 7 := by
  obtain ⟨events, system, run, checked⟩ :=
    Machine.RunFrom.exists_of_execFrom (forge Config.default) Machine.anyStep System.boot
      transferProgram (fun events system =>
        decide (queueShape 0 events = some (2, 1) ∧ sentItems 0 events = [[7], [9]] ∧
          system.memory 512 = 7))
      (by decide +kernel)
  obtain ⟨shape, sent, delivered⟩ := of_decide_eq_true checked
  obtain ⟨_, ordered, _, sound, _⟩ := queue_fifo run 0
  obtain ⟨_, _, _, _, _, bounded, _⟩ := sound 2 1 shape
  exact ⟨events, system, run, shape, sent, ordered, bounded, delivered⟩

end ForgeKernel
