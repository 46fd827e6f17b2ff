import ForgeKernel.Invariant.ReleaseSchedule
import ForgeKernel.Property.QueueFifo

/-!
# The demo pipeline

Producer and consumer over every run of the release image: the messages carry
consecutive numbers, each is received before the next is sent, and no counter of
errors ever moves.
-/

namespace ForgeKernel

open Machines

/-! ## Messages in memory -/

theorem storeBytes_apply (memory : Memory) (address : Nat) (bytes : List Byte) (position : Nat) :
    storeBytes memory address bytes position =
      if address ≤ position then bytes.getD (position - address) (memory position)
      else memory position := by
  induction bytes generalizing memory address with
  | nil => simp [storeBytes]
  | cons byte bytes inductionHypothesis =>
      rw [storeBytes, inductionHypothesis]
      rcases Nat.lt_trichotomy position address with below | rfl | above
      · rw [if_neg (by omega), if_neg (by omega), Function.update_of_ne (by omega)]
      · rw [if_neg (by omega), if_pos le_rfl, Function.update_self, Nat.sub_self]
        rfl
      · obtain ⟨offset, rfl⟩ := Nat.exists_eq_add_of_lt above
        rw [if_pos (by omega), if_pos (by omega), Function.update_of_ne (by omega),
          show address + offset + 1 - address = offset + 1 by omega,
          show address + offset + 1 - (address + 1) = offset by omega]
        rfl

/-- What has been stored is read back. -/
theorem readBytes_stored (memory : Memory) (address : Nat) (bytes : List Byte) :
    readBytes (storeBytes memory address bytes) address bytes.length = bytes := by
  apply List.ext_getElem
  · simp [readBytes]
  · intro position _ inside
    simp [readBytes, storeBytes_apply, List.getD_eq_getElem?_getD, inside]

@[simp] theorem DemoMessage.bytes_length (message : DemoMessage) : message.bytes.length = 8 := by
  simp [DemoMessage.bytes]

/-- The first word of a message is its number. -/
theorem DemoMessage.readWord_sequence
    {memory : Memory} {address : Nat} {message : DemoMessage}
    (holds : readBytes memory address 8 = message.bytes) :
    readWord memory address = message.sequence := by
  have head : readBytes memory address 4 = LittleEndian.bytes 4 message.sequence.toNat := by
    have taken := congrArg (List.take 4) holds
    rw [DemoMessage.bytes, List.take_left' (LittleEndian.bytes_length ..)] at taken
    rw [← taken]
    rfl
  rw [readWord, head, LittleEndian.value_bytes_of_lt message.sequence.isLt,
    BitVec.ofNat_toNat, BitVec.setWidth_eq]

/-! ## The invariant -/

theorem Release.monitorAct_demo
    {release next : Release} {input : UsartInput} {index : Nat} {point : MonitorPoint}
    {events : List ReleaseEvent}
    (acted : release.monitorAct input index point = some (next, events)) :
    next.demo = release.demo := by
  cases point with
  | writing text place following =>
      cases place <;> grind [Release.monitorAct, Release.writeAct, Release.setPoint]
  | polling => grind [Release.monitorAct, Release.setPoint]
  | _ => grind [Release.monitorAct, Release.writeLine, Release.setPoint]

/-- The messages of a producer that built them at these ticks, numbered from one. -/
def demoStream (ticks : List Word) : List (List Byte) :=
  ticks.mapIdx fun position tick =>
    DemoMessage.bytes ⟨BitVec.ofNat 32 (position + 1), tick⟩

@[simp] theorem demoStream_length (ticks : List Word) :
    (demoStream ticks).length = ticks.length :=
  List.length_mapIdx

theorem demoStream_append (ticks : List Word) (tick : Word) :
    demoStream (ticks ++ [tick]) =
      demoStream ticks ++ [DemoMessage.bytes ⟨BitVec.ofNat 32 (ticks.length + 1), tick⟩] :=
  List.mapIdx_concat

theorem demoStream_getElem? {ticks : List Word} {position : Nat} (small : position < ticks.length) :
    ∃ tick, (demoStream ticks)[position]? =
      some (DemoMessage.bytes ⟨BitVec.ofNat 32 (position + 1), tick⟩) :=
  ⟨ticks[position], by simp [demoStream, small]⟩

theorem ofNat_succ (number : Nat) :
    BitVec.ofNat 32 number + 1 = BitVec.ofNat 32 (number + 1) :=
  (BitVec.ofNat_add number 1).symm

/-- Memory holds the message of this number. -/
def Numbered (memory : Memory) (address number : Nat) : Prop :=
  ∃ tick, readBytes memory address 8 = DemoMessage.bytes ⟨BitVec.ofNat 32 number, tick⟩

theorem Numbered.readWord {memory : Memory} {address number : Nat}
    (numbered : Numbered memory address number) :
    readWord memory address = BitVec.ofNat 32 number := by
  obtain ⟨tick, holds⟩ := numbered
  exact DemoMessage.readWord_sequence holds

/-- A store elsewhere leaves a message alone. -/
theorem Numbered.stored
    {memory : Memory} {address number other : Nat} {bytes : List Byte}
    (numbered : Numbered memory address number)
    (apart : address + 8 ≤ other ∨ other + bytes.length ≤ address) :
    Numbered (storeBytes memory other bytes) address number := by
  obtain ⟨tick, holds⟩ := numbered
  refine ⟨tick, holds ▸ List.map_congr_left fun offset inside => ?_⟩
  have small : offset < 8 := List.mem_range.mp inside
  rw [storeBytes_apply]
  split
  · rw [List.getD_eq_getElem?_getD, List.getElem?_eq_none (by omega), Option.getD_none]
  · rfl

/-- So does a copy elsewhere. -/
theorem Numbered.copied
    {memory source : Memory} {address number other sourceBase : Nat}
    (numbered : Numbered memory address number)
    (apart : address + 8 ≤ other ∨ other + 8 ≤ address) :
    Numbered (queueCopyBytes memory other source sourceBase 8) address number := by
  obtain ⟨tick, holds⟩ := numbered
  exact ⟨tick, holds ▸ readBytes_separate fun offset small => by omega⟩

section Pipeline

variable {cfg : Config} (image : ReleaseImage cfg) (release : Release) (sent received : Nat)

/-- The producer after `sent` successful sends. -/
def ProducerOk : TaskPoint → Prop
  | .start => sent = 0 ∧ release.demo.messagesSent = 0
  | .producer (.building sequence) | .producer (.sleeping sequence) =>
      sequence = BitVec.ofNat 32 sent ∧ release.demo.messagesSent = BitVec.ofNat 32 sent
  | .producer (.sending sequence) =>
      sequence = BitVec.ofNat 32 sent ∧ release.demo.messagesSent = BitVec.ofNat 32 sent ∧
        Numbered release.system.memory image.producerMessage.toNat (sent + 1)
  | .producer .recording =>
      release.demo.messagesSent + 1 = BitVec.ofNat 32 sent ∧
        Numbered release.system.memory image.producerMessage.toNat sent
  | _ => False

/-- The consumer after `received` successful receives. -/
def ConsumerOk : TaskPoint → Prop
  | .start => received = 0 ∧ release.demo.messagesReceived = 0
  | .consumer (.receiving expectedSequence) =>
      expectedSequence = BitVec.ofNat 32 (received + 1) ∧
        release.demo.messagesReceived = BitVec.ofNat 32 received
  | .consumer (.received expectedSequence) | .consumer (.recording expectedSequence _) =>
      expectedSequence = BitVec.ofNat 32 received ∧
        release.demo.messagesReceived + 1 = BitVec.ofNat 32 received ∧
        Numbered release.system.memory image.consumerMessage.toNat received ∧ sent = received
  | .consumer (.signaling expectedSequence _) =>
      expectedSequence = BitVec.ofNat 32 (received + 1) ∧
        release.demo.messagesReceived = BitVec.ofNat 32 received ∧ sent = received
  | _ => False

/-- Producer, consumer and counters agree with the transfers so far. -/
structure Pipeline : Prop where
  producer : ProducerOk image release sent (release.tasks 0)
  consumer : ConsumerOk image release sent received (release.tasks 1)
  alternate : sent ≤ received + 1
  lastSent : release.demo.lastSentSequence = release.demo.messagesSent
  lastReceived : release.demo.lastReceivedSequence = release.demo.messagesReceived
  queueDepth : release.demo.queueDepth = 0
  orderErrors : release.demo.orderErrors = 0
  sendErrors : release.demo.sendErrors = 0
  receiveErrors : release.demo.receiveErrors = 0
  taskCreateErrors : release.demo.taskCreateErrors = 0

end Pipeline

section Congr

variable {cfg : Config} {image : ReleaseImage cfg} {release next : Release}
  {sent received : Nat} {point : TaskPoint}

theorem ProducerOk.congr
    (ok : ProducerOk image release sent point)
    (kept : ∀ number, Numbered release.system.memory image.producerMessage.toNat number →
      Numbered next.system.memory image.producerMessage.toNat number)
    (demo : next.demo.messagesSent = release.demo.messagesSent) :
    ProducerOk image next sent point := by
  cases point with
  | start => exact ⟨ok.1, demo.trans ok.2⟩
  | producer point =>
      cases point with
      | building | sleeping => exact ⟨ok.1, demo.trans ok.2⟩
      | sending => exact ⟨ok.1, demo.trans ok.2.1, kept _ ok.2.2⟩
      | recording => exact ⟨demo.symm ▸ ok.1, kept _ ok.2⟩
      | sendFailed | sleepFailed => exact ok
  | consumer | monitor => exact ok

theorem ConsumerOk.congr
    (ok : ConsumerOk image release sent received point)
    (kept : ∀ number, Numbered release.system.memory image.consumerMessage.toNat number →
      Numbered next.system.memory image.consumerMessage.toNat number)
    (demo : next.demo.messagesReceived = release.demo.messagesReceived) :
    ConsumerOk image next sent received point := by
  cases point with
  | start => exact ⟨ok.1, demo.trans ok.2⟩
  | consumer point =>
      cases point with
      | receiving => exact ⟨ok.1, demo.trans ok.2⟩
      | received | recording => exact ⟨ok.1, demo.symm ▸ ok.2.1, kept _ ok.2.2.1, ok.2.2.2⟩
      | signaling => exact ⟨ok.1, demo.trans ok.2.1, ok.2.2⟩
      | receiveFailed => exact ok
  | producer | monitor => exact ok

end Congr

namespace Pipeline

variable {cfg : Config} {image : ReleaseImage cfg} {release next : Release}
  {sent received : Nat}

/-- A step that leaves the demo's counters alone. -/
theorem update
    {sent' received' : Nat} (pipeline : Pipeline image release sent received)
    (demo : next.demo = release.demo)
    (producer : ProducerOk image next sent' (next.tasks 0))
    (consumer : ConsumerOk image next sent' received' (next.tasks 1))
    (alternate : sent' ≤ received' + 1) : Pipeline image next sent' received' := by
  obtain ⟨_, _, _, lastSent, lastReceived, queueDepth, orderErrors, sendErrors, receiveErrors,
    taskCreateErrors⟩ := pipeline
  refine ⟨producer, consumer, alternate, ?_, ?_, ?_, ?_, ?_, ?_, ?_⟩
  all_goals
    rw [demo]
    assumption

/-- A step that leaves the demo alone. -/
theorem bystands
    (pipeline : Pipeline image release sent received)
    (memory : next.system.memory = release.system.memory) (demo : next.demo = release.demo)
    (producer : next.tasks 0 = release.tasks 0) (consumer : next.tasks 1 = release.tasks 1) :
    Pipeline image next sent received := by
  refine pipeline.update demo ?_ ?_ pipeline.alternate
  · rw [producer]
    exact pipeline.producer.congr (fun _ numbered => memory.symm ▸ numbered) (by rw [demo])
  · rw [consumer]
    exact pipeline.consumer.congr (fun _ numbered => memory.symm ▸ numbered) (by rw [demo])

/-! ### Program steps -/

theorem enters
    {index : Nat} {point : TaskPoint} {entry : Word}
    (pipeline : Pipeline image release sent received)
    (start : release.tasks index = .start) (fits : point.fits index)
    (entered : Release.enter image entry = some point) :
    Pipeline image (release.setPoint index point) sent received := by
  unfold Release.enter at entered
  split at entered
  · obtain rfl := Option.some.inj entered
    obtain rfl : index = 0 := fits
    have producer := pipeline.producer
    rw [start] at producer
    obtain ⟨rfl, unsent⟩ := producer
    exact { pipeline with
      producer := ⟨rfl, unsent⟩
      consumer := pipeline.consumer }
  · split at entered
    · obtain rfl := Option.some.inj entered
      obtain rfl : index = 1 := fits
      have consumer := pipeline.consumer
      rw [start] at consumer
      obtain ⟨rfl, unreceived⟩ := consumer
      exact { pipeline with
        producer := pipeline.producer
        consumer := ⟨rfl, unreceived⟩ }
    · split at entered
      · obtain rfl := Option.some.inj entered
        obtain rfl : index = 2 := fits
        exact { pipeline with
          producer := pipeline.producer
          consumer := pipeline.consumer }
      · cases entered

theorem produces
    {point : ProducerPoint} (pipeline : Pipeline image release sent received)
    (place : release.tasks 0 = .producer point)
    (empty : (release.system.kernel.queues 0).count = 0)
    (acted : release.producerAct image 0 point = some next) :
    Pipeline image next sent received := by
  have producer := pipeline.producer
  have consumer := pipeline.consumer
  rw [place] at producer
  cases point with
  | building sequence =>
      obtain rfl := Option.some.inj acted
      obtain ⟨rfl, counted⟩ := producer
      exact { pipeline with
        producer := ⟨rfl, counted, release.system.kernel.tickCount, by
          rw [← ofNat_succ]
          exact readBytes_stored ..⟩
        consumer := consumer.congr
          (fun _ numbered => numbered.stored (by
            rw [DemoMessage.bytes_length]
            exact image.messages_apart.symm)) rfl }
  | recording =>
      obtain rfl := Option.some.inj acted
      obtain ⟨counted, numbered⟩ := producer
      exact { pipeline with
        producer := ⟨numbered.readWord, counted⟩
        consumer := consumer.congr (fun _ same => same) rfl
        lastSent := numbered.readWord.trans counted.symm
        queueDepth := empty }
  | sendFailed | sleepFailed => exact producer.elim
  | sending | sleeping => cases acted

theorem consumes
    {point : ConsumerPoint} (pipeline : Pipeline image release sent received)
    (place : release.tasks 1 = .consumer point)
    (balance : sent = received → (release.system.kernel.queues 0).count = 0)
    (acted : release.consumerAct image 1 point = some next) :
    Pipeline image next sent received := by
  have producer := pipeline.producer
  have consumer := pipeline.consumer
  rw [place] at consumer
  cases point with
  | receiveFailed => exact consumer.elim
  | received expectedSequence =>
      obtain rfl := Option.some.inj acted
      exact { pipeline with
        producer := producer.congr (fun _ same => same) rfl
        consumer := consumer }
  | recording expectedSequence latency =>
      obtain rfl := Option.some.inj acted
      obtain ⟨rfl, counted, numbered, level⟩ := consumer
      have expected := numbered.readWord
      have next := ofNat_succ received
      simp only [expected, DemoStatus.recordReceived, demoNextExpected, ne_eq, not_true_eq_false,
        if_false, counted, next, balance level]
      exact { pipeline with
        producer := producer.congr (fun _ same => same) rfl
        consumer := ⟨rfl, rfl, level⟩
        lastReceived := rfl
        queueDepth := rfl
        orderErrors := pipeline.orderErrors }
  | signaling expectedSequence total =>
      obtain rfl := Option.some.inj acted
      exact { pipeline with
        producer := producer.congr (fun _ same => same) rfl
        consumer := ⟨consumer.1, consumer.2.1⟩ }
  | receiving => cases acted

end Pipeline

theorem Booting.pipeline
    {cfg : Config} {image : ReleaseImage cfg} {release : Release}
    (booting : Booting image release) : Pipeline image release 0 0 := by
  have demo := booting.demo
  constructor
  case producer =>
    rw [booting.unentered 0]
    exact ⟨rfl, congrArg DemoStatus.messagesSent demo⟩
  case consumer =>
    rw [booting.unentered 1]
    exact ⟨rfl, congrArg DemoStatus.messagesReceived demo⟩
  case alternate => exact Nat.zero_le _
  all_goals
    rw [demo]
    rfl

/-! ## Returns -/

theorem StepResult.ofProgress_reply
    {memory : Memory} {waiting : Point} {ended : Kernel × Progress Bool} {reply : Reply}
    (replied : (StepResult.ofProgress memory waiting ended).outcome = .reply reply) :
    ∃ value, reply = .bool value := by
  obtain ⟨kernel, progress⟩ := ended
  cases progress with
  | returned value => exact ⟨value, (Outcome.reply.inj replied).symm⟩
  | waiting => cases replied

theorem TaskRequest.replies
    {cfg : Config} {image : ReleaseImage cfg} {place : TaskPoint} {call : Call} {cpu : Cpu}
    {kernel : Kernel} {memory : Memory} {self : Nat} {point : Point} {result : StepResult}
    {reply : Reply} (asked : TaskRequest image place call)
    (stepped : call.step cfg cpu kernel memory self point = some result)
    (replied : result.outcome = .reply reply) :
    call = .kernelCheckInvariants true ∨ ∃ value, reply = .bool value := by
  cases asked with
  | checks => exact Or.inl rfl
  | rests | pauses =>
      right
      cases point with
      | entry =>
          obtain rfl := Option.some.inj stepped
          exact StepResult.ofProgress_reply replied
      | asleep =>
          obtain rfl := Option.some.inj stepped
          exact ⟨_, (Outcome.reply.inj replied).symm⟩
      | _ => cases stepped
  | sends | receives =>
      right
      simp only [Call.step, queueSendStep, queueReceiveStep] at stepped
      cases point <;> grind [queueEntryStep, StepResult.arm, queueResumeStep, StepResult.reply,
        StepResult.goto, StepResult.ofProgress_reply]

/-- A step that does not end its call moves nothing. -/
theorem still_of_goto
    {cfg : Config} {system after : System} {thread : Thread} {call : Call} {point next : Point}
    {result : StepResult} {emitted : List Event}
    (active : system.activeThread = some thread)
    (inCall : system.frames thread = .inCall call point)
    (stepped : call.step cfg system.cpu system.kernel system.memory thread.slot point =
      some result)
    (outcome : result.outcome = .goto next)
    (moved : system.step cfg .advance = some (after, emitted)) (index : Nat) :
    ∀ event ∈ emitted, event.moves index = false := by
  obtain ⟨_, rfl⟩ := System.advance_result active inCall stepped moved
  intro event present
  rw [outcome, Outcome.returns, List.append_nil] at present
  unfold observe at present
  rw [outcome] at present
  split at present
  · contradiction
  · contradiction
  · contradiction
  · split at present
    · rw [List.mem_singleton.mp present]
      rfl
    · cases present
  · cases present

/-- Every transfer is of an item that the queue held. -/
theorem FifoOk.length
    {index : Nat} {events : List Event} {system : System} (fifo : FifoOk index events system) :
    (sentItems index events).length =
      (receivedItems index events).length + (system.kernel.queues index).count.toNat := by
  rw [fifo.balance, List.length_append, Queue.items, Rings.length_contents]

/-- The messages sent so far are numbered, and the invariant holds for their counts. -/
def Conveys {cfg : Config} (image : ReleaseImage cfg) (past : List Event) (release : Release) :
    Prop :=
  ∃ ticks, sentItems 0 past = demoStream ticks ∧
    Pipeline image release ticks.length (receivedItems 0 past).length

theorem sentItems_append (index : Nat) (past emitted : List Event) :
    sentItems index (past ++ emitted) = sentItems index past ++ sentItems index emitted :=
  List.filterMap_append ..

theorem receivedItems_append (index : Nat) (past emitted : List Event) :
    receivedItems index (past ++ emitted) =
      receivedItems index past ++ receivedItems index emitted :=
  List.filterMap_append ..

/-- The run of the kernel behind a run of the image; tasks are created before the start. -/
theorem release_run
    {cfg : Config} {image : ReleaseImage cfg} {allowed : Release → ReleaseAction → Prop}
    {events : List ReleaseEvent} {release : Release}
    (run : (releaseMachine image).Run allowed events release) :
    (forge cfg).Run createsBeforeStart (events.flatMap ReleaseEvent.shown) release.system :=
  (release_projects (fun _ _ _ permitted => permitted)
    fun _ _ _ creates => by cases creates).run run

namespace Conveys

variable {cfg : Config} {image : ReleaseImage cfg} {release next : Release}
  {past emitted : List Event}

/-- Steps that transfer nothing. -/
theorem still
    (conveys : Conveys image past release)
    (quiet : ∀ event ∈ emitted, event.moves 0 = false)
    (kept : ∀ sent received, Pipeline image release sent received →
      Pipeline image next sent received) : Conveys image (past ++ emitted) next := by
  obtain ⟨ticks, same, pipeline⟩ := conveys
  refine ⟨ticks, ?_, ?_⟩
  · rw [sentItems_append, sentItems_of_still quiet, List.append_nil, same]
  · rw [receivedItems_append, receivedItems_of_still quiet, List.append_nil]
    exact kept _ _ pipeline

end Conveys

/-- None of the tasks' calls fails. -/
theorem ReleaseOk.succeeds
    {cfg : Config} {image : ReleaseImage cfg} {release : Release} {past : List Event}
    {index : Nat} {call : Call} {point : Point} {result : StepResult} {reply : Reply}
    (ok : ReleaseOk image release) (run : Run cfg past release.system)
    (active : release.system.activeThread = some (.task index))
    (inCall : release.system.frames (.task index) = .inCall call point)
    (stepped : call.step cfg release.system.cpu release.system.kernel release.system.memory index
      point = some result)
    (replied : result.outcome = .reply reply) :
    call = .kernelCheckInvariants true ∨ reply = .bool true := by
  have running := ((Core.of_run run).active_current active).running
  have asked := ok.request_of_frame running inCall
  rcases asked.replies stepped replied with check | ⟨value, rfl⟩
  · exact Or.inl check
  · cases (ok.deployed running).tasks index with
    | user user =>
        rw [inCall] at user
        cases user
    | waits _ endless enduring =>
        obtain ⟨place, entered⟩ := enduring.frame
        obtain ⟨rfl, _⟩ := Frame.inCall.inj (inCall.symm.trans entered)
        have succeeded := enduring.succeeds endless run
          (fun mutex ticks locks => by
            rw [locks] at asked
            generalize release.tasks index = place at asked
            cases asked)
          active inCall stepped replied
        exact Or.inr (congrArg Reply.bool succeeded)
    | checks _ entered =>
        obtain ⟨rfl, _⟩ := Frame.inCall.inj (inCall.symm.trans entered)
        exact Or.inl rfl

/-- The kernel step that ends a call of a task in a run of the image. -/
structure CallEnds {cfg : Config} (image : ReleaseImage cfg) (release : Release)
    (past : List Event) (index : Nat) (call : Call) (reply : Reply) (system : System)
    (emitted : List Event) : Prop where
  ok : ReleaseOk image release
  run : (forge cfg).Run createsBeforeStart past release.system
  active : release.system.activeThread = some (.task index)
  moved : release.system.step cfg .advance = some (system, emitted)
  replies : ∃ point result, release.system.frames (.task index) = .inCall call point ∧
    call.step cfg release.system.cpu release.system.kernel release.system.memory index point =
      some result ∧
    result.outcome = .reply reply

namespace CallEnds

variable {cfg : Config} {image : ReleaseImage cfg} {release : Release} {past emitted : List Event}
  {index : Nat} {call : Call} {reply : Reply} {system : System}

theorem deployed (ends : CallEnds image release past index call reply system emitted) :
    Deployed image release :=
  ends.ok.deployed ((Core.of_run ends.run).active_current ends.active).running

/-- The call is the one that the task's place asks for. -/
theorem asked (ends : CallEnds image release past index call reply system emitted) :
    TaskRequest image (release.tasks index) call := by
  obtain ⟨_, _, inCall, _⟩ := ends.replies
  exact ends.ok.request_of_frame ((Core.of_run ends.run).active_current ends.active).running inCall

theorem succeeds (ends : CallEnds image release past index call reply system emitted) :
    call = .kernelCheckInvariants true ∨ reply = .bool true := by
  obtain ⟨_, _, inCall, stepped, replied⟩ := ends.replies
  exact ends.ok.succeeds (ends.run.mono fun _ _ _ => trivial) ends.active inCall stepped replied

/-- What the step shows: the transfer, if there is one, and the return. -/
theorem shown (ends : CallEnds image release past index call reply system emitted) :
    ∃ point result, result.outcome = .reply reply ∧ system.memory = result.memory ∧
      emitted = observe release.system (.task index) call point result ++
        [.returned (.task index) call reply] := by
  obtain ⟨point, result, inCall, stepped, replied⟩ := ends.replies
  obtain ⟨finish, shown⟩ := System.advance_result ends.active inCall stepped ends.moved
  rw [replied, Outcome.returns] at shown
  exact ⟨point, result, replied, by rw [finish]; rfl, shown⟩

/-- Only a receive writes the memory of the tasks. -/
theorem memory
    (ends : CallEnds image release past index call reply system emitted)
    (unreceived : ∀ thread queue bytes, Event.received thread queue bytes ∉ emitted) :
    system.memory = release.system.memory := by
  rcases step_memory ends.moved with same | ⟨_, _, stores⟩ | ⟨_, _, _, _, received⟩
  · exact same
  · cases stores
  · exact absurd received (unreceived _ _ _)

theorem task :
    ((release.settle system).resume reply (.task index)).tasks index =
      Release.resumeTask reply (release.tasks index) :=
  Release.setPoint_tasks_self ..

theorem others {other : Nat} (different : other ≠ index) :
    ((release.settle system).resume reply (.task index)).tasks other = release.tasks other :=
  Release.setPoint_tasks_of_ne _ _ different

/-- A successful send appends the producer's next message to the stream. -/
theorem sends
    {sequence : Word}
    (ends : CallEnds image release past 0
      (.queueSendWait (some 0) image.producerMessage waitForever) (.bool true) system emitted)
    (conveys : Conveys image past release)
    (place : release.tasks 0 = .producer (.sending sequence)) :
    Conveys image (past ++ emitted) ((release.settle system).resume (.bool true) (.task 0)) := by
  obtain ⟨ticks, same, pipeline⟩ := conveys
  have producer := pipeline.producer
  rw [place] at producer
  obtain ⟨rfl, counted, tick, holds⟩ := producer
  have event : emitted = [.sent (.task 0) 0 (DemoMessage.bytes
      ⟨BitVec.ofNat 32 (ticks.length + 1), tick⟩),
      .returned (.task 0) (.queueSendWait (some 0) image.producerMessage waitForever)
        (.bool true)] := by
    obtain ⟨_, _, replied, _, shown⟩ := ends.shown
    rw [shown, ← holds]
    simp only [observe, replied, ends.deployed.queue.itemSize]
    rfl
  have kept := ends.memory (by simp [event])
  have running := ((Core.of_run ends.run).active_current ends.active).running
  obtain ⟨⟨expectedSequence, waits⟩, empty⟩ :=
    ends.ok.consumer_waits ends.run running ends.active (by decide)
  have consumer := pipeline.consumer
  rw [waits] at consumer
  have level := (FifoOk.of_run 0 ends.run).length
  rw [empty, same, demoStream_length] at level
  subst event
  refine ⟨ticks ++ [tick], ?_, ?_⟩
  · rw [sentItems_append, same, demoStream_append]
    rfl
  · rw [receivedItems_append, List.length_append, List.length_singleton]
    change Pipeline image _ _ (receivedItems 0 past ++ []).length
    rw [List.append_nil]
    refine pipeline.update rfl ?_ ?_ (Nat.succ_le_succ level.le)
    · rw [task, place]
      refine ⟨?_, tick, kept.symm ▸ holds⟩
      rw [← ofNat_succ, ← counted]
      rfl
    · rw [others (by decide), waits]
      exact consumer

/-- A receive leaves the message of the producer alone. -/
theorem receive_keeps
    {number : Nat}
    (ends : CallEnds image release past 1
      (.queueReceiveWait (some 0) image.consumerMessage waitForever) (.bool true) system emitted)
    (holds : Numbered release.system.memory image.producerMessage.toNat number) :
    Numbered system.memory image.producerMessage.toNat number := by
  obtain ⟨_, _, replied, _, event⟩ := ends.shown
  simp only [observe, replied] at event
  cases (Core.of_run ends.run).queueMove ends.moved 0 with
  | keeps _ silent =>
      rw [event] at silent
      exact absurd (silent _ List.mem_cons_self) (by simp [Event.moves])
  | configures => simp at event
  | sends => simp at event
  | @receives _ item _ _ _ _ _ _ copied =>
      have target : item = image.consumerMessage := by
        simp only [List.cons_append, List.nil_append, List.cons.injEq, Event.returned.injEq,
          Call.queueReceiveWait.injEq] at event
        exact event.2.1.2.1.2.1
      rw [ends.deployed.queue.itemSize, target] at copied
      exact copied ▸ holds.copied image.messages_apart

/-- The received item is the next message of the stream, and the last one sent. -/
theorem receives_next
    {ticks : List Word}
    (ends : CallEnds image release past 1
      (.queueReceiveWait (some 0) image.consumerMessage waitForever) (.bool true) system emitted)
    (same : sentItems 0 past = demoStream ticks)
    (alternate : ticks.length ≤ (receivedItems 0 past).length + 1) :
    sentItems 0 (past ++ emitted) = demoStream ticks ∧
      (receivedItems 0 (past ++ emitted)).length = (receivedItems 0 past).length + 1 ∧
      ticks.length = (receivedItems 0 past).length + 1 ∧
      Numbered system.memory image.consumerMessage.toNat
        ((receivedItems 0 past).length + 1) := by
  have permitted : createsBeforeStart release.system .advance := by rintro ⟨⟩
  have later : (forge cfg).Run createsBeforeStart (past ++ emitted) system :=
    ends.run.trans (System.step_run permitted ends.moved)
  obtain ⟨_, _, replied, stored, event⟩ := ends.shown
  simp only [observe, replied, ends.deployed.queue.itemSize, ← stored] at event
  have received : receivedItems 0 (past ++ emitted) = receivedItems 0 past ++
      [readBytes system.memory image.consumerMessage.toNat 8] := by
    rw [receivedItems_append, event]
    rfl
  have sent : sentItems 0 (past ++ emitted) = demoStream ticks := by
    rw [sentItems_append, event, same]
    exact List.append_nil _
  have balance := (FifoOk.of_run 0 later).balance
  rw [sent, received, List.append_assoc] at balance
  have held := congrArg List.length balance
  have delivered := congrArg (·[(receivedItems 0 past).length]?) balance
  simp only [demoStream_length, List.length_append, List.length_cons, List.length_nil] at held
  have level : ticks.length = (receivedItems 0 past).length + 1 := by omega
  obtain ⟨tick, next⟩ := demoStream_getElem? (show (receivedItems 0 past).length <
    ticks.length by omega)
  simp only [next, List.getElem?_append_right le_rfl, Nat.sub_self] at delivered
  refine ⟨sent, ?_, level, tick, (Option.some.inj delivered).symm⟩
  rw [received, List.length_append, List.length_singleton]

theorem receives
    {expectedSequence : Word}
    (ends : CallEnds image release past 1
      (.queueReceiveWait (some 0) image.consumerMessage waitForever) (.bool true) system emitted)
    (conveys : Conveys image past release)
    (place : release.tasks 1 = .consumer (.receiving expectedSequence)) :
    Conveys image (past ++ emitted) ((release.settle system).resume (.bool true) (.task 1)) := by
  obtain ⟨ticks, same, pipeline⟩ := conveys
  have consumer := pipeline.consumer
  rw [place] at consumer
  obtain ⟨rfl, counted⟩ := consumer
  obtain ⟨sent, received, level, numbered⟩ := ends.receives_next same pipeline.alternate
  refine ⟨ticks, sent, ?_⟩
  rw [received]
  refine pipeline.update rfl ?_ ?_ (by omega)
  · rw [others (by decide)]
    exact pipeline.producer.congr (fun _ => ends.receive_keeps) rfl
  · rw [task, place]
    refine ⟨rfl, ?_, numbered, level⟩
    rw [← ofNat_succ, ← counted]
    rfl

/-- The producer wakes up and transfers nothing. -/
theorem rests
    {sequence : Word}
    (ends : CallEnds image release past 0 (.taskSleep demoProducerPeriodTicks) (.bool true)
      system emitted)
    (conveys : Conveys image past release)
    (place : release.tasks 0 = .producer (.sleeping sequence)) :
    Conveys image (past ++ emitted) ((release.settle system).resume (.bool true) (.task 0)) := by
  obtain ⟨_, _, _, _, quiet⟩ := ends.shown
  change emitted = [.returned (.task 0) (.taskSleep demoProducerPeriodTicks) (.bool true)] at quiet
  have same := ends.memory (by simp [quiet])
  subst quiet
  refine conveys.still (by simp [Event.moves]) fun sent received pipeline => ?_
  refine pipeline.update rfl ?_ ?_ pipeline.alternate
  · rw [task, place]
    have producer := pipeline.producer
    rw [place] at producer
    exact producer
  · rw [others (by decide)]
    exact pipeline.consumer.congr (fun _ numbered => same.symm ▸ numbered) rfl

/-- The monitor's calls transfer nothing either. -/
theorem watches
    (ends : CallEnds image release past 2 call reply system emitted)
    (conveys : Conveys image past release)
    (watch : call = .kernelCheckInvariants true ∨ call = .taskSleep monitorPollTicks) :
    Conveys image (past ++ emitted) ((release.settle system).resume reply (.task 2)) := by
  rcases watch with rfl | rfl
  all_goals
    obtain ⟨_, _, _, _, quiet⟩ := ends.shown
    change emitted = [.returned (.task 2) _ reply] at quiet
    have same := ends.memory (by simp [quiet])
    subst quiet
    exact conveys.still (by simp [Event.moves]) fun sent received pipeline =>
      pipeline.bystands same rfl (others (by decide)) (others (by decide))

end CallEnds

namespace Conveys

variable {cfg : Config} {image : ReleaseImage cfg} {release next : Release}
  {past emitted : List Event} {index : Nat} {call : Call} {reply : Reply} {system : System}

/-- The end of a call keeps the invariant, whichever call it is. -/
theorem returns
    (conveys : Conveys image past release)
    (ends : CallEnds image release past index call reply system emitted) :
    Conveys image (past ++ emitted) ((release.settle system).resume reply (.task index)) := by
  have fits := ends.deployed.fits index
  have asked := ends.asked
  generalize place : release.tasks index = from_ at asked fits
  cases asked with
  | sends =>
      obtain rfl : index = 0 := fits
      obtain rfl := ends.succeeds.resolve_left (by rintro ⟨⟩)
      exact ends.sends conveys place
  | receives =>
      obtain rfl : index = 1 := fits
      obtain rfl := ends.succeeds.resolve_left (by rintro ⟨⟩)
      exact ends.receives conveys place
  | rests =>
      obtain rfl : index = 0 := fits
      obtain rfl := ends.succeeds.resolve_left (by rintro ⟨⟩)
      exact ends.rests conveys place
  | checks =>
      obtain rfl : index = 2 := fits
      exact ends.watches conveys (Or.inl rfl)
  | pauses =>
      obtain rfl : index = 2 := fits
      exact ends.watches conveys (Or.inr rfl)

/-- A program step of a task. -/
theorem acts
    {input : UsartInput} {events : List ReleaseEvent}
    (conveys : Conveys image past release) (ok : ReleaseOk image release)
    (run : (forge cfg).Run createsBeforeStart past release.system)
    (active : release.system.activeThread = some (.task index))
    (acted : release.act image input (.task index) = some (next, events)) :
    Conveys image past next := by
  obtain ⟨ticks, same, pipeline⟩ := conveys
  refine ⟨ticks, same, ?_⟩
  have core := Core.of_run run
  have runs := core.active_current active
  have deployed := ok.deployed runs.running
  have registered : index < 3 := deployed.taskCount ▸ core.current_lt runs.currentTask
  have hosts := ok.hosts index (core.current_lt runs.currentTask)
  have moved := Release.Moved.acts deployed.fits hosts registered acted
  have fits := deployed.fits index
  simp only [Release.act] at acted
  split at acted
  · rename_i start
    obtain ⟨point, entered, unchanged⟩ := Option.map_eq_some_iff.mp acted
    obtain ⟨rfl, _⟩ := Prod.mk.inj unchanged
    exact pipeline.enters start (ReleaseImage.enter_fits hosts registered entered) entered
  · rename_i point place
    obtain ⟨produced, acts, unchanged⟩ := Option.map_eq_some_iff.mp acted
    obtain ⟨rfl, _⟩ := Prod.mk.inj unchanged
    rw [place] at fits
    obtain rfl : index = 0 := fits
    exact pipeline.produces place (ok.consumer_waits run runs.running active (by decide)).2 acts
  · rename_i point place
    obtain ⟨consumed, acts, unchanged⟩ := Option.map_eq_some_iff.mp acted
    obtain ⟨rfl, _⟩ := Prod.mk.inj unchanged
    rw [place] at fits
    obtain rfl : index = 1 := fits
    refine pipeline.consumes place (fun level => ?_) acts
    have length := (FifoOk.of_run 0 run).length
    rw [same, demoStream_length, level] at length
    exact BitVec.eq_of_toNat_eq (Nat.left_eq_add.mp length)
  · rename_i point place
    rw [place] at fits
    obtain rfl : index = 2 := fits
    exact pipeline.bystands (congrArg System.memory (Release.monitorAct_system acted).1)
      (Release.monitorAct_demo acted) (moved.of_ne (by decide)) (moved.of_ne (by decide))

/-- Nothing has been transferred while the image boots. -/
theorem of_booting (conveys : Conveys image past release) (booting : Booting image release) :
    sentItems 0 past = [] ∧ receivedItems 0 past = [] := by
  obtain ⟨ticks, same, pipeline⟩ := conveys
  have producer := pipeline.producer
  have consumer := pipeline.consumer
  rw [booting.unentered] at producer consumer
  rw [List.length_eq_zero_iff.mp producer.1] at same
  exact ⟨same, List.length_eq_zero_iff.mp consumer.1⟩

/-- A step of the boot code that leaves it booting. -/
theorem boots
    (conveys : Conveys image past release) (booting : Booting image release)
    (after : Booting image next) (unsent : sentItems 0 emitted = [])
    (unreceived : receivedItems 0 emitted = []) : Conveys image (past ++ emitted) next := by
  obtain ⟨sent, received⟩ := conveys.of_booting booting
  refine ⟨[], ?_, ?_⟩
  · rw [sentItems_append, sent, unsent]
    rfl
  · rw [receivedItems_append, received, unreceived]
    exact after.pipeline

theorem step
    {action : ReleaseAction} {events : List ReleaseEvent}
    (conveys : Conveys image past release) (ok : ReleaseOk image release)
    (run : (forge cfg).Run createsBeforeStart past release.system)
    (step : ReleaseStepped image release action next events) :
    Conveys image (past ++ events.flatMap ReleaseEvent.shown) next := by
  have after := ok.step (run.mono fun _ _ _ => trivial) step
  have core := Core.of_run run
  cases step with
  | exception exceptional moved =>
      rw [ReleaseEvent.shown_kernel]
      obtain ⟨_, memory, rfl⟩ := System.step_exception
        (exceptional.imp And.right fun ⟨psp, _, same⟩ => ⟨psp, same⟩) moved
      exact conveys.still (fun _ present => absurd present List.not_mem_nil) fun _ _ pipeline =>
        pipeline.bystands memory rfl rfl rfl
  | invokes active requested moved =>
      rw [ReleaseEvent.shown_kernel]
      obtain ⟨rfl, _, rfl⟩ := System.invoke_result active moved
      exact conveys.still (by simp [Event.moves]) fun _ _ pipeline =>
        pipeline.bystands rfl rfl rfl rfl
  | advances active inCall stepped outcome moved =>
      rw [ReleaseEvent.shown_kernel]
      have still := still_of_goto active inCall stepped outcome moved
      refine conveys.still (still 0) fun _ _ pipeline => pipeline.bystands ?_ rfl rfl rfl
      rcases step_memory moved with same | ⟨_, _, stores⟩ | ⟨_, queue, _, _, received⟩
      · exact same
      · cases stores
      · exact absurd (still queue _ received) (by simp [Event.moves])
  | @returns _ thread _ _ _ reply system _ active inCall stepped outcome moved =>
      rw [ReleaseEvent.shown_kernel]
      cases thread with
      | task index =>
          exact conveys.returns ⟨ok, run, active, moved, _, _, inCall, stepped, outcome⟩
      | boot =>
          have stopped := core.stopped_of_boot active
          have stoppedAfter :
              ((release.settle system).resume reply .boot).system.kernel.running = false := by
            rw [Release.resume_system, Release.settle_system]
            by_contra running
            obtain ⟨called, departed⟩ := (core.step moved).departed (Bool.not_eq_false _ ▸ running)
            rw [(System.advance_result active inCall stepped moved).1,
              System.setFrame_frames_self, outcome] at departed
            cases departed
          refine conveys.boots (ok.booting stopped) (after.booting stoppedAfter) ?_ ?_
          all_goals
            cases core.queueMove moved 0 with
            | keeps _ silent => first
              | exact sentItems_of_still silent
              | exact receivedItems_of_still silent
            | configures => rfl
            | sends _ running | receives _ running =>
                exact absurd (stopped.symm.trans running) Bool.false_ne_true
  | @acts _ thread _ _ active user requested acted =>
      rw [(Release.act_system acted).1, List.append_nil]
      cases thread with
      | task index => exact conveys.acts ok run active acted
      | boot =>
          have stopped := core.stopped_of_boot active
          have booting := ok.booting stopped
          obtain ⟨_, kernel, _⟩ := Release.act_run active user acted
          rw [← List.append_nil past]
          exact conveys.boots booting (after.booting (kernel ▸ stopped)) rfl rfl

theorem of_run
    {allowed : Release → ReleaseAction → Prop} {events : List ReleaseEvent}
    (run : (releaseMachine image).Run allowed events release) :
    Conveys image (events.flatMap ReleaseEvent.shown) release := by
  have projects : Machine.Projects (releaseMachine image) (forge cfg) allowed createsBeforeStart
      Release.system ReleaseEvent.shown :=
    release_projects (fun _ _ _ permitted => permitted) fun _ _ _ creates => by cases creates
  refine (projects.invariant
    (motive := fun events release => ReleaseOk image release ∧
      Conveys image (events.flatMap ReleaseEvent.shown) release)
    run ⟨.initial image, [], rfl, ((ReleaseOk.initial image).booting rfl).pipeline⟩ ?_).2
  rintro events emitted middle next action reached ⟨ok, conveys⟩ _ stepped
  have step := Release.stepped stepped
  refine ⟨ok.step (reached.mono fun _ _ _ => trivial) step, ?_⟩
  rw [List.flatMap_append]
  exact conveys.step ok reached step

end Conveys

/-- Messages that a task has transferred and not counted yet. -/
def TaskPoint.uncounted : TaskPoint → Word
  | .producer .recording | .consumer (.received _) | .consumer (.recording _ _) => 1
  | _ => 0

theorem ProducerOk.counted
    {cfg : Config} {image : ReleaseImage cfg} {release : Release} {sent : Nat} {point : TaskPoint}
    (ok : ProducerOk image release sent point) :
    release.demo.messagesSent + point.uncounted = BitVec.ofNat 32 sent := by
  cases point with
  | start =>
      obtain ⟨rfl, unsent⟩ := ok
      rw [unsent]
      rfl
  | producer point =>
      cases point with
      | building | sleeping => exact (BitVec.add_zero _).trans ok.2
      | sending => exact (BitVec.add_zero _).trans ok.2.1
      | recording => exact ok.1
      | sendFailed | sleepFailed => exact ok.elim
  | consumer | monitor => exact ok.elim

theorem ConsumerOk.counted
    {cfg : Config} {image : ReleaseImage cfg} {release : Release} {sent received : Nat}
    {point : TaskPoint} (ok : ConsumerOk image release sent received point) :
    release.demo.messagesReceived + point.uncounted = BitVec.ofNat 32 received := by
  cases point with
  | start =>
      obtain ⟨rfl, unreceived⟩ := ok
      rw [unreceived]
      rfl
  | consumer point =>
      cases point with
      | receiving => exact (BitVec.add_zero _).trans ok.2
      | received | recording => exact ok.2.1
      | signaling => exact (BitVec.add_zero _).trans ok.2.1
      | receiveFailed => exact ok.elim
  | producer | monitor => exact ok.elim

/-- While the monitor runs, nothing is in flight and both counters are up to date. -/
theorem Pipeline.settled
    {cfg : Config} {image : ReleaseImage cfg} {release : Release} {past : List Event}
    {ticks : List Word}
    (pipeline : Pipeline image release ticks.length (receivedItems 0 past).length)
    (same : sentItems 0 past = demoStream ticks) (ok : ReleaseOk image release)
    (run : (forge cfg).Run createsBeforeStart past release.system)
    (active : release.system.activeThread = some (.task 2)) :
    (receivedItems 0 past).length = ticks.length ∧
      release.demo.messagesSent = BitVec.ofNat 32 (receivedItems 0 past).length ∧
      release.demo.messagesReceived = BitVec.ofNat 32 (receivedItems 0 past).length := by
  have running := ((Core.of_run run).active_current active).running
  obtain ⟨⟨_, receives⟩, empty⟩ := ok.consumer_waits run running active (by decide)
  obtain ⟨_, rests⟩ := ok.producer_rests run running active
  have length := (FifoOk.of_run 0 run).length
  have sent := pipeline.producer
  have received := pipeline.consumer
  rw [rests] at sent
  rw [receives] at received
  rw [empty, same, demoStream_length] at length
  exact ⟨length.symm, sent.2.trans (congrArg (BitVec.ofNat 32) length), received.2⟩

/-- Every message arrives, unchanged and in order, before the next one is sent; the
counters follow, and no error is ever counted. -/
theorem demo_delivers
    {cfg : Config} {image : ReleaseImage cfg} {events : List ReleaseEvent} {release : Release}
    (run : (releaseMachine image).Run Machine.anyStep events release) :
    let past := events.flatMap ReleaseEvent.shown
    let received := (receivedItems 0 past).length
    ∃ ticks : List Word,
      sentItems 0 past = demoStream ticks ∧
      receivedItems 0 past = (demoStream ticks).take received ∧
      received ≤ ticks.length ∧ ticks.length ≤ received + 1 ∧
      release.demo.messagesSent + (release.tasks 0).uncounted = BitVec.ofNat 32 ticks.length ∧
      release.demo.messagesReceived + (release.tasks 1).uncounted = BitVec.ofNat 32 received ∧
      release.demo.lastSentSequence = release.demo.messagesSent ∧
      release.demo.lastReceivedSequence = release.demo.messagesReceived ∧
      release.demo.queueDepth = 0 ∧ release.demo.orderErrors = 0 ∧
      release.demo.sendErrors = 0 ∧ release.demo.receiveErrors = 0 ∧
      release.demo.taskCreateErrors = 0 ∧
      (release.system.activeThread = some (.task 2) →
        received = ticks.length ∧
        release.demo.messagesSent = BitVec.ofNat 32 received ∧
        release.demo.messagesReceived = BitVec.ofNat 32 received) := by
  have ok := ReleaseOk.of_run run
  have kernelRun := release_run run
  obtain ⟨ticks, same, pipeline⟩ := Conveys.of_run run
  have fifo := FifoOk.of_run 0 kernelRun
  have length := fifo.length
  rw [same, demoStream_length] at length
  refine ⟨ticks, same, ?_, by omega, pipeline.alternate, pipeline.producer.counted,
    pipeline.consumer.counted, pipeline.lastSent, pipeline.lastReceived, pipeline.queueDepth,
    pipeline.orderErrors, pipeline.sendErrors, pipeline.receiveErrors,
    pipeline.taskCreateErrors, fun active => ?_⟩
  · rw [← same, fifo.balance, List.take_left]
  · exact pipeline.settled same ok kernelRun active

/-- One message goes through. -/
theorem first_message_delivered :
    ∃ events release,
      (releaseMachine ReleaseImage.default).Run Machine.anyStep events release ∧
      release.system.activeThread = some (.task 2) ∧
      (sentItems 0 (events.flatMap ReleaseEvent.shown)).length = 1 ∧
      release.demo.messagesReceived = 1 := by
  obtain ⟨events, release, run, reached⟩ :=
    Machine.RunFrom.exists_of_execFrom (releaseMachine ReleaseImage.default) Machine.anyStep
      Release.reset ReleaseImage.default.opening
      (fun events release => decide (release.system.activeThread = some (.task 2) ∧
        (sentItems 0 (events.flatMap ReleaseEvent.shown)).length = 1))
      (by decide +kernel)
  obtain ⟨active, sent⟩ := of_decide_eq_true reached
  obtain ⟨ticks, same, _, _, _, _, _, _, _, _, _, _, _, _, settled⟩ := demo_delivers run
  obtain ⟨level, _, counted⟩ := settled active
  rw [same, demoStream_length] at sent
  rw [level, sent] at counted
  exact ⟨events, release, run, active, by rw [same, demoStream_length, sent], counted⟩

end ForgeKernel
