import ForgeKernel.Library.LittleEndian
import ForgeKernel.Model.System

/-!
# The release demo

`demo.c`: a producer that sends a numbered message every hundred ticks and a
consumer that checks the numbers.  Each task function is cut at its kernel calls
and at its accesses of data that other threads touch; a critical section is one
step.  A program point carries the locals that are live there.
-/

namespace ForgeKernel

/-- `fr_release_demo_message_t`. -/
structure DemoMessage where
  sequence : Word
  producedTick : Word
  deriving DecidableEq, Repr

/-- A message as it lies in memory. -/
def DemoMessage.bytes (message : DemoMessage) : List Byte :=
  LittleEndian.bytes 4 message.sequence.toNat ++
    LittleEndian.bytes 4 message.producedTick.toNat

/-- The word that four bytes of memory hold. -/
def readWord (memory : Memory) (address : Nat) : Word :=
  BitVec.ofNat 32 (LittleEndian.value (readBytes memory address 4))

/-- Store consecutive bytes. -/
def storeBytes (memory : Memory) : Nat → List Byte → Memory
  | _, [] => memory
  | address, byte :: bytes =>
      storeBytes (Function.update memory address byte) (address + 1) bytes

/-- `FR_RELEASE_DEMO_QUEUE_CAPACITY`. -/
def demoQueueCapacity : Word := 8

/-- `sizeof(fr_release_demo_message_t)`. -/
def demoMessageSize : Word := 8

/-- `FR_RELEASE_DEMO_PRODUCER_PERIOD_TICKS`. -/
def demoProducerPeriodTicks : Word := 100

/-- `FR_RELEASE_DEMO_LED_MESSAGE_INTERVAL`. -/
def demoLedMessageInterval : Word := 5

/-- `fr_release_demo_status_t`. -/
structure DemoStatus where
  initialized : Bool
  producerTaskId : Nat
  consumerTaskId : Nat
  messagesSent : Word
  messagesReceived : Word
  lastSentSequence : Word
  lastReceivedSequence : Word
  queueDepth : Word
  maxLatencyTicks : Word
  orderErrors : Word
  sendErrors : Word
  receiveErrors : Word
  taskCreateErrors : Word
  deriving DecidableEq, Repr

/-- The status in zero-initialized storage. -/
def DemoStatus.zero : DemoStatus := ⟨false, 0, 0, 0, 0, 0, 0, 0, 0, 0, 0, 0, 0⟩

/-- `fr_release_demo_record_send_error`. -/
def DemoStatus.recordSendError (status : DemoStatus) : DemoStatus :=
  { status with sendErrors := status.sendErrors + 1 }

/-- `fr_release_demo_record_receive_error`. -/
def DemoStatus.recordReceiveError (status : DemoStatus) : DemoStatus :=
  { status with receiveErrors := status.receiveErrors + 1 }

/-- A failed step of `fr_release_demo_create_tasks`. -/
def DemoStatus.recordCreateError (status : DemoStatus) : DemoStatus :=
  { status with taskCreateErrors := status.taskCreateErrors + 1 }

/-- The critical section of the producer's loop. -/
def DemoStatus.recordSent (status : DemoStatus) (sequence count : Word) : DemoStatus :=
  { status with
    messagesSent := status.messagesSent + 1
    lastSentSequence := sequence
    queueDepth := count }

/-- The critical section of the consumer's loop. -/
def DemoStatus.recordReceived
    (status : DemoStatus) (sequence expectedSequence latency count : Word) : DemoStatus :=
  { status with
    messagesReceived := status.messagesReceived + 1
    lastReceivedSequence := sequence
    queueDepth := count
    orderErrors :=
      if sequence ≠ expectedSequence then status.orderErrors + 1 else status.orderErrors
    maxLatencyTicks :=
      if status.maxLatencyTicks < latency then latency else status.maxLatencyTicks }

/-- The value of `expected_sequence` after that section. -/
def demoNextExpected (sequence expectedSequence : Word) : Word :=
  if sequence ≠ expectedSequence then sequence + 1 else expectedSequence + 1

/-- Where `fr_release_demo_producer_entry` stands, with its local `sequence`. -/
inductive ProducerPoint
  /-- At the head of the loop; the message is built next. -/
  | building (sequence : Word)
  /-- In `fr_queue_send_wait`. -/
  | sending (sequence : Word)
  /-- The send failed. -/
  | sendFailed (sequence : Word)
  /-- The send succeeded; `sequence` is read back from the message next. -/
  | recording
  /-- In `fr_task_sleep`. -/
  | sleeping (sequence : Word)
  /-- The sleep failed. -/
  | sleepFailed (sequence : Word)
  deriving DecidableEq, Repr

/-- Where `fr_release_demo_consumer_entry` stands, with its locals. -/
inductive ConsumerPoint
  /-- In `fr_queue_receive_wait`. -/
  | receiving (expectedSequence : Word)
  /-- The receive failed. -/
  | receiveFailed (expectedSequence : Word)
  /-- The receive succeeded; the latency is computed next. -/
  | received (expectedSequence : Word)
  /-- Before the critical section. -/
  | recording (expectedSequence latency : Word)
  /-- After it; the LED is next. -/
  | signaling (expectedSequence received : Word)
  deriving DecidableEq, Repr

/-- The configuration of one of the image's tasks: 128 stack words, no argument. -/
def releaseTaskConfig (entry stackMemory : Word) (priority : Nat) : TaskConfig :=
  ⟨entry, 0, stackMemory, 128, priority⟩

/-- The addresses that the compiler and the linker give to the functions and data
of the release image.  The proof fields say that functions and objects have
distinct addresses, that the stacks are aligned and inside the address space, and
that the configuration has room for the image's tasks. -/
structure ReleaseImage (cfg : Config) where
  producerEntry : Word
  consumerEntry : Word
  monitorEntry : Word
  producerStack : Word
  consumerStack : Word
  monitorStack : Word
  /-- `g_fr_release_demo_queue_storage`. -/
  queueStorage : Word
  /-- The local `message` of the producer. -/
  producerMessage : Word
  /-- The local `message` of the consumer. -/
  consumerMessage : Word
  tasks_le : 3 ≤ cfg.maxTasks
  priorities_le : 4 ≤ cfg.maxTaskPriority
  entries_ne_null : producerEntry ≠ 0 ∧ consumerEntry ≠ 0 ∧ monitorEntry ≠ 0
  entries_ne : producerEntry ≠ consumerEntry ∧ producerEntry ≠ monitorEntry ∧
    consumerEntry ≠ monitorEntry
  producerStack_valid :
    taskStackIsValid cfg (releaseTaskConfig producerEntry producerStack 3) = true
  consumerStack_valid :
    taskStackIsValid cfg (releaseTaskConfig consumerEntry consumerStack 4) = true
  monitorStack_valid :
    taskStackIsValid cfg (releaseTaskConfig monitorEntry monitorStack 1) = true
  queueStorage_ne_null : queueStorage ≠ 0
  messages_ne_null : producerMessage ≠ 0 ∧ consumerMessage ≠ 0
  messages_apart : producerMessage.toNat + 8 ≤ consumerMessage.toNat ∨
    consumerMessage.toNat + 8 ≤ producerMessage.toNat

/-- An image with its data in the SRAM and its code in the flash of the port. -/
def ReleaseImage.default : ReleaseImage .default where
  producerEntry := 0x08001001#32
  consumerEntry := 0x08002001#32
  monitorEntry := 0x08003001#32
  producerStack := 0x20001000#32
  consumerStack := 0x20001200#32
  monitorStack := 0x20001400#32
  queueStorage := 0x20001600#32
  producerMessage := 0x200011C0#32
  consumerMessage := 0x200013C0#32
  tasks_le := by decide
  priorities_le := by decide
  entries_ne_null := by decide
  entries_ne := by decide
  producerStack_valid := by decide
  consumerStack_valid := by decide
  monitorStack_valid := by decide
  queueStorage_ne_null := by decide
  messages_ne_null := by decide
  messages_apart := by decide

namespace ReleaseImage

variable {cfg : Config} (image : ReleaseImage cfg)

/-- `producer_config`. -/
def producerConfig : TaskConfig :=
  releaseTaskConfig image.producerEntry image.producerStack 3

/-- `consumer_config`. -/
def consumerConfig : TaskConfig :=
  releaseTaskConfig image.consumerEntry image.consumerStack 4

end ReleaseImage

/-- The kernel call at a point of the producer. -/
def ProducerPoint.request {cfg : Config} (image : ReleaseImage cfg) : ProducerPoint → Option Call
  | .sending _ => some (.queueSendWait (some 0) image.producerMessage waitForever)
  | .sleeping _ => some (.taskSleep demoProducerPeriodTicks)
  | _ => none

/-- Where the producer goes when its call returns. -/
def ProducerPoint.resume (succeeded : Bool) : ProducerPoint → ProducerPoint
  | .sending sequence => if succeeded then .recording else .sendFailed sequence
  | .sleeping sequence => if succeeded then .building sequence else .sleepFailed sequence
  | point => point

/-- The kernel call at a point of the consumer. -/
def ConsumerPoint.request {cfg : Config} (image : ReleaseImage cfg) : ConsumerPoint → Option Call
  | .receiving _ => some (.queueReceiveWait (some 0) image.consumerMessage waitForever)
  | _ => none

/-- Where the consumer goes when its call returns. -/
def ConsumerPoint.resume (succeeded : Bool) : ConsumerPoint → ConsumerPoint
  | .receiving expectedSequence =>
      if succeeded then .received expectedSequence else .receiveFailed expectedSequence
  | point => point

end ForgeKernel
