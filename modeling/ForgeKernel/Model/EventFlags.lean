import ForgeKernel.Model.Scheduler

/-!
# Event flags

`event_flags.c`.  A set evaluates every waiter against one snapshot and clears
the collected masks afterwards.
-/

namespace ForgeKernel

/-- `fr_event_flags_condition_met`, with the matched bits as `bits &&& mask`. -/
def eventFlagsConditionMet (bits mask : Word) (waitAll : Bool) : Bool :=
  if waitAll then decide (bits &&& mask = mask) else decide (bits &&& mask ≠ 0)

/-- `fr_event_flags_init`. -/
def eventFlagsInit (kernel : Kernel) (index : Nat) : Kernel × Bool :=
  if kernel.running then (kernel, false)
  else (kernel.setEventFlags index ⟨eventFlagsMagic, 0⟩, true)

/-- The checks that open the critical sections of set, clear and get. -/
def eventFlagsEntryAllowed (cpu : Cpu) (kernel : Kernel) (index : Nat) : Bool :=
  cpu.threadContextAllowed && decide (cpu.basepri = 0) &&
    decide ((kernel.eventFlags index).magic = eventFlagsMagic) && kernel.running &&
    (schedulerCurrentTask kernel).isSome

/-- Loop state of the broadcast in `fr_event_flags_set`. -/
structure Broadcast where
  kernel : Kernel
  clearMask : Word
  taskWoken : Bool

/-- One iteration of the broadcast loop over snapshot `currentBits`. -/
def eventFlagsSetStep
    (index : Nat) (currentBits : Word) (loop : Broadcast) (position : Nat) : Broadcast :=
  let waiter := loop.kernel.tasks position
  if Task.waitsOn .eventFlags (.eventFlags index) waiter = false ∨
      waiter.waitFlagsMask = 0 then loop
  else if eventFlagsConditionMet currentBits waiter.waitFlagsMask waiter.waitFlagsAll =
      false then loop
  else
    let kernel := loop.kernel.setTask position
      { waiter with waitFlagsResult := currentBits &&& waiter.waitFlagsMask }
    let woken := schedulerUnblockTaskLocked kernel position .signaled
    if woken.2 then
      { kernel := woken.1
        clearMask :=
          if waiter.waitFlagsClearOnExit then loop.clearMask ||| waiter.waitFlagsMask
          else loop.clearMask
        taskWoken := true }
    else { loop with kernel := woken.1 }

/-- `fr_event_flags_set`. -/
def eventFlagsSet (cpu : Cpu) (kernel : Kernel) (index : Nat) (bits : Word) :
    Kernel × Bool :=
  if bits = 0 ∨ eventFlagsEntryAllowed cpu kernel index = false then (kernel, false)
  else
    let flags := kernel.eventFlags index
    let currentBits := flags.bits ||| bits
    let kernel := kernel.setEventFlags index { flags with bits := currentBits }
    let loop := (List.range kernel.taskCount).foldl
      (eventFlagsSetStep index currentBits) ⟨kernel, 0, false⟩
    let flags := loop.kernel.eventFlags index
    let kernel := loop.kernel.setEventFlags index
      { flags with bits := flags.bits &&& ~~~loop.clearMask }
    (if loop.taskWoken then schedulerRequestIfNeededLocked kernel else kernel, true)

/-- `fr_event_flags_clear`. -/
def eventFlagsClear (cpu : Cpu) (kernel : Kernel) (index : Nat) (bits : Word) :
    Kernel × Bool :=
  if bits = 0 ∨ eventFlagsEntryAllowed cpu kernel index = false then (kernel, false)
  else
    let flags := kernel.eventFlags index
    (kernel.setEventFlags index { flags with bits := flags.bits &&& ~~~bits }, true)

/-- `fr_event_flags_get`; `none` is the `false` return. -/
def eventFlagsGet (cpu : Cpu) (kernel : Kernel) (index : Nat) : Option Word :=
  if eventFlagsEntryAllowed cpu kernel index then some (kernel.eventFlags index).bits
  else none

/-- The parameters of one `fr_event_flags_wait`. -/
structure FlagsRequest where
  mask : Word
  waitAll : Bool
  clearOnExit : Bool
  deriving DecidableEq, Repr

/-- The critical section of `fr_event_flags_wait`: the return value with the
matched bits reported, or a block. -/
def eventFlagsWaitSection
    (cpu : Cpu) (kernel : Kernel) (index : Nat) (request : FlagsRequest)
    (timeout : WaitTimeout) : Kernel × Progress (Bool × Word) :=
  match schedulerCurrentTask kernel with
  | none => (kernel, .returned (false, 0))
  | some current =>
      let flags := kernel.eventFlags index
      if cpu.basepri ≠ 0 ∨ flags.magic ≠ eventFlagsMagic ∨ kernel.running = false then
        (kernel, .returned (false, 0))
      else if eventFlagsConditionMet flags.bits request.mask request.waitAll then
        let kernel :=
          if request.clearOnExit then
            kernel.setEventFlags index { flags with bits := flags.bits &&& ~~~request.mask }
          else kernel
        (kernel, .returned (true, flags.bits &&& request.mask))
      else
        match waitTimeoutRemaining kernel.tickCount timeout with
        | none => (kernel, .returned (false, 0))
        | some waitTicks =>
            let kernel := kernel.setTask current { kernel.tasks current with
              waitFlagsMask := request.mask
              waitFlagsResult := 0
              waitFlagsAll := request.waitAll
              waitFlagsClearOnExit := request.clearOnExit }
            let blocked := schedulerBlockCurrentLocked kernel .eventFlags
              (some (.eventFlags index)) waitTicks
            if blocked.2 then (blocked.1, .waiting)
            else
              (blocked.1.setTask current { blocked.1.tasks current with
                waitFlagsMask := 0
                waitFlagsAll := false
                waitFlagsClearOnExit := false }, .returned (false, 0))

end ForgeKernel
