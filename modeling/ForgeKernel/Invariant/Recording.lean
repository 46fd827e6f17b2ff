import ForgeKernel.Invariant.Scheduling

/-!
# Recorded events

How the kernel writes its trace.  Apart from the three operations of the trace interface
itself, every operation changes it by calls of `fr_trace_record_locked` at the present tick.
-/

namespace ForgeKernel

/-- The trace after one call of the recording function at tick `now`. -/
def Trace.enter (now : Word) (trace : Trace) (call : TraceCall) : Trace :=
  { traceRecordLocked trace now call.event call.taskId call.arg0 call.arg1 with
    calls := trace.calls ++ [call] }

namespace Kernel

/-- The trace of `after` is that of `before` with some calls entered. -/
structure Recorded (before after : Kernel) : Prop where
  tickCount : after.tickCount = before.tickCount
  trace : ∃ calls : List TraceCall, (∀ call ∈ calls, call.event ≠ .none) ∧
    after.trace = calls.foldl (Trace.enter before.tickCount) before.trace

namespace Recorded

variable {before after : Kernel}

/-- A step that leaves the trace alone enters nothing. -/
theorem of_trace
    (tickCount : after.tickCount = before.tickCount) (trace : after.trace = before.trace) :
    before.Recorded after :=
  ⟨tickCount, [], fun _ impossible => absurd impossible List.not_mem_nil, trace⟩

theorem refl (kernel : Kernel) : kernel.Recorded kernel :=
  .of_trace rfl rfl

/-- Entries of two steps follow one another. -/
theorem trans
    {first second third : Kernel} (left : first.Recorded second)
    (right : second.Recorded third) : first.Recorded third := by
  obtain ⟨sameTick, earlier, named, before⟩ := left
  obtain ⟨sameTickAgain, later, namedAgain, after⟩ := right
  refine ⟨sameTickAgain.trans sameTick, earlier ++ later, fun call present => ?_, ?_⟩
  · rcases List.mem_append.mp present with early | late
    · exact named call early
    · exact namedAgain call late
  · rw [after, before, sameTick, List.foldl_append]

/-- One more call. -/
theorem record
    (recorded : before.Recorded after) {event : TraceEvent} (valid : event ≠ .none)
    (taskId : Nat) (arg0 arg1 : Word) :
    before.Recorded (after.record event taskId arg0 arg1) :=
  recorded.trans ⟨rfl, [⟨event, taskId, arg0, arg1⟩],
    fun _ present => List.mem_singleton.mp present ▸ valid, rfl⟩

/-- A block enters one call of the recording function at most. -/
theorem blocks
    (kernel : Kernel) (reason : WaitReason) (object : Option ObjectRef) (ticks : Word) :
    kernel.Recorded (schedulerBlockCurrentLocked kernel reason object ticks).1 := by
  unfold schedulerBlockCurrentLocked
  split
  · exact .refl kernel
  · split
    · rename_i current _
      split
      · exact .refl kernel
      · dsimp only
        generalize (kernel.tasks current).beginWait reason object ticks kernel.tickCount = task
        have waits : kernel.Recorded (kernel.setTask current task) := .of_trace rfl rfl
        split
        · have recorded : kernel.Recorded ((kernel.setTask current task).record .taskBlock
              task.id reason.code ticks) := waits.record (by decide) _ _ _
          exact recorded.trans (.of_trace rfl rfl)
        · exact waits.trans (.of_trace rfl rfl)
    · exact .refl kernel

/-- An unblock enters at most the timeout and the wake-up. -/
theorem unblocks (kernel : Kernel) (index : Nat) (result : WaitResult) :
    kernel.Recorded (schedulerUnblockTaskLocked kernel index result).1 := by
  unfold schedulerUnblockTaskLocked
  dsimp only
  have expires : kernel.Recorded (if result = .timeout then
      kernel.record .taskTimeout (kernel.tasks index).id (kernel.tasks index).waitReason.code
        (kernel.tasks index).waitDeadline else kernel) := by
    split
    · exact (refl kernel).record (by decide) _ _ _
    · exact .refl kernel
  generalize (if result = .timeout then
    kernel.record .taskTimeout (kernel.tasks index).id (kernel.tasks index).waitReason.code
      (kernel.tasks index).waitDeadline else kernel) = expired at expires ⊢
  generalize (kernel.tasks index).endWait result _ = woken
  have ends : kernel.Recorded (expired.setTask index woken) :=
    expires.trans (.of_trace rfl rfl)
  split
  · exact .refl kernel
  · split
    · exact ends.record (by decide) _ _ _
    · exact ends.trans (.of_trace rfl rfl)

/-- A request enters nothing. -/
theorem requests (kernel : Kernel) :
    kernel.Recorded (schedulerRequestIfNeededLocked kernel) := by
  rw [schedulerRequestIfNeededLocked_eq]
  exact .of_trace rfl rfl

end Recorded

end Kernel

end ForgeKernel
