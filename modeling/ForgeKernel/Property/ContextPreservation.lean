import ForgeKernel.Invariant.ContextSwitch

/-!
# Context preservation

Whatever the tasks do to their registers and to memory outside the stacks of other tasks, a task
that a switch resumes has the context with which it was preempted, and one that has never run has
the context that `fr_task_create` built.
-/

namespace ForgeKernel

open Machines WordMemory

/-! ## What tasks may do -/

namespace Board

/-- An address outside the stacks of all tasks but the running one. -/
def Outside (cfg : Config) (board : Board) (address : Word) : Prop :=
  ∀ ref ∈ board.system.kernel.stackOwners, board.system.kernel.currentTask ≠ some ref →
    ¬(board.system.kernel.stackTask cfg ref).OnStack address

instance outsideDecidable (cfg : Config) (board : Board) (address : Word) :
    Decidable (board.Outside cfg address) :=
  inferInstanceAs (Decidable (∀ _ ∈ _, _ → _))

/-- Stores spare the stacks of other tasks. -/
def SparesOthers (cfg : Config) (board : Board) : BoardAction → Prop
  | .store address _ => board.Outside cfg address
  | _ => True

instance sparesOthersDecidable (cfg : Config) (board : Board) :
    (action : BoardAction) → Decidable (board.SparesOthers cfg action)
  | .store address _ => inferInstanceAs (Decidable (board.Outside cfg address))
  | .execute _ _ | .kernel _ | .pendSv _ => .isTrue trivial

/-- Stacks are disjoint, and no task stores to the stack of another. -/
def TasksApart (cfg : Config) (board : Board) (action : BoardAction) : Prop :=
  board.system.kernel.StacksApart cfg ∧ board.SparesOthers cfg action

instance tasksApartDecidable (cfg : Config) (board : Board) (action : BoardAction) :
    Decidable (board.TasksApart cfg action) :=
  inferInstanceAs (Decidable (_ ∧ _))

/-- Exception entry stacks its frame on the stack of the running task. -/
def StaysOnStack (board : Board) : BoardAction → Prop
  | .pendSv _ => ∀ current ∈ board.system.kernel.currentTask,
      (board.system.kernel.taskAt current).stackBase ≤ framePointer board.psp ∧
        (framePointer board.psp).toNat + 32 ≤
          (board.system.kernel.taskAt current).stackTop.toNat
  | _ => True

instance staysOnStackDecidable (board : Board) :
    (action : BoardAction) → Decidable (board.StaysOnStack action)
  | .pendSv _ => inferInstanceAs (Decidable (∀ current ∈ board.system.kernel.currentTask, _ ∧ _))
  | .execute _ _ | .store _ _ | .kernel _ => .isTrue trivial

/-- What the tasks of a system may do for their contexts to be safe. -/
def ContextsSafe (cfg : Config) (board : Board) (action : BoardAction) : Prop :=
  board.TasksApart cfg action ∧ board.StaysOnStack action

instance contextsSafeDecidable (cfg : Config) (board : Board) (action : BoardAction) :
    Decidable (board.ContextsSafe cfg action) :=
  inferInstanceAs (Decidable (_ ∧ _))

end Board

/-! ## One step -/

/-- The registers are those of `context`, and in that context the task goes on. -/
structure Board.GoesOn
    (cfg : Config) (events : List BoardEvent) (board : Board) (ref : TaskRef) (context : Context) :
    Prop where
  current : board.system.kernel.currentTask = some ref
  registers : board.registers = context.registers
  psp : board.psp = unstackedPsp context
  resumes : (board.system.kernel.taskAt ref).Resumes cfg (lastPreempted ref events) context

/-- A step after `events` that keeps the contexts and resumes tasks in them. -/
structure BoardStep (cfg : Config) (events : List BoardEvent) (next : Board × List BoardEvent) :
    Prop where
  ok : ContextsOk cfg (events ++ next.2) next.1.system
  goesOn : ∀ ref context, BoardEvent.resumed ref context ∈ next.2 →
    next.1.GoesOn cfg (events ++ next.2) ref context

namespace BoardStep

variable {cfg : Config} {events : List BoardEvent} {board : Board}

theorem silent (ok : ContextsOk cfg events board.system) : BoardStep cfg events (board, []) where
  ok := (List.append_nil events).symm ▸ ok
  goesOn _ _ present := absurd present List.not_mem_nil

/-- Restoring the context that a task holds. -/
theorem restore
    {ref : TaskRef} {savedSp : Word} (ok : ContextsOk cfg events board.system)
    (current : board.system.kernel.currentTask = some ref)
    (stackPointer : savedSp = (board.system.kernel.taskAt ref).savedSp)
    (holds : (board.system.kernel.taskAt ref).Holds cfg board.system.kernel.stackMemory
      (lastPreempted ref events)) :
    BoardStep cfg events (board.restore ref savedSp) where
  ok := ok.emits fun other => lastPreempted_append_resumed other ref events _
  goesOn := by
    intro other context present
    obtain ⟨rfl, rfl⟩ := BoardEvent.resumed.inj (List.mem_singleton.mp present)
    refine ⟨current, rfl, rfl, ?_⟩
    have kept := lastPreempted_append_resumed other other events
      (savedContext board.system.kernel.stackMemory savedSp)
    change (board.system.kernel.taskAt other).Resumes cfg (lastPreempted other
      (events ++ [.resumed other (savedContext board.system.kernel.stackMemory savedSp)]))
      (savedContext board.system.kernel.stackMemory savedSp)
    rw [kept, stackPointer]
    exact holds.resumes

theorem kernelStep
    {action : Action} {next : Board × List BoardEvent} (ok : ContextsOk cfg events board.system)
    (apart : board.system.kernel.StacksApart cfg)
    (noSwitch : ∀ psp, action ≠ .pendSv psp)
    (noStore : ∀ address value, action ≠ .storeWord address value)
    (step : board.kernelStep cfg action = some next) : BoardStep cfg events next := by
  obtain ⟨⟨after, emitted⟩, taken, same⟩ := Option.map_eq_some_iff.mp step
  have stepped := ContextStep.of_step ok apart taken noSwitch noStore
  dsimp only at same
  split at same
  · rename_i starts
    obtain ⟨stopped, running, _⟩ := starts
    subst same
    obtain ⟨first, current⟩ := stepped.ok.core.control.started running
    unfold Board.svcStartFirst
    dsimp only
    rw [current]
    refine restore stepped.ok current ?_
      (stepped.first stopped running first (stepped.ok.core.current_dispatchable current))
    unfold schedulerCurrentSavedSp
    dsimp only
    rw [current]
  · subst same
    exact silent stepped.ok

/-- Leaving a task comes before the rest of a switch. -/
theorem preempts
    {task : TaskRef} {context : Context} {next : Board × List BoardEvent}
    (rest : BoardStep cfg (events ++ [.preempted task context]) next) :
    BoardStep cfg events (next.1, [.preempted task context] ++ next.2) where
  ok := by
    rw [← List.append_assoc]
    exact rest.ok
  goesOn ref resumed present := by
    rw [← List.append_assoc]
    rcases List.mem_append.mp present with left | right
    · cases List.mem_singleton.mp left
    · exact rest.goesOn ref resumed right

end BoardStep

namespace Board

variable {board : Board} {frame : EightWords} {current next : TaskRef}

/-- The board when `fr_scheduler_switch_from_isr` has returned. -/
def switched (board : Board) (frame : EightWords) : Board :=
  { board with system := { board.system with
    kernel := pendSvHandler (board.stacked frame) (framePointer board.psp - 32) } }

theorem left_eq (present : board.system.kernel.currentTask = some current) :
    (board.system.kernel.currentTask.toList.map fun task =>
      BoardEvent.preempted task (board.context frame)) =
        [.preempted current (board.context frame)] := by
  rw [present]
  rfl

theorem pendSv_halted
    (present : board.system.kernel.currentTask = some current)
    (halted : (board.switched frame).system.kernel.halted.isSome = true) :
    board.pendSv frame =
      (board.switched frame, [.preempted current (board.context frame)]) := by
  unfold pendSv
  dsimp only
  rw [left_eq present]
  exact if_pos halted

theorem pendSv_resumed
    (present : board.system.kernel.currentTask = some current)
    (live : (board.switched frame).system.kernel.halted = none)
    (selected : (board.switched frame).system.kernel.currentTask = some next) :
    let restored := (board.switched frame).restore next (schedulerSwitchFromIsr
      { board.stacked frame with pendSv := false } (framePointer board.psp - 32)).2
    board.pendSv frame =
      (restored.1, [.preempted current (board.context frame)] ++ restored.2) := by
  change (pendSvHandler (board.stacked frame) (framePointer board.psp - 32)).halted = _ at live
  change (pendSvHandler (board.stacked frame) (framePointer board.psp - 32)).currentTask = _
    at selected
  unfold pendSv switched
  dsimp only
  rw [left_eq present, live, selected, Option.isSome_none, if_neg Bool.false_ne_true]

/-- The words that exception entry and the handler store. -/
theorem stacked_stackMemory (board : Board) (frame : EightWords) :
    (board.stacked frame).stackMemory = storeEight (storeEight
      board.system.kernel.stackMemory (framePointer board.psp - 32 + 32)
      (stackedFrame board.psp frame)) (framePointer board.psp - 32) board.registers := by
  rw [BitVec.sub_add_cancel]
  rfl

/-- They make up the context of the task that is left. -/
theorem savedContext_stackMemory (board : Board) (frame : EightWords) :
    savedContext (board.stacked frame).stackMemory (framePointer board.psp - 32) =
      board.context frame := by
  rw [stacked_stackMemory, savedContext_stacked, BitVec.sub_add_cancel]
  rfl

end Board

namespace BoardStep

variable {cfg : Config} {events : List BoardEvent} {board : Board}

/-- The handler stores the context of the running task and loads that of the next one. -/
theorem pendSv
    {frame : EightWords} (ok : ContextsOk cfg events board.system)
    (apart : board.system.kernel.StacksApart cfg) (stays : board.StaysOnStack (.pendSv frame))
    (live : board.system.kernel.halted = none) (due : board.system.pendSvDue = true) :
    BoardStep cfg events (board.pendSv frame) := by
  have running := ok.stacksOk.kernel.pending ((Bool.and_eq_true _ _).mp due).1
  obtain ⟨current, present⟩ := ok.core.control.started running
  obtain ⟨above, below⟩ := stays current present
  cases valid : schedulerSavedSpValid (board.system.kernel.taskAt current)
      (framePointer board.psp - 32) with
  | false =>
      obtain ⟨halted, rejected⟩ :=
        ok.rejects (board.stacked frame).stackMemory live due present valid
      rw [Board.pendSv_halted present halted]
      exact preempts (silent rejected)
  | true =>
      have inside := ok.context_inside apart present above below valid
      obtain ⟨_, _, _, base, _⟩ := schedulerSavedSpValid_iff.mp valid
      have held : ContextsOk cfg events
          (board.system.withStackMemory (board.stacked frame).stackMemory) := by
        rw [Board.stacked_stackMemory]
        exact ok.stacks apart present (BitVec.le_def.mpr base) inside
      have sameTask : (board.system.withStackMemory (board.stacked frame).stackMemory).kernel.taskAt
          current = board.system.kernel.taskAt current := by
        cases current <;> rfl
      have done := held.switches live due present (sameTask.symm ▸ valid)
        (sameTask.symm ▸ inside) (board.savedContext_stackMemory frame)
      obtain ⟨next, selected, stackPointer, holds⟩ := done.next
      rw [Board.pendSv_resumed present done.live selected]
      exact preempts (restore done.ok selected stackPointer holds)

/-- Every step keeps the contexts and resumes tasks in them. -/
theorem of_step
    {action : BoardAction} {next : Board × List BoardEvent}
    (ok : ContextsOk cfg events board.system) (safe : board.ContextsSafe cfg action)
    (step : board.step cfg action = some next) : BoardStep cfg events next := by
  obtain ⟨⟨apart, spares⟩, stays⟩ := safe
  cases action with
  | execute registers psp =>
      simp only [Board.step] at step
      split at step
      · obtain rfl := Option.some.inj step
        exact silent ok
      · cases step
  | store address value =>
      simp only [Board.step] at step
      split at step
      · obtain rfl := Option.some.inj step
        refine silent (ok.stores fun ref owner other place inside => Function.update_of_ne ?_ _ _)
        rintro rfl
        exact spares ref owner other inside
      · cases step
  | kernel action =>
      cases action with
      | pendSv psp => cases step
      | storeWord address value => cases step
      | sysTick | invoke _ | advance | storeByte _ _ | setMasks _ _ _ =>
          exact kernelStep ok apart (fun _ => Action.noConfusion) (fun _ _ => Action.noConfusion)
            step
  | pendSv frame =>
      simp only [Board.step] at step
      split at step
      · cases step
      · rename_i taken
        obtain rfl := Option.some.inj step
        simp only [Bool.or_eq_true, not_or, Bool.not_eq_true, Bool.not_eq_true',
          Option.isSome_eq_false_iff, Option.isNone_iff_eq_none, Bool.not_eq_false] at taken
        exact pendSv ok apart stays taken.1 taken.2

end BoardStep

/-! ## All runs -/

theorem ContextsOk.of_run
    {cfg : Config} {registers : EightWords} {psp : Word} {events : List BoardEvent} {state : Board}
    (run : (board cfg registers psp).Run (Board.ContextsSafe cfg) events state) :
    ContextsOk cfg events state.system :=
  run.invariant (motive := fun events state => ContextsOk cfg events state.system) (.initial cfg)
    fun _ _ _ _ _ ok safe step => (BoardStep.of_step ok safe step).ok

/-- In every run in which tasks spare the stacks of others and keep their own exception frames on
their own stacks, a task is resumed in the context with which it was last preempted, or in its
first one. -/
theorem contexts_preserved
    {cfg : Config} {registers : EightWords} {psp : Word} {events emitted : List BoardEvent}
    {before after : Board} {action : BoardAction} {ref : TaskRef} {context : Context}
    (run : (board cfg registers psp).Run (Board.ContextsSafe cfg) events before)
    (safe : before.ContextsSafe cfg action)
    (step : before.step cfg action = some (after, emitted))
    (resumed : BoardEvent.resumed ref context ∈ emitted) :
    after.GoesOn cfg (events ++ emitted) ref context :=
  (BoardStep.of_step (.of_run run) safe step).goesOn ref context resumed

/-- The context in which an event enters a task. -/
def BoardEvent.enters (ref : TaskRef) : BoardEvent → Option Context
  | .resumed task context => if task = ref then some context else none
  | .preempted _ _ => none

theorem resumed_mem_of_enters
    {events : List BoardEvent} {ref : TaskRef} {context : Context}
    (found : events.findSome? (BoardEvent.enters ref) = some context) :
    BoardEvent.resumed ref context ∈ events := by
  obtain ⟨event, present, enters⟩ := List.exists_of_findSome?_eq_some found
  cases event with
  | preempted => cases enters
  | resumed task other =>
      simp only [BoardEvent.enters] at enters
      split at enters
      · rename_i same
        obtain rfl := Option.some.inj enters
        exact same ▸ present
      · cases enters

/-- Two tasks of one priority.  The first one yields with its registers and PSP as given; the
second one clears the registers, stores a word and yields in turn. -/
def exchanges (psp address : Word) : List BoardAction :=
  (Action.bootProgram [] [1, 1]).map .kernel ++
    ([.execute (fun i => BitVec.ofNat 32 i) psp, .kernel (.invoke .taskYield), .kernel .advance,
       .kernel .advance, .pendSv fun _ => 7,
       .execute (fun _ => 0) (Action.stackOf 1 + 96), .store address 9,
       .kernel (.invoke .taskYield), .kernel .advance, .kernel .advance] : List BoardAction)

/-- The second task stores to its own stack. -/
theorem yielding_task_goes_on :
    ∃ (events emitted : List BoardEvent) (before after : Board) (saved context : Context),
      (board Config.default 0 0).Run (Board.ContextsSafe Config.default) events before ∧
      before.step Config.default (.pendSv 0) = some (after, emitted) ∧
      BoardEvent.resumed (.user 0) context ∈ emitted ∧
      lastPreempted (.user 0) (events ++ emitted) = some saved ∧
      saved.registers 3 = 3 ∧
      after.GoesOn Config.default (events ++ emitted) (.user 0) context := by
  obtain ⟨events, before, run, checked⟩ :=
    Machine.RunFrom.exists_of_execFrom (board Config.default 0 0)
      (Board.ContextsSafe Config.default) (.boot 0 0)
      (exchanges (Action.stackOf 0 + 96) (Action.stackOf 1)) (fun events before =>
        decide (before.ContextsSafe Config.default (.pendSv 0)) &&
          (before.step Config.default (.pendSv 0)).any fun next : Board × List BoardEvent =>
            (next.2.findSome? (BoardEvent.enters (.user 0))).isSome &&
              (lastPreempted (.user 0) (events ++ next.2)).any fun saved : Context =>
                decide (saved.registers 3 = 3))
      (by decide +kernel)
  rw [Bool.and_eq_true, Option.any_eq_true, decide_eq_true_eq] at checked
  obtain ⟨safe, ⟨after, emitted⟩, step, facts⟩ := checked
  rw [Bool.and_eq_true, Option.isSome_iff_exists, Option.any_eq_true] at facts
  obtain ⟨⟨context, enters⟩, saved, last, value⟩ := facts
  have resumed := resumed_mem_of_enters enters
  exact ⟨events, emitted, before, after, saved, context, run, step, resumed, last,
    decide_eq_true_eq.mp value, contexts_preserved run safe step resumed⟩

/-- The words that a switch stores are outside the stacks of other tasks. -/
def Board.StacksOutside (cfg : Config) (board : Board) : BoardAction → Prop
  | .pendSv _ => ∀ i ∈ List.range 16, board.Outside cfg (wordAt (framePointer board.psp - 32) i)
  | _ => True

instance stacksOutsideDecidable (cfg : Config) (board : Board) :
    (action : BoardAction) → Decidable (board.StacksOutside cfg action)
  | .pendSv _ => inferInstanceAs (Decidable (∀ _ ∈ _, _))
  | .execute _ _ | .store _ _ | .kernel _ => .isTrue trivial

/-- No task writes to the stack of another, by its own stores or by being preempted. -/
def Board.WritesApart (cfg : Config) (board : Board) (action : BoardAction) : Prop :=
  board.TasksApart cfg action ∧ board.StacksOutside cfg action

instance writesApartDecidable (cfg : Config) (board : Board) (action : BoardAction) :
    Decidable (board.WritesApart cfg action) :=
  inferInstanceAs (Decidable (_ ∧ _))

/-- The first task has moved PSP above its stack, where its frame belongs to no stack; the check
of the saved stack pointer lets it pass.  The second task stores there, and the first one goes on
in another context. -/
theorem frame_above_stack_changes :
    ∃ (events emitted : List BoardEvent) (before after : Board) (saved context : Context),
      (board Config.default 0 0).Run (Board.WritesApart Config.default) events before ∧
      before.WritesApart Config.default (.pendSv 0) ∧
      before.step Config.default (.pendSv 0) = some (after, emitted) ∧
      BoardEvent.resumed (.user 0) context ∈ emitted ∧
      lastPreempted (.user 0) (events ++ emitted) = some saved ∧
      saved.frame 0 = 7 ∧ context.frame 0 = 9 ∧
      ¬after.GoesOn Config.default (events ++ emitted) (.user 0) context := by
  obtain ⟨events, before, run, checked⟩ :=
    Machine.RunFrom.exists_of_execFrom (board Config.default 0 0)
      (Board.WritesApart Config.default) (.boot 0 0)
      (exchanges (Action.stackOf 0 + 192) (Action.stackOf 0 + 160)) (fun events before =>
        decide (before.WritesApart Config.default (.pendSv 0)) &&
          (before.step Config.default (.pendSv 0)).any fun next : Board × List BoardEvent =>
            ((next.2.findSome? (BoardEvent.enters (.user 0))).any fun context : Context =>
              decide (context.frame 0 = 9)) &&
              (lastPreempted (.user 0) (events ++ next.2)).any fun saved : Context =>
                decide (saved.frame 0 = 7))
      (by decide +kernel)
  rw [Bool.and_eq_true, Option.any_eq_true, decide_eq_true_eq] at checked
  obtain ⟨safe, ⟨after, emitted⟩, step, facts⟩ := checked
  rw [Bool.and_eq_true, Option.any_eq_true, Option.any_eq_true] at facts
  obtain ⟨⟨context, enters, changed⟩, saved, last, value⟩ := facts
  rw [decide_eq_true_eq] at changed value
  refine ⟨events, emitted, before, after, saved, context, run, safe, step,
    resumed_mem_of_enters enters, last, value, changed, fun goesOn => ?_⟩
  have resumes := goesOn.resumes
  rw [last] at resumes
  have same : context = saved := resumes
  rw [same, value] at changed
  exact absurd changed (by decide)

end ForgeKernel
