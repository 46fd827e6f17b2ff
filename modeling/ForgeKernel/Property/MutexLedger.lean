import ForgeKernel.Property.PriorityInheritance
import ForgeKernel.Invariant.Waits

/-!
# The mutex ownership ledger

The owner field of a mutex always agrees with what tasks have been told: it
names the task whose last successful call on the mutex was a lock, or a task
whose lock has been granted by a handoff and is about to return true.
-/

namespace ForgeKernel

open Machines

/-- Whether `task` holds `mutex` after one more event. -/
def Event.ledger (mutex task : Nat) (held : Bool) : Event → Bool
  | .returned (.task caller) (.mutexLock (some locked) _) (.bool true) =>
      if caller = task ∧ locked = mutex then true else held
  | .returned (.task caller) (.mutexUnlock (some unlocked)) (.bool true) =>
      if caller = task ∧ unlocked = mutex then false else held
  | _ => held

/-- A lock of `mutex` has returned true to `task`, and no unlock has since. -/
def holds (mutex task : Nat) (events : List Event) : Bool :=
  events.foldl (Event.ledger mutex task) false

/-- A lock of `mutex` by `task` has been granted by a handoff and has not returned. -/
def System.Granted (system : System) (mutex task : Nat) : Prop :=
  ∃ ticks, system.view task = .flying (.mutexLock (some mutex) ticks)

/-! ## The ledger and the events -/

section Events

variable {mutex task : Nat}

theorem holds_append (events emitted : List Event) :
    holds mutex task (events ++ emitted) =
      emitted.foldl (Event.ledger mutex task) (holds mutex task events) :=
  List.foldl_append ..

theorem Event.ledger_of_silent
    {event : Event} (silent : event.about (.mutex mutex) = false) (held : Bool) :
    event.ledger mutex task held = held := by
  unfold Event.ledger
  split
  · refine if_neg fun mine => ?_
    simp [Event.about, Call.object, mine.2] at silent
  · refine if_neg fun mine => ?_
    simp [Event.about, Call.object, mine.2] at silent
  · rfl

theorem foldl_ledger_of_silent
    {emitted : List Event} (silent : ∀ event ∈ emitted, event.about (.mutex mutex) = false)
    (held : Bool) : emitted.foldl (Event.ledger mutex task) held = held :=
  Scans.foldl_invariant (motive := (· = held)) emitted held rfl fun entry event present same =>
    (Event.ledger_of_silent (silent event present) entry).trans same

/-- Unsuccessful calls change no entry. -/
theorem Event.ledger_of_failure
    {thread : Thread} {call : Call} {reply : Reply} (failed : reply ≠ .bool true)
    (held : Bool) : (Event.returned thread call reply).ledger mutex task held = held := by
  unfold Event.ledger
  split
  · rename_i same
    exact absurd (Event.returned.inj same).2.2 failed
  · rename_i same
    exact absurd (Event.returned.inj same).2.2 failed
  · rfl

/-- Only the task's own returns change its entry. -/
theorem Event.ledger_of_other
    {event : Event} (other : ∀ call reply, event ≠ .returned (.task task) call reply)
    (held : Bool) : event.ledger mutex task held = held := by
  unfold Event.ledger
  split
  · refine if_neg fun mine => ?_
    obtain ⟨rfl, _⟩ := mine
    exact other _ _ rfl
  · refine if_neg fun mine => ?_
    obtain ⟨rfl, _⟩ := mine
    exact other _ _ rfl
  · rfl

theorem foldl_ledger_of_other
    {emitted : List Event}
    (other : ∀ call reply, Event.returned (.task task) call reply ∉ emitted)
    (held : Bool) : emitted.foldl (Event.ledger mutex task) held = held := by
  refine Scans.foldl_invariant (motive := (· = held)) emitted held rfl ?_
  intro entry event present same
  rw [Event.ledger_of_other, same]
  rintro call reply rfl
  exact other call reply present

/-- A held mutex stays held until an unlock succeeds. -/
theorem foldl_ledger_of_kept
    {emitted : List Event}
    (kept : Event.returned (.task task) (.mutexUnlock (some mutex)) (.bool true) ∉ emitted) :
    emitted.foldl (Event.ledger mutex task) true = true := by
  refine Scans.foldl_invariant (motive := (· = true)) emitted true rfl ?_
  rintro entry event present rfl
  unfold Event.ledger
  split
  · exact ite_self true
  · refine if_neg fun mine => ?_
    obtain ⟨rfl, rfl⟩ := mine
    exact kept present
  · rfl

end Events

/-! ## The invariant -/

/-- The owner of a mutex is the task that holds it or to which it is granted. -/
structure LedgerOk (mutex : Nat) (events : List Event) (system : System) : Prop where
  owner_iff : ∀ task, (system.kernel.mutexes mutex).owner = some task ↔
    holds mutex task events = true ∨ system.Granted mutex task
  exclusive : ∀ task, holds mutex task events = true → ¬system.Granted mutex task
  stopped : system.kernel.running = false → (system.kernel.mutexes mutex).owner = none

namespace LedgerOk

variable {mutex : Nat} {events emitted : List Event} {system after : System}

theorem initial : LedgerOk mutex [] System.boot where
  owner_iff task := by
    simp [System.boot, Kernel.reset, holds, System.Granted, System.view, waitView]
  exclusive task held := absurd held (by simp [holds])
  stopped _ := rfl

/-- Steps that change neither the owner nor the standing of any task. -/
theorem of_same
    (ledger : LedgerOk mutex events system)
    (owner : (after.kernel.mutexes mutex).owner = (system.kernel.mutexes mutex).owner)
    (entries : ∀ task, holds mutex task (events ++ emitted) = holds mutex task events)
    (granted : ∀ task, after.Granted mutex task ↔ system.Granted mutex task)
    (running : system.kernel.running = true → after.kernel.running = true) :
    LedgerOk mutex (events ++ emitted) after where
  owner_iff task := by
    rw [owner, entries, granted]
    exact ledger.owner_iff task
  exclusive task := by
    rw [entries, granted]
    exact ledger.exclusive task
  stopped stopped := by
    rw [owner]
    refine ledger.stopped (Bool.eq_false_iff.mpr fun started => ?_)
    rw [running started] at stopped
    exact absurd stopped.symm Bool.false_ne_true

theorem untouched
    (ledger : LedgerOk mutex events system)
    (same : Untouched (.mutex mutex) system after emitted)
    (running : system.kernel.running = true → after.kernel.running = true) :
    LedgerOk mutex (events ++ emitted) after := by
  refine ledger.of_same (congrArg Mutex.owner same.data) (fun task => ?_) (fun task => ?_)
    running
  · rw [holds_append, foldl_ledger_of_silent same.events]
  · exact exists_congr fun ticks => same.flying_iff rfl

/-- The standing of bystanders while one thread advances in a call that signals
nobody. -/
theorem granted_advance
    {cfg : Config} {thread : Thread} {call : Call} {point : Point} {result : StepResult}
    (core : Core system)
    (active : system.activeThread = some thread)
    (inCall : system.frames thread = .inCall call point)
    (stepped : call.step cfg system.cpu system.kernel system.memory thread.slot point =
      some result)
    (quiet : call.signals = none) {task : Nat} (other : thread ≠ .task task) :
    ({ system with
      kernel := result.kernel
      memory := result.memory }.setFrame thread
        (result.outcome.frame call)).Granted mutex task ↔ system.Granted mutex task := by
  unfold System.Granted
  rw [System.view_setFrame_of_ne _ _ other]
  have move := core.advance_waitMove active inCall (Call.step_advance stepped) other
  have same := move.view_quiet (core.slots task) (core.fresh task) quiet
  simp only [System.view, same]

/-- A frame outside every wait grants nothing. -/
theorem not_granted_of_frame
    {task : Nat} (idle : waitView (system.kernel.tasks task) (system.frames (.task task)) = .idle) :
    ¬system.Granted mutex task := by
  rintro ⟨ticks, flying⟩
  rw [System.view, idle] at flying
  exact absurd flying (by simp)

theorem granted_self
    {task : Nat} (frame : Frame) :
    (system.setFrame (.task task) frame).Granted mutex task ↔
      ∃ ticks, waitView (system.kernel.tasks task) frame =
        .flying (.mutexLock (some mutex) ticks) := by
  rw [System.Granted, System.view_setFrame_self]

/-- Threads inside `fr_mutex_lock` whose step leaves the owner and their own standing
alone. -/
theorem lock_same
    {cfg : Config} {thread : Thread} {ticks : Word} {point : Point} {result : StepResult}
    (ledger : LedgerOk mutex events system) (core : Core system)
    (active : system.activeThread = some thread)
    (inCall : system.frames thread = .inCall (.mutexLock (some mutex) ticks) point)
    (stepped : (Call.mutexLock (some mutex) ticks).step cfg system.cpu system.kernel
      system.memory thread.slot point = some result)
    (running : system.kernel.running = true → result.kernel.running = true)
    (owner : (result.kernel.mutexes mutex).owner = (system.kernel.mutexes mutex).owner)
    (unsuccessful : ∀ task, thread = .task task → result.outcome ≠ .reply (.bool true))
    (own : ∀ task, thread = .task task →
      ((∃ ticks', waitView (result.kernel.tasks task)
          (result.outcome.frame (.mutexLock (some mutex) ticks)) =
            .flying (.mutexLock (some mutex) ticks')) ↔ system.Granted mutex task)) :
    LedgerOk mutex
      (events ++ result.outcome.returns thread (.mutexLock (some mutex) ticks))
      ({ system with
        kernel := result.kernel
        memory := result.memory }.setFrame thread
          (result.outcome.frame (.mutexLock (some mutex) ticks))) := by
  refine ledger.of_same owner (fun task => ?_) (fun task => ?_) running
  · rw [holds_append]
    cases outcome : result.outcome with
    | goto => rfl
    | reply value =>
        cases thread with
        | boot => rfl
        | task caller =>
            refine Event.ledger_of_failure (fun success => unsuccessful caller rfl ?_) _
            rw [outcome, success]
  · by_cases self : thread = .task task
    · subst self
      exact (granted_self _).trans (own task rfl)
    · exact granted_advance core active inCall stepped rfl self

/-- A mutex that nobody owned is acquired, or a granted lock returns. -/
theorem lock_gains
    {cfg : Config} {self : Nat} {ticks : Word} {point : Point} {result : StepResult}
    (ledger : LedgerOk mutex events system) (core : Core system)
    (active : system.activeThread = some (.task self))
    (inCall : system.frames (.task self) = .inCall (.mutexLock (some mutex) ticks) point)
    (stepped : (Call.mutexLock (some mutex) ticks).step cfg system.cpu system.kernel
      system.memory self point = some result)
    (running : result.kernel.running = true)
    (owner : (result.kernel.mutexes mutex).owner = some self)
    (success : result.outcome = .reply (.bool true))
    (alone : ∀ task, task ≠ self → (system.kernel.mutexes mutex).owner ≠ some task) :
    LedgerOk mutex
      (events ++ result.outcome.returns (.task self) (.mutexLock (some mutex) ticks))
      ({ system with
        kernel := result.kernel
        memory := result.memory }.setFrame (.task self)
          (result.outcome.frame (.mutexLock (some mutex) ticks))) := by
  have entries : ∀ task, holds mutex task
      (events ++ result.outcome.returns (.task self) (.mutexLock (some mutex) ticks)) =
        if self = task then true else holds mutex task events := by
    intro task
    rw [holds_append, success]
    simp [Outcome.returns, Event.ledger]
  have ownView : ¬({ system with
      kernel := result.kernel
      memory := result.memory }.setFrame (.task self)
        (result.outcome.frame (.mutexLock (some mutex) ticks))).Granted mutex self := by
    rw [granted_self, success]
    simp [Outcome.frame, waitView]
  have others : ∀ task, self ≠ task → ¬({ system with
      kernel := result.kernel
      memory := result.memory }.setFrame (.task self)
        (result.outcome.frame (.mutexLock (some mutex) ticks))).Granted mutex task := by
    intro task other granted
    rw [granted_advance core active inCall stepped rfl (by simpa using other)] at granted
    exact alone task (Ne.symm other) ((ledger.owner_iff task).mpr (Or.inr granted))
  refine ⟨fun task => ?_, fun task => ?_, fun stopped => ?_⟩
  · change (result.kernel.mutexes mutex).owner = some task ↔ _
    rw [owner, entries]
    by_cases self_eq : self = task
    · simp [self_eq]
    · have unheld : holds mutex task events ≠ true := fun held =>
        alone task (Ne.symm self_eq) ((ledger.owner_iff task).mpr (Or.inl held))
      simp [self_eq, unheld, others task self_eq]
  · by_cases self_eq : self = task
    · exact fun _ => self_eq ▸ ownView
    · exact fun _ => others task self_eq
  · change result.kernel.running = false at stopped
    rw [running] at stopped
    exact absurd stopped.symm Bool.false_ne_true

/-- A thread inside `fr_mutex_lock` takes one step. -/
theorem lock
    {cfg : Config} {thread : Thread} {ticks : Word} {point : Point} {result : StepResult}
    (ledger : LedgerOk mutex events system) (core : Core system)
    (active : system.activeThread = some thread)
    (inCall : system.frames thread = .inCall (.mutexLock (some mutex) ticks) point)
    (stepped : (Call.mutexLock (some mutex) ticks).step cfg system.cpu system.kernel
      system.memory thread.slot point = some result)
    (running : system.kernel.running = true → result.kernel.running = true) :
    LedgerOk mutex
      (events ++ result.outcome.returns thread (.mutexLock (some mutex) ticks))
      ({ system with
        kernel := result.kernel
        memory := result.memory }.setFrame thread
          (result.outcome.frame (.mutexLock (some mutex) ticks))) := by
  have same := ledger.lock_same core active inCall stepped running
  have awake : ∀ task, thread = .task task → (system.kernel.tasks task).state ≠ .blocked := by
    rintro task rfl
    simp [core.active_awake active]
  have before : ∀ task, thread = .task task → (system.Granted mutex task ↔
      ∃ ticks', waitView (system.kernel.tasks task)
        (.inCall (.mutexLock (some mutex) ticks) point) =
          .flying (.mutexLock (some mutex) ticks')) := by
    rintro task rfl
    rw [System.Granted, System.view, inCall]
  cases mutexLockStep_cases stepped with
  | refuses =>
      refine same rfl (by simp [StepResult.reply]) fun task self => ?_
      rw [before task self]
      rfl
  | arms =>
      refine same rfl (by simp [StepResult.goto]) fun task self => ?_
      rw [before task self]
      rfl
  | decides named outcome =>
      obtain rfl := Option.some.inj named
      cases outcome with
      | refused =>
          refine same rfl (by simp [StepResult.ofProgress, StepResult.reply])
            fun task self => ?_
          rw [before task self]
          rfl
      | acquired present started _ free =>
          obtain rfl : thread = .task _ := core.active_eq active present
          refine ledger.lock_gains core active inCall stepped started ?_ rfl ?_
          · simp [StepResult.ofProgress, StepResult.reply, Kernel.setMutex]
          · simp [free]
      | @waits current owner waitTicks trace runs =>
          refine same rfl (by simp [StepResult.ofProgress, StepResult.goto]) fun task self => ?_
          rw [before task self]
          obtain rfl : current = task := by
            simpa [self] using (core.active_eq active runs.currentTask).symm
          have blocked : (((system.kernel.blockTask current .mutex (some (.mutex mutex))
              waitTicks trace).donated owner (system.kernel.priorityOf current)).tasks
                current).state = .blocked := by
            simp [Kernel.donated, Kernel.blockTask, Task.beginWait]
          simp only [StepResult.ofProgress, StepResult.goto, Outcome.frame, waitView, blocked]
          simp
  | expires unsignaled =>
      refine same rfl (by simp [StepResult.reply]) fun task self => ?_
      have state := awake task self
      rw [before task self]
      subst self
      simp only [StepResult.reply, Outcome.frame, waitView, if_neg state,
        if_neg (show (system.kernel.tasks task).waitResult ≠ .signaled from unsignaled)]
  | resumes signaled =>
      refine same rfl (by simp [StepResult.goto]) fun task self => ?_
      have state := awake task self
      rw [before task self]
      subst self
      simp only [StepResult.goto, Outcome.frame, waitView, if_neg state,
        if_pos (show (system.kernel.tasks task).waitResult = .signaled from signaled)]
  | settles named =>
      obtain rfl := Option.some.inj named
      cases thread with
      | boot => exact same rfl (by simp) (by simp)
      | task self =>
          have granted : system.Granted mutex self := by
            rw [before self rfl]
            simp [waitView]
          have owned := (ledger.owner_iff self).mpr (Or.inr granted)
          refine ledger.lock_gains core active inCall stepped ?_ owned ?_ ?_
          · exact (core.active_current active).running
          · simp [StepResult.reply, Thread.slot, owned]
          · intro task other another
            exact other (Option.some.inj (another.symm.trans owned))

/-- The owner gives the mutex up.  `heir` is the waiter that gets it. -/
theorem unlock_yields
    {current : Nat} (heir : Option Nat) {kernel : Kernel} {memory : Memory}
    (ledger : LedgerOk mutex events system)
    (running : kernel.running = true)
    (held : (system.kernel.mutexes mutex).owner = some current)
    (owner : (kernel.mutexes mutex).owner = heir)
    (different : heir ≠ some current)
    (views : ∀ task, task ≠ current →
      ((∃ ticks, waitView (kernel.tasks task) (system.frames (.task task)) =
        .flying (.mutexLock (some mutex) ticks)) ↔
          heir = some task ∨ system.Granted mutex task)) :
    LedgerOk mutex
      (events ++ [.returned (.task current) (.mutexUnlock (some mutex)) (.bool true)])
      ({ system with
        kernel := kernel
        memory := memory }.setFrame (.task current) .user) := by
  have entries : ∀ task, holds mutex task
      (events ++ [.returned (.task current) (.mutexUnlock (some mutex)) (.bool true)]) =
        if current = task then false else holds mutex task events := by
    intro task
    rw [holds_append]
    simp [Event.ledger]
  have unheld : ∀ task, current ≠ task →
      holds mutex task events ≠ true ∧ ¬system.Granted mutex task := by
    intro task other
    rw [← not_or]
    intro standing
    have owned := (ledger.owner_iff task).mpr standing
    exact other (Option.some.inj (held.symm.trans owned))
  have granted : ∀ task, ({ system with
      kernel := kernel
      memory := memory }.setFrame (.task current) .user).Granted mutex task ↔
        heir = some task := by
    intro task
    by_cases self : current = task
    · subst self
      rw [granted_self]
      simp [waitView, different]
    · rw [System.Granted, System.view_setFrame_of_ne _ _ (by simpa using self)]
      exact (views task (Ne.symm self)).trans (or_iff_left (unheld task self).2)
  refine ⟨fun task => ?_, fun task => ?_, fun stopped => ?_⟩
  · change (kernel.mutexes mutex).owner = some task ↔ _
    rw [owner, granted, entries]
    by_cases self : current = task
    · simp [self]
    · simp [self, (unheld task self).1]
  · rw [entries, granted]
    by_cases self : current = task
    · simp [self]
    · exact fun isHeld => absurd (by simpa [self] using isHeld) (unheld task self).1
  · change kernel.running = false at stopped
    rw [running] at stopped
    exact absurd stopped.symm Bool.false_ne_true

theorem unlock
    {thread : Thread} {ended : Kernel × Bool}
    (ledger : LedgerOk mutex events system) (core : Core system)
    (active : system.activeThread = some thread)
    (inCall : system.frames thread = .inCall (.mutexUnlock (some mutex)) .entry)
    (outcome : UnlockOutcome system.kernel mutex ended) :
    LedgerOk mutex
      (events ++ [.returned thread (.mutexUnlock (some mutex)) (.bool ended.2)])
      ({ system with kernel := ended.1 }.setFrame thread .user) := by
  have repriced : ∀ (kernel : Kernel) task, (∃ priority,
      kernel.tasks task = { system.kernel.tasks task with priority := priority }) →
      ((∃ ticks, waitView (kernel.tasks task) (system.frames (.task task)) =
        .flying (.mutexLock (some mutex) ticks)) ↔ system.Granted mutex task) := by
    rintro kernel task ⟨priority, same⟩
    rw [same, System.Granted, System.view]
    rfl
  cases outcome with
  | refused =>
      refine ledger.of_same rfl (fun task => ?_) (fun task => ?_) id
      · rw [holds_append]
        exact Event.ledger_of_failure (by simp) _
      · by_cases self : thread = .task task
        · subst self
          rw [granted_self, System.Granted, System.view, inCall]
          rfl
        · rw [System.Granted, System.view_setFrame_of_ne _ _ self]
          rfl
  | @released current present running _ held unwanted =>
      obtain rfl := core.active_eq active present
      refine ledger.unlock_yields none running held ?_ (by simp) ?_
      · simp [Kernel.recomputed, Kernel.withPriorities, Kernel.setMutex]
      · intro task other
        exact (repriced _ task ⟨_, rfl⟩).trans (by simp)
  | @handed current waiter trace present running _ held waiter_lt waits highest =>
      obtain rfl := core.active_eq active present
      have blocked := (Task.waitsOn_iff.mp waits).1
      have notSelf : waiter ≠ current := by
        rintro rfl
        rw [core.active_awake active] at blocked
        exact absurd blocked (by decide)
      generalize after : (((system.kernel.setMutex mutex { system.kernel.mutexes mutex with
        owner := some waiter }).wakeTask waiter .signaled trace).recomputed current).requested =
          handedKernel
      have woken : ∃ priority, handedKernel.tasks waiter =
          { (system.kernel.tasks waiter).endWait .signaled (system.kernel.wakeState waiter) with
            priority := priority } := by
        rw [← after]
        simp only [Kernel.requested, Kernel.recomputed, Kernel.withPriorities, Kernel.wakeTask,
          Function.update_self]
        exact ⟨_, rfl⟩
      obtain ⟨priority, woken⟩ := woken
      have others : ∀ task, task ≠ waiter → handedKernel.tasks task =
          { system.kernel.tasks task with priority := handedKernel.priorityOf task } := by
        intro task other
        rw [← after]
        simp only [Kernel.requested, Kernel.recomputed, Kernel.withPriorities, Kernel.wakeTask,
          Kernel.priorityOf, Function.update_of_ne other]
        rfl
      have owner : (handedKernel.mutexes mutex).owner = some waiter := by
        rw [← after]
        simp [Kernel.requested, Kernel.recomputed, Kernel.withPriorities, Kernel.wakeTask,
          Kernel.setMutex]
      have started : handedKernel.running = true := by
        rw [← after]
        exact running
      refine ledger.unlock_yields (some waiter) started held owner (by simpa) ?_
      · intro task other
        by_cases chosen : waiter = task
        · subst chosen
          refine ⟨fun _ => Or.inl rfl, fun _ => ?_⟩
          have free : (handedKernel.tasks waiter).state ≠ .blocked := by
            rw [woken]
            exact Kernel.wakeState_ne_blocked _ _
          have signaled : (handedKernel.tasks waiter).waitResult = .signaled := by
            rw [woken]
            rfl
          obtain ⟨call, _, wait, flying⟩ :=
            (core.slots waiter).view_signaled waits free signaled
          obtain ⟨index, ticks, rfl, same⟩ := Call.wait_mutex wait
          obtain rfl : mutex = index := by simpa using same
          exact ⟨ticks, flying⟩
        · exact (repriced _ task ⟨_, others task (Ne.symm chosen)⟩).trans (by simp [chosen])

/-- Initialization happens before any task can own the mutex. -/
theorem init
    {thread : Thread}
    (ledger : LedgerOk mutex events system)
    (inCall : system.frames thread = .inCall (.mutexInit (some mutex)) .entry) :
    LedgerOk mutex
      (events ++ [.returned thread (.mutexInit (some mutex))
        (.bool (mutexInit system.kernel mutex).2)])
      ({ system with kernel := (mutexInit system.kernel mutex).1 }.setFrame thread .user) := by
  have same : (mutexInit system.kernel mutex).1.tasks = system.kernel.tasks ∧
      (mutexInit system.kernel mutex).1.running = system.kernel.running ∧
      ((mutexInit system.kernel mutex).1.mutexes mutex).owner =
        (system.kernel.mutexes mutex).owner := by
    unfold mutexInit
    split
    · exact ⟨rfl, rfl, rfl⟩
    · rename_i stopped
      refine ⟨rfl, rfl, ?_⟩
      rw [ledger.stopped (Bool.not_eq_true _ ▸ stopped)]
      simp [Kernel.setMutex]
  generalize (mutexInit system.kernel mutex).1 = kernel at same ⊢
  obtain ⟨tasks, running, owner⟩ := same
  refine ledger.of_same owner (fun task => ?_) (fun task => ?_) fun started => ?_
  · rw [holds_append]
    cases thread <;> rfl
  · by_cases self : thread = .task task
    · subst self
      rw [granted_self, System.Granted, System.view, inCall]
      rfl
    · rw [System.Granted, System.view_setFrame_of_ne _ _ self, System.Granted]
      simp only [System.view, tasks]
  · exact running.trans started

theorem step
    {cfg : Config} {action : Action}
    (ledger : LedgerOk mutex events system) (core : Core system)
    (step : system.step cfg action = some (after, emitted)) :
    LedgerOk mutex (events ++ emitted) after := by
  have running := core.running_step step
  cases core.objectStep step (.mutex mutex) with
  | untouched same => exact ledger.untouched same running
  | @advance thread call point result active inCall mine stepped =>
      cases call with
      | mutexInit reference =>
          obtain rfl : reference = some mutex := by simpa [Call.object] using mine
          cases point with
          | entry =>
              obtain rfl := Option.some.inj stepped
              exact ledger.init inCall
          | _ => exact absurd stepped (by simp [Call.step, atomicStep])
      | mutexLock reference ticks =>
          obtain rfl : reference = some mutex := by simpa [Call.object] using mine
          exact ledger.lock core active inCall stepped running
      | mutexUnlock reference =>
          obtain rfl : reference = some mutex := by simpa [Call.object] using mine
          cases point with
          | entry =>
              obtain rfl := Option.some.inj stepped
              exact ledger.unlock core active inCall (mutexUnlock_outcome ..)
          | _ => exact absurd stepped (by simp [Call.step, atomicStep])
      | _ => simp [Call.object] at mine

/-- The ledger is right in every state that any run reaches. -/
theorem of_run
    {cfg : Config} {allowed : System → Action → Prop} (mutex : Nat)
    (run : (forge cfg).Run allowed events system) : LedgerOk mutex events system :=
  (run.invariant (motive := fun events system => Core system ∧ LedgerOk mutex events system)
    ⟨Core.initial, LedgerOk.initial⟩
    fun _ _ _ _ _ held _ stepped =>
      ⟨held.1.step stepped, held.2.step held.1 stepped⟩).2

/-- A lock that returns true was not held before. -/
theorem unheld_of_success
    {cfg : Config} {action : Action} {task : Nat} {ticks : Word}
    (ledger : LedgerOk mutex events system)
    (step : system.step cfg action = some (after, emitted))
    (success : Event.returned (.task task) (.mutexLock (some mutex) ticks) (.bool true) ∈
      emitted) :
    holds mutex task events = false := by
  obtain ⟨point, result, active, inCall, stepped, outcome, _, _⟩ :=
    (System.stepped step).returned success
  rw [Bool.eq_false_iff]
  intro held
  have owned := (ledger.owner_iff task).mpr (Or.inl held)
  cases mutexLockStep_cases stepped with
  | decides named decided =>
      obtain rfl := Option.some.inj named
      cases decided with
      | refused => exact absurd outcome (by simp [StepResult.ofProgress, StepResult.reply])
      | acquired _ _ _ free => exact absurd (free.symm.trans owned) (by simp)
      | waits => exact absurd outcome (by simp [StepResult.ofProgress, StepResult.goto])
  | settles named =>
      refine ledger.exclusive task held ⟨ticks, ?_⟩
      rw [System.view, inCall]
      rfl
  | _ => exact absurd outcome (by simp [StepResult.reply, StepResult.goto])

/-- Outside its calls a task owns exactly the mutexes that it holds. -/
theorem owner_iff_holds
    {task : Nat} (ledger : LedgerOk mutex events system)
    (user : system.frames (.task task) = .user) :
    (system.kernel.mutexes mutex).owner = some task ↔ holds mutex task events = true := by
  rw [ledger.owner_iff task, or_iff_left]
  refine not_granted_of_frame ?_
  rw [user]
  rfl

end LedgerOk

/-- A complete lock leaves its caller holding the mutex if it returned true, and
changes nothing for the caller otherwise. -/
theorem CallSpan.lock_holds
    {cfg : Config} {mutex task : Nat} {ticks : Word} {start finish : System}
    {events during : List Event} {success : Bool}
    (run : Run cfg events start)
    (span : CallSpan cfg task (.mutexLock (some mutex) ticks) start finish during
      (.bool success)) :
    Run cfg (events ++ during) finish ∧
      start.frames (.task task) = .user ∧ finish.frames (.task task) = .user ∧
      (success = true → holds mutex task events = false) ∧
      holds mutex task (events ++ during) = (success || holds mutex task events) := by
  obtain ⟨caller, called, middle, inside, action, emitted, invoked, further, unreturned,
    stepped, returned, rfl⟩ := span
  have toCalled : Run cfg (events ++ [.called (.task task) (.mutexLock (some mutex) ticks)])
    called := run.step invoked
  have toMiddle : Run cfg _ middle := toCalled.trans further
  have toFinish : Run cfg _ finish := toMiddle.step stepped
  have userBefore : start.frames (.task task) = .user := by
    cases System.stepped invoked with
    | invoke active user =>
        rw [Option.some.inj (caller.symm.trans active)]
        exact user
  have sameInside : holds mutex task
      (events ++ [.called (.task task) (.mutexLock (some mutex) ticks)] ++ inside) =
        holds mutex task events := by
    rw [holds_append, foldl_ledger_of_other unreturned, holds_append]
    rfl
  obtain ⟨point, result, _, _, _, _, after, shape⟩ := (System.stepped stepped).returned returned
  refine ⟨?_, userBefore, ?_, ?_, ?_⟩
  · simpa only [List.append_assoc] using toFinish
  · rw [after]
    simp [System.setFrame]
  · rintro rfl
    rw [← sameInside]
    exact (LedgerOk.of_run mutex toMiddle).unheld_of_success stepped returned
  · have regroup : events ++ ([.called (.task task) (.mutexLock (some mutex) ticks)] ++ inside ++
        emitted) = events ++ [.called (.task task) (.mutexLock (some mutex) ticks)] ++ inside ++
          emitted := by
      simp
    rw [regroup, holds_append, sameInside, shape]
    cases success <;> simp [observe, Event.ledger]

/-- The ownership ledger in every reachable state and for every complete lock. -/
theorem mutex_ownership_ledger
    {cfg : Config} {events : List Event} {system : System}
    (run : Run cfg events system) :
    (∀ task, (system.kernel.tasks task).state = .blocked →
      (system.kernel.tasks task).waitReason = .mutex →
      ∃ mutex owner, (system.kernel.tasks task).waitObject = some (.mutex mutex) ∧
        (system.kernel.mutexes mutex).magic = mutexMagic ∧
        (system.kernel.mutexes mutex).owner = some owner ∧
        owner < system.kernel.taskCount ∧ owner ≠ task) ∧
    (∀ mutex task, holds mutex task events = true →
      (system.kernel.mutexes mutex).owner = some task) ∧
    (∀ mutex first second, holds mutex first events = true → holds mutex second events = true →
      first = second) ∧
    (∀ mutex task, (system.kernel.mutexes mutex).owner = some task →
      holds mutex task events = true ∨ system.Granted mutex task) ∧
    (∀ mutex task ticks finish during success,
      CallSpan cfg task (.mutexLock (some mutex) ticks) system finish during (.bool success) →
      (success = true ↔ (system.kernel.mutexes mutex).owner ≠ some task ∧
        (finish.kernel.mutexes mutex).owner = some task) ∧
      (success = false → (finish.kernel.mutexes mutex).owner = some task →
        (system.kernel.mutexes mutex).owner = some task) ∧
      (success = true → ∀ laterEvents later,
        (forge cfg).RunFrom Machine.anyStep finish laterEvents later →
        Event.returned (.task task) (.mutexUnlock (some mutex)) (.bool true) ∉ laterEvents →
        (later.kernel.mutexes mutex).owner = some task)) := by
  have core := Core.of_run run
  have inheritance := InheritanceOk.of_run run
  have ledger := fun mutex => LedgerOk.of_run mutex run
  refine ⟨?_, ?_, ?_, ?_, ?_⟩
  · intro task blocked reason
    obtain ⟨mutex, object⟩ := (core.waitsNamed task blocked).2 reason
    obtain ⟨_, _, magic, owner, held, different⟩ := inheritance.mutexes.waiters task mutex
      (Task.mutexWait_eq_some.mpr ⟨blocked, reason, object⟩)
    exact ⟨mutex, owner, object, magic, held, inheritance.mutexes.owners mutex owner held,
      different⟩
  · exact fun mutex task held => ((ledger mutex).owner_iff task).mpr (Or.inl held)
  · intro mutex first second heldFirst heldSecond
    have firstOwns := ((ledger mutex).owner_iff first).mpr (Or.inl heldFirst)
    have secondOwns := ((ledger mutex).owner_iff second).mpr (Or.inl heldSecond)
    exact Option.some.inj (firstOwns.symm.trans secondOwns)
  · exact fun mutex task owned => ((ledger mutex).owner_iff task).mp owned
  · intro mutex task ticks finish during success span
    obtain ⟨finished, userBefore, userAfter, fresh, entry⟩ := span.lock_holds run
    have ownerBefore := (ledger mutex).owner_iff_holds userBefore
    have ownerAfter := (LedgerOk.of_run mutex finished).owner_iff_holds userAfter
    rw [entry] at ownerAfter
    refine ⟨?_, ?_, ?_⟩
    · rw [ne_eq, ownerBefore, ownerAfter]
      cases success with
      | true => simp [fresh rfl]
      | false => simp
    · rintro rfl owned
      exact ownerBefore.mpr (ownerAfter.mp owned)
    · rintro rfl laterEvents later further kept
      refine ((LedgerOk.of_run mutex (finished.trans further)).owner_iff task).mpr (Or.inl ?_)
      rw [holds_append, entry]
      exact foldl_ledger_of_kept kept

/-- The lock of the third task returns true after a handoff. -/
theorem handoff_grants_lock :
    ∃ events system finish during, Run Config.default events system ∧
      CallSpan Config.default 2 (.mutexLock (some 0) waitForever) system finish during
        (.bool true) ∧
      (system.kernel.mutexes 0).owner ≠ some 2 ∧ (finish.kernel.mutexes 0).owner = some 2 := by
  obtain ⟨events, system, run, checked⟩ :=
    Machine.RunFrom.exists_of_execFrom (forge Config.default) Machine.anyStep System.boot
      contentionProgram (fun _ system => system.checkSpan Config.default 2
        (.mutexLock (some 0) waitForever) (.bool true)
        [.advance, .advance, .switchFrom 2, .invoke (.mutexUnlock (some 0)), .advance,
          .switchFrom 0, .advance])
      (by decide +kernel)
  obtain ⟨finish, during, span⟩ := System.span_of_checkSpan checked
  have owners := ((mutex_ownership_ledger run).2.2.2.2 0 2 _ finish during true span).1.mp rfl
  exact ⟨events, system, finish, during, run, span, owners⟩

end ForgeKernel
