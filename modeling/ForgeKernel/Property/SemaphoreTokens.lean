import ForgeKernel.Invariant.Semaphores

/-!
# Semaphore tokens

No token is lost or duplicated: the counter, the takes that succeeded and the takers
that were handed a token account for the initial count and every successful give.
-/

namespace ForgeKernel

open Machines

/-! ## The ledger of a semaphore -/

/-- Initial and maximal count of the last successful init. -/
def semaphoreShape (ref : SemaphoreRef) (events : List Event) : Option (Word × Word) :=
  events.foldl (fun shape event => (event.initializes ref).or shape) none

/-- The number of takes by tasks that have returned true. -/
def takesSucceeded (ref : SemaphoreRef) (events : List Event) : Nat :=
  events.countP (Event.takes ref)

/-- The number of gives that have returned true. -/
def givesSucceeded (ref : SemaphoreRef) (events : List Event) : Nat :=
  events.countP (Event.gives ref)

section Ledger

variable {ref : SemaphoreRef} {events emitted : List Event}

theorem semaphoreShape_append :
    semaphoreShape ref (events ++ emitted) =
      emitted.foldl (fun shape event => (event.initializes ref).or shape)
        (semaphoreShape ref events) :=
  List.foldl_append

@[simp] theorem takesSucceeded_append :
    takesSucceeded ref (events ++ emitted) =
      takesSucceeded ref events + takesSucceeded ref emitted :=
  List.countP_append

@[simp] theorem givesSucceeded_append :
    givesSucceeded ref (events ++ emitted) =
      givesSucceeded ref events + givesSucceeded ref emitted :=
  List.countP_append

/-- Events without tokens configure no semaphore. -/
theorem semaphoreShape_tokenless
    (silent : ∀ event ∈ emitted, event.Tokenless ref) :
    semaphoreShape ref (events ++ emitted) = semaphoreShape ref events := by
  rw [semaphoreShape_append]
  exact Scans.foldl_invariant (motive := (· = semaphoreShape ref events)) emitted _ rfl
    fun shape event present same => by rw [(silent event present).initializes, same]; rfl

theorem takesSucceeded_tokenless
    (silent : ∀ event ∈ emitted, event.Tokenless ref) : takesSucceeded ref emitted = 0 :=
  List.countP_eq_zero.mpr fun event present => by simp [(silent event present).takes]

theorem givesSucceeded_tokenless
    (silent : ∀ event ∈ emitted, event.Tokenless ref) : givesSucceeded ref emitted = 0 :=
  List.countP_eq_zero.mpr fun event present => by simp [(silent event present).gives]

@[simp] theorem takesSucceeded_take {task : Nat} {ticks : Word} :
    takesSucceeded ref
      [.returned (.task task) (.semaphoreTake (some ref) ticks) (.bool true)] = 1 := by
  simp [takesSucceeded, Event.takes]

@[simp] theorem givesSucceeded_take {task : Nat} {ticks : Word} :
    givesSucceeded ref
      [.returned (.task task) (.semaphoreTake (some ref) ticks) (.bool true)] = 0 := by
  simp [givesSucceeded, Event.gives]

@[simp] theorem takesSucceeded_give {thread : Thread} :
    takesSucceeded ref [.returned thread (.semaphoreGive (some ref)) (.bool true)] = 0 := by
  simp [takesSucceeded, Event.takes]

@[simp] theorem givesSucceeded_give {thread : Thread} :
    givesSucceeded ref [.returned thread (.semaphoreGive (some ref)) (.bool true)] = 1 := by
  simp [givesSucceeded, Event.gives]

theorem semaphoreShape_take {task : Nat} {ticks : Word} :
    semaphoreShape ref (events ++
      [.returned (.task task) (.semaphoreTake (some ref) ticks) (.bool true)]) =
        semaphoreShape ref events := by
  rw [semaphoreShape_append]
  rfl

theorem semaphoreShape_give {thread : Thread} :
    semaphoreShape ref (events ++
      [.returned thread (.semaphoreGive (some ref)) (.bool true)]) =
        semaphoreShape ref events := by
  rw [semaphoreShape_append]
  rfl

end Ledger

/-! ## The invariant -/

/-- The state of a semaphore that was initialized with `initialCount` and `maxCount`. -/
structure Balanced
    (ref : SemaphoreRef) (initialCount maxCount : Word) (events : List Event)
    (system : System) : Prop where
  initialized : system.kernel.semaphoreInitialized ref = true
  maximum : system.kernel.semaphoreMaxCount ref = maxCount
  positive : maxCount ≠ 0
  bounded : system.kernel.semaphoreCount ref ≤ maxCount
  blocked : ∀ task, system.BlockedOn ref task → system.kernel.semaphoreCount ref = 0
  conserved : (system.kernel.semaphoreCount ref).toNat + takesSucceeded ref events +
    (system.signaledTakers ref).card = initialCount.toNat + givesSucceeded ref events
  /-- A give on its way to the critical section holds the right bound. -/
  guards : ∀ task bound, system.frames (.task task) =
    .inCall (.semaphoreGive (some ref)) (.guarded bound) → bound = maxCount

/-- Nothing happens to a semaphore before the scheduler starts but its configuration. -/
structure TokensOk (ref : SemaphoreRef) (events : List Event) (system : System) : Prop where
  stopped : system.kernel.running = false →
    takesSucceeded ref events = 0 ∧ givesSucceeded ref events = 0
  shaped : ∀ initialCount maxCount, semaphoreShape ref events = some (initialCount, maxCount) →
    Balanced ref initialCount maxCount events system

section Stopped

variable {system : System} {ref : SemaphoreRef}

/-- Before the start nobody is signalled. -/
theorem Core.signaledTakers_of_stopped
    (core : Core system) (stopped : system.kernel.running = false) :
    system.signaledTakers ref = ∅ := by
  apply Finset.eq_empty_of_forall_notMem
  intro task signaled
  have flies := core.mem_signaledFrom.mp signaled
  rw [System.view, core.dormant stopped task] at flies
  exact absurd flies Bool.false_ne_true

theorem Core.not_blockedOn_of_stopped
    (core : Core system) (stopped : system.kernel.running = false) (task : Nat) :
    ¬system.BlockedOn ref task := by
  intro blocked
  rw [core.running_of_blocked (Task.waitsOn_iff.mp blocked).1] at stopped
  exact absurd stopped (by decide)

end Stopped

namespace TokensOk

variable {cfg : Config} {ref : SemaphoreRef} {events emitted : List Event}
  {system after : System} {action : Action}

/-- The bound that a give carries to its critical section was read from the object. -/
theorem guarded_step
    (core : Core system) (step : system.step cfg action = some (after, emitted))
    {task : Nat} {bound : Word}
    (guarded : after.frames (.task task) =
      .inCall (.semaphoreGive (some ref)) (.guarded bound)) :
    system.frames (.task task) = .inCall (.semaphoreGive (some ref)) (.guarded bound) ∨
      bound = system.kernel.semaphoreMaxCount ref := by
  cases core.taskStep step task with
  | invokes =>
      simp only [System.setFrame, Function.update_self, Frame.inCall.injEq] at guarded
      exact absurd guarded.2 (by simp)
  | @advances call point result active inCall stepped =>
      simp only [System.setFrame, Function.update_self] at guarded
      cases outcome : result.outcome with
      | reply =>
          rw [outcome] at guarded
          exact absurd guarded (by simp [Outcome.frame])
      | goto next =>
          rw [outcome] at guarded
          obtain ⟨rfl, rfl⟩ := Frame.inCall.inj guarded
          right
          cases semaphoreGiveStep_cases stepped with
          | refuses => exact absurd outcome (by simp [StepResult.reply])
          | guards =>
              have same := Outcome.goto.inj outcome
              exact (Point.guarded.inj same).symm
          | decides => exact absurd outcome (by simp [StepResult.reply])
  | watches frame =>
      rw [frame] at guarded
      exact Or.inl guarded

/-- Steps that leave the configuration alone. -/
theorem guards_step
    {initialCount maxCount : Word}
    (balanced : Balanced ref initialCount maxCount events system) (core : Core system)
    (step : system.step cfg action = some (after, emitted)) :
    ∀ task bound, after.frames (.task task) =
      .inCall (.semaphoreGive (some ref)) (.guarded bound) → bound = maxCount := by
  intro task bound guarded
  rcases guarded_step core step guarded with before | read
  · exact balanced.guards task bound before
  · exact read.trans balanced.maximum

/-- A scheduler that is stopped after a step was stopped before it. -/
theorem stopped_of_step
    (core : Core system) (step : system.step cfg action = some (after, emitted))
    (stopped : after.kernel.running = false) : system.kernel.running = false := by
  cases running : system.kernel.running with
  | true =>
      rw [core.running_step step running] at stopped
      cases stopped
  | false => rfl

/-- A step of the running system says nothing about the time before the start. -/
theorem of_running
    (core : Core system) (step : system.step cfg action = some (after, emitted))
    (running : system.kernel.running = true)
    (shaped : ∀ initialCount maxCount,
      semaphoreShape ref (events ++ emitted) = some (initialCount, maxCount) →
        Balanced ref initialCount maxCount (events ++ emitted) after) :
    TokensOk ref (events ++ emitted) after where
  stopped still := absurd (stopped_of_step core step still) (by
    rw [running]
    decide)
  shaped := shaped

section Balance

variable {initialCount maxCount : Word}

/-- The balance is kept by a step that accounts for count, waiters and tokens. -/
theorem balanced_step
    (balanced : Balanced ref initialCount maxCount events system) (core : Core system)
    (step : system.step cfg action = some (after, emitted))
    (same : system.kernel.SameSemaphore ref after.kernel)
    (bounded : after.kernel.semaphoreCount ref ≤ maxCount)
    (blocked : ∀ task, after.BlockedOn ref task → after.kernel.semaphoreCount ref = 0)
    (conserved : (after.kernel.semaphoreCount ref).toNat + takesSucceeded ref emitted +
        (after.signaledTakers ref).card =
      (system.kernel.semaphoreCount ref).toNat + givesSucceeded ref emitted +
        (system.signaledTakers ref).card) :
    Balanced ref initialCount maxCount (events ++ emitted) after where
  initialized := same.initialized.trans balanced.initialized
  maximum := same.maxCount.trans balanced.maximum
  positive := balanced.positive
  bounded := bounded
  blocked := blocked
  conserved := by
    have before := balanced.conserved
    rw [takesSucceeded_append, givesSucceeded_append]
    omega
  guards := guards_step balanced core step

/-- The balance is kept by a step that leaves the object alone and hands tokens only to
takers. -/
theorem balanced_kept
    (balanced : Balanced ref initialCount maxCount events system) (core : Core system)
    (step : system.step cfg action = some (after, emitted))
    (same : system.kernel.SameObject after.kernel (.semaphore ref))
    (blocked : ∀ task, after.BlockedOn ref task → system.kernel.semaphoreCount ref = 0)
    (conserved : takesSucceeded ref emitted + (after.signaledTakers ref).card =
      givesSucceeded ref emitted + (system.signaledTakers ref).card) :
    Balanced ref initialCount maxCount (events ++ emitted) after := by
  have count := same.semaphoreCount
  apply balanced_step balanced core step same.sameSemaphore
  · rw [count]
    exact balanced.bounded
  · intro task waits
    rw [count]
    exact blocked task waits
  · rw [count]
    omega

end Balance

/-- A successful init starts the balance, and nobody has taken or given before. -/
theorem configured
    {event : Event} {initialCount maxCount : Word}
    (tokens : TokensOk ref events system) (next : Core after)
    (stopped : system.kernel.running = false) (still : after.kernel.running = false)
    (initialized : after.kernel.semaphoreInitialized ref = true)
    (count : after.kernel.semaphoreCount ref = initialCount)
    (maximum : after.kernel.semaphoreMaxCount ref = maxCount)
    (positive : maxCount ≠ 0) (bounded : initialCount ≤ maxCount)
    (init : event.initializes ref = some (initialCount, maxCount))
    (untaken : event.takes ref = false) (ungiven : event.gives ref = false) :
    TokensOk ref (events ++ [event]) after := by
  obtain ⟨noTakes, noGives⟩ := tokens.stopped stopped
  have takes : takesSucceeded ref (events ++ [event]) = 0 := by
    simp [takesSucceeded, List.countP_append, untaken, ← noTakes]
  have gives : givesSucceeded ref (events ++ [event]) = 0 := by
    simp [givesSucceeded, List.countP_append, ungiven, ← noGives]
  refine ⟨fun _ => ⟨takes, gives⟩, fun initial largest shape => ?_⟩
  rw [semaphoreShape_append] at shape
  simp only [List.foldl_cons, List.foldl_nil, init, Option.some_or, Option.some.injEq,
    Prod.mk.injEq] at shape
  obtain ⟨rfl, rfl⟩ := shape
  refine ⟨initialized, maximum, positive, ?_, ?_, ?_, ?_⟩
  · rw [count]
    exact bounded
  · intro task waits
    exact absurd waits (next.not_blockedOn_of_stopped still task)
  · rw [count, takes, gives, next.signaledTakers_of_stopped still]
    simp
  · intro task bound guarded
    rw [next.dormant still task] at guarded
    exact absurd guarded (by simp)

/-- Without an event about the semaphore the ledger stands still. -/
theorem unmoved
    (tokens : TokensOk ref events system) (core : Core system)
    (step : system.step cfg action = some (after, emitted))
    (silent : ∀ event ∈ emitted, event.Tokenless ref)
    (kept : ∀ initialCount maxCount, Balanced ref initialCount maxCount events system →
      Balanced ref initialCount maxCount (events ++ emitted) after) :
    TokensOk ref (events ++ emitted) after := by
  refine ⟨fun still => ?_, fun initialCount maxCount shape => ?_⟩
  · rw [takesSucceeded_append, givesSucceeded_append, takesSucceeded_tokenless silent,
      givesSucceeded_tokenless silent]
    exact tokens.stopped (stopped_of_step core step still)
  · rw [semaphoreShape_tokenless silent] at shape
    exact kept initialCount maxCount (tokens.shaped initialCount maxCount shape)

/-- Every step keeps the balance of tokens. -/
theorem step
    (tokens : TokensOk ref events system) (core : Core system)
    (step : system.step cfg action = some (after, emitted)) :
    TokensOk ref (events ++ emitted) after := by
  cases core.tokenMove step ref with
  | keeps same signaled blocked silent =>
      apply tokens.unmoved core step silent
      intro initialCount maxCount balanced
      apply balanced_kept balanced core step same
      · exact fun task waits => balanced.blocked task (blocked task waits)
      · rw [signaled, takesSucceeded_tokenless silent, givesSucceeded_tokenless silent]
  | configures stopped still initialized count maximum positive bounded init untaken ungiven =>
      exact tokens.configured (core.step step) stopped still initialized count maximum positive
        bounded init untaken ungiven
  | takes running same available count signaled blocked =>
      apply of_running core step running
      intro initialCount maxCount shape
      rw [semaphoreShape_take] at shape
      have balanced := tokens.shaped initialCount maxCount shape
      have less : (system.kernel.semaphoreCount ref - 1).toNat + 1 =
          (system.kernel.semaphoreCount ref).toNat := by
        bv_omega
      apply balanced_step balanced core step same
      · have bounded := BitVec.le_def.mp balanced.bounded
        rw [count, BitVec.le_def]
        omega
      · intro waiter waits
        exact absurd (balanced.blocked waiter (blocked waiter waits)) available
      · rw [count, signaled, takesSucceeded_take, givesSucceeded_take]
        omega
  | waits same empty signaled =>
      apply tokens.unmoved core step (by simp)
      intro initialCount maxCount balanced
      apply balanced_kept balanced core step same fun _ _ => empty
      rw [signaled]
      rfl
  | lands running same flew signaled blocked =>
      apply of_running core step running
      intro initialCount maxCount shape
      rw [semaphoreShape_take] at shape
      have balanced := tokens.shaped initialCount maxCount shape
      apply balanced_kept balanced core step same
      · exact fun waiter waits => balanced.blocked waiter (blocked waiter waits)
      · have fewer := Finset.card_erase_add_one flew
        rw [signaled, takesSucceeded_take, givesSucceeded_take]
        omega
  | @stores thread bound running guarded same room count signaled unwanted =>
      apply of_running core step running
      intro initialCount maxCount shape
      rw [semaphoreShape_give] at shape
      have balanced := tokens.shaped initialCount maxCount shape
      obtain ⟨self, rfl⟩ : ∃ self, thread = .task self := by
        cases thread with
        | task self => exact ⟨self, rfl⟩
        | boot =>
            obtain ⟨call, gone⟩ := core.departed running
            rw [gone] at guarded
            exact absurd guarded (by simp)
      obtain rfl := balanced.guards self bound guarded
      have more : (system.kernel.semaphoreCount ref + 1).toNat =
          (system.kernel.semaphoreCount ref).toNat + 1 := by
        bv_omega
      apply balanced_step balanced core step same
      · rw [count, BitVec.le_def, more]
        exact BitVec.lt_def.mp room
      · exact fun waiter waits => absurd waits (unwanted waiter)
      · rw [count, signaled, takesSucceeded_give, givesSucceeded_give]
        omega
  | @wakes thread waiter running same waits signaled blocked =>
      apply of_running core step running
      intro initialCount maxCount shape
      rw [semaphoreShape_give] at shape
      have balanced := tokens.shaped initialCount maxCount shape
      apply balanced_kept balanced core step same
      · exact fun other otherWaits => balanced.blocked other (blocked other otherWaits)
      · have new : waiter ∉ system.signaledTakers ref := core.notMem_of_waitsOn waits
        have grown := Finset.card_insert_of_notMem new
        rw [signaled, takesSucceeded_give, givesSucceeded_give]
        omega

theorem initial : TokensOk ref [] System.boot :=
  ⟨fun _ => ⟨rfl, rfl⟩, fun _ _ shape => absurd shape (by simp [semaphoreShape])⟩

/-- The balance holds along every run. -/
theorem of_run
    {allowed : System → Action → Prop} (ref : SemaphoreRef)
    (run : (forge cfg).Run allowed events system) : TokensOk ref events system :=
  (run.invariant (motive := fun events system => Core system ∧ TokensOk ref events system)
    ⟨Core.initial, TokensOk.initial⟩
    fun _ _ _ _ _ held _ stepped =>
      ⟨held.1.step stepped, held.2.step held.1 stepped⟩).2

end TokensOk

/-! ## Gives and takes that return -/

section Returns

variable {cfg : Config} {ref : SemaphoreRef} {events emitted : List Event}
  {system after : System} {action : Action} {initialCount maxCount : Word} {task : Nat}

/-- The outcome of a give that returns, in a state where the object is sound. -/
theorem Balanced.give_outcome
    {value : Bool}
    (balanced : Balanced ref initialCount maxCount events system)
    (step : system.step cfg action = some (after, emitted))
    (returned : Event.returned (.task task) (.semaphoreGive (some ref)) (.bool value) ∈ emitted) :
    GiveOutcome system.cpu system.kernel ref maxCount (after.kernel, value) := by
  obtain ⟨point, result, _, inCall, stepped, outcome, rfl, _⟩ :=
    (System.stepped step).returned returned
  cases semaphoreGiveStep_cases stepped with
  | refuses unguarded =>
      have guarded : semaphoreGuard system.kernel ref = true := by
        rw [semaphoreGuard_iff, balanced.maximum]
        exact ⟨balanced.initialized, balanced.positive, balanced.bounded⟩
      rw [guarded] at unguarded
      exact absurd unguarded (by decide)
  | guards => exact absurd outcome (by simp [StepResult.goto])
  | @decides bound ended given =>
      obtain rfl := balanced.guards task bound inCall
      obtain rfl : ended.2 = value := Reply.bool.inj (Outcome.reply.inj outcome)
      exact given

/-- A give fails for want of room only. -/
theorem Balanced.give_fails
    (balanced : Balanced ref initialCount maxCount events system) (core : Core system)
    (step : system.step cfg action = some (after, emitted))
    (returned : Event.returned (.task task) (.semaphoreGive (some ref)) (.bool false) ∈ emitted)
    (allowed : system.cpu.threadContextAllowed = true) :
    system.kernel.semaphoreCount ref = maxCount ∧ ∀ waiter, ¬system.BlockedOn ref waiter := by
  obtain ⟨_, _, active, _⟩ := (System.stepped step).returned returned
  have runs := core.active_current active
  have outcome := balanced.give_outcome step returned
  generalize ended : (after.kernel, false) = pair at outcome
  cases outcome with
  | denied context =>
      have present : schedulerCurrentTask system.kernel ≠ none := by
        simp [schedulerCurrentTask, runs.currentTask]
      rcases context with zero | masked | stopped | absent
      · exact absurd zero balanced.positive
      · exact absurd (allowed.symm.trans masked) (by decide)
      · exact absurd (runs.running.symm.trans stopped) (by decide)
      · exact absurd absent present
  | @conflict waiter _ waits available =>
      exact absurd (balanced.blocked waiter waits) available
  | full unwanted saturated =>
      refine ⟨BitVec.le_antisymm balanced.bounded saturated, fun waiter blocked => ?_⟩
      have registered := core.registered_of_blocked (Task.waitsOn_iff.mp blocked).1
      exact absurd ((unwanted waiter registered).symm.trans blocked) (by decide)
  | woken => exact absurd (Prod.mk.inj ended).2 (by decide)
  | stored => exact absurd (Prod.mk.inj ended).2 (by decide)

/-- A successful give with waiters completes one of them, of maximal priority. -/
theorem Balanced.give_completes
    (balanced : Balanced ref initialCount maxCount events system) (core : Core system)
    (step : system.step cfg action = some (after, emitted))
    (returned : Event.returned (.task task) (.semaphoreGive (some ref)) (.bool true) ∈ emitted)
    {some : Nat} (wanted : system.BlockedOn ref some) :
    ∃ waiter, system.BlockedOn ref waiter ∧
      (∀ other, system.BlockedOn ref other →
        (system.kernel.tasks other).priority ≤ (system.kernel.tasks waiter).priority) ∧
      (after.kernel.tasks waiter).state ≠ .blocked ∧
      (after.kernel.tasks waiter).waitResult = .signaled ∧
      after.kernel.semaphoreCount ref = system.kernel.semaphoreCount ref ∧
      ∀ other, other ≠ waiter → after.kernel.tasks other = system.kernel.tasks other := by
  have outcome := balanced.give_outcome step returned
  generalize ended : (after.kernel, true) = pair at outcome
  cases outcome with
  | denied => exact absurd (Prod.mk.inj ended).2 (by decide)
  | conflict => exact absurd (Prod.mk.inj ended).2 (by decide)
  | full => exact absurd (Prod.mk.inj ended).2 (by decide)
  | @woken waiter trace running waiter_lt waits highest empty =>
      obtain ⟨kernel, _⟩ := Prod.mk.inj ended
      rw [kernel]
      have woken : ((system.kernel.wakeTask waiter .signaled trace).requested).tasks waiter =
          (system.kernel.tasks waiter).endWait .signaled (system.kernel.wakeState waiter) :=
        Function.update_self ..
      refine ⟨waiter, waits, fun other blocked => ?_, ?_, ?_, ?_, fun other different => ?_⟩
      · exact highest other (core.registered_of_blocked (Task.waitsOn_iff.mp blocked).1) blocked
      · rw [woken]
        exact system.kernel.wakeState_ne_blocked waiter
      · rw [woken]
        rfl
      · cases ref <;> rfl
      · exact Function.update_of_ne different ..
  | stored _ unwanted =>
      have registered := core.registered_of_blocked (Task.waitsOn_iff.mp wanted).1
      exact absurd ((unwanted some registered).symm.trans wanted) (by decide)

/-- A take that returns false leaves the ledger as it was, and its task out of it. -/
theorem Core.take_fails
    {ticks : Word}
    (core : Core system) (step : system.step cfg action = some (after, emitted))
    (returned : Event.returned (.task task) (.semaphoreTake (some ref) ticks) (.bool false) ∈
      emitted) :
    after.kernel.semaphoreCount ref = system.kernel.semaphoreCount ref ∧
      after.signaledTakers ref = system.signaledTakers ref ∧
      task ∉ system.signaledTakers ref := by
  obtain ⟨point, result, active, inCall, stepped, outcome, finish, emittedSame⟩ :=
    (System.stepped step).returned returned
  have next := core.step step
  have left : task ∉ after.signaledTakers ref := by
    rw [System.signaledTakers, next.mem_signaledFrom, finish, System.view_setFrame_self]
    exact Bool.false_ne_true
  have only : emitted = [.returned (.task task) (.semaphoreTake (some ref) ticks) (.bool false)] :=
    emittedSame
  have moved := core.tokenMove step ref
  rw [only] at moved
  cases moved with
  | keeps same signaled =>
      refine ⟨same.semaphoreCount, signaled, ?_⟩
      rw [← signaled]
      exact left
  | configures _ _ _ _ _ _ _ init => exact absurd init (by simp [Event.initializes])

/-- A take that was handed a token keeps it until it returns true. -/
theorem Core.signaled_step
    (core : Core system) (step : system.step cfg action = some (after, emitted))
    (signaled : task ∈ system.signaledTakers ref) :
    task ∈ after.signaledTakers ref ∨
      ∃ ticks, emitted =
        [.returned (.task task) (.semaphoreTake (some ref) ticks) (.bool true)] := by
  cases core.tokenMove step ref with
  | keeps _ same =>
      rw [same]
      exact Or.inl signaled
  | configures stopped =>
      rw [core.signaledTakers_of_stopped stopped] at signaled
      exact absurd signaled (Finset.notMem_empty _)
  | takes _ _ _ _ same =>
      rw [same]
      exact Or.inl signaled
  | waits _ _ same =>
      rw [same]
      exact Or.inl signaled
  | @lands lander ticks _ _ _ same =>
      by_cases own : task = lander
      · subst own
        exact Or.inr ⟨ticks, rfl⟩
      · rw [same]
        exact Or.inl (Finset.mem_erase.mpr ⟨own, signaled⟩)
  | stores _ _ _ _ _ same =>
      rw [same]
      exact Or.inl signaled
  | wakes _ _ _ same =>
      rw [same]
      exact Or.inl (Finset.mem_insert_of_mem signaled)

/-- The next return of a task that was handed a token is that of its take, with true. -/
theorem Core.signaled_returns
    {during : List Event} {middle : System} {call : Call} {reply : Reply}
    (core : Core system) (signaled : task ∈ system.signaledTakers ref)
    (run : (forge cfg).RunFrom Machine.anyStep system during middle)
    (unreturned : ∀ other value, Event.returned (.task task) other value ∉ during)
    (step : middle.step cfg action = some (after, emitted))
    (returned : Event.returned (.task task) call reply ∈ emitted) :
    (∃ ticks, call = .semaphoreTake (some ref) ticks) ∧ reply = .bool true := by
  obtain ⟨middleCore, still⟩ := kept_until_return
    (motive := fun state => Core state ∧ task ∈ state.signaledTakers ref) ⟨core, signaled⟩
    (fun emitted state next action held _ stepped silent => by
      refine ⟨held.1.step stepped, (held.1.signaled_step stepped held.2).resolve_right ?_⟩
      rintro ⟨ticks, rfl⟩
      exact silent _ _ (List.mem_singleton.mpr rfl)) run unreturned
  obtain ⟨point, result, active, inCall, stepped, outcome, finish, emittedSame⟩ :=
    (System.stepped step).returned returned
  have left : task ∉ after.signaledTakers ref := by
    rw [System.signaledTakers, (middleCore.step step).mem_signaledFrom, finish,
      System.view_setFrame_self]
    exact Bool.false_ne_true
  obtain ⟨ticks, only⟩ := (middleCore.signaled_step step still).resolve_left left
  rw [only] at returned
  obtain ⟨_, rfl, rfl⟩ := Event.returned.inj (List.mem_singleton.mp returned)
  exact ⟨⟨ticks, rfl⟩, rfl⟩

end Returns

/-- A task in state BLOCKED whose wait is for a token of the semaphore. -/
def Task.awaitsToken (ref : SemaphoreRef) (task : Task) : Prop :=
  task.state = .blocked ∧ task.waitReason = .sync ∧ task.waitObject = some (.semaphore ref)

/-- The tasks blocked on a semaphore are the waiters that a give may wake. -/
theorem Core.blockedOn_iff
    {system : System} (core : Core system) {ref : SemaphoreRef} {task : Nat} :
    system.BlockedOn ref task ↔ (system.kernel.tasks task).awaitsToken ref := by
  rw [System.BlockedOn, Task.waitsOn_iff]
  constructor
  · rintro ⟨blocked, reason, _, object⟩
    exact ⟨blocked, reason, object⟩
  · rintro ⟨blocked, reason, object⟩
    exact ⟨blocked, reason, (core.slots task).pending blocked, object⟩

/-- Tokens of an initialized semaphore are conserved along every run, handed to waiters
first, and never consumed by a take that returns false. -/
theorem semaphore_tokens_conserved
    {cfg : Config} {events : List Event} {system : System}
    (run : Run cfg events system) (ref : SemaphoreRef) {initialCount maxCount : Word}
    (shape : semaphoreShape ref events = some (initialCount, maxCount)) :
    system.kernel.semaphoreCount ref ≤ maxCount ∧
    (system.kernel.semaphoreCount ref).toNat + takesSucceeded ref events +
      (system.signaledTakers ref).card = initialCount.toNat + givesSucceeded ref events ∧
    (∀ task, (system.kernel.tasks task).awaitsToken ref →
      system.kernel.semaphoreCount ref = 0) ∧
    (∀ action after emitted task,
      system.step cfg action = some (after, emitted) →
      Event.returned (.task task) (.semaphoreGive (some ref)) (.bool false) ∈ emitted →
      system.cpu.threadContextAllowed = true →
      system.kernel.semaphoreCount ref = maxCount ∧
        ∀ waiter, ¬(system.kernel.tasks waiter).awaitsToken ref) ∧
    (∀ action after emitted task,
      system.step cfg action = some (after, emitted) →
      Event.returned (.task task) (.semaphoreGive (some ref)) (.bool true) ∈ emitted →
      (∃ waiter, (system.kernel.tasks waiter).awaitsToken ref) →
      ∃ waiter, (system.kernel.tasks waiter).awaitsToken ref ∧
        (∀ other, (system.kernel.tasks other).awaitsToken ref →
          (system.kernel.tasks other).priority ≤ (system.kernel.tasks waiter).priority) ∧
        (after.kernel.tasks waiter).state ≠ .blocked ∧
        (after.kernel.tasks waiter).waitResult = .signaled ∧
        after.kernel.semaphoreCount ref = system.kernel.semaphoreCount ref ∧
        ∀ other, other ≠ waiter → after.kernel.tasks other = system.kernel.tasks other) ∧
    (∀ action after emitted task ticks,
      system.step cfg action = some (after, emitted) →
      Event.returned (.task task) (.semaphoreTake (some ref) ticks) (.bool false) ∈ emitted →
      after.kernel.semaphoreCount ref = system.kernel.semaphoreCount ref ∧
        after.signaledTakers ref = system.signaledTakers ref ∧
        task ∉ system.signaledTakers ref) ∧
    (∀ task ∈ system.signaledTakers ref, ∀ during middle action after emitted call reply,
      (forge cfg).RunFrom Machine.anyStep system during middle →
      (∀ other value, Event.returned (.task task) other value ∉ during) →
      middle.step cfg action = some (after, emitted) →
      Event.returned (.task task) call reply ∈ emitted →
      (∃ ticks, call = .semaphoreTake (some ref) ticks) ∧ reply = .bool true) := by
  have core := Core.of_run run
  have balanced := (TokensOk.of_run ref run).shaped initialCount maxCount shape
  refine ⟨balanced.bounded, balanced.conserved, ?_, ?_, ?_, ?_, ?_⟩
  · intro task awaits
    exact balanced.blocked task (core.blockedOn_iff.mpr awaits)
  · intro action after emitted task step returned allowed
    obtain ⟨full, nobody⟩ := balanced.give_fails core step returned allowed
    exact ⟨full, fun waiter awaits => nobody waiter (core.blockedOn_iff.mpr awaits)⟩
  · rintro action after emitted task step returned ⟨wanted, awaits⟩
    obtain ⟨waiter, blocked, highest, completed⟩ :=
      balanced.give_completes core step returned (core.blockedOn_iff.mpr awaits)
    exact ⟨waiter, core.blockedOn_iff.mp blocked,
      fun other waits => highest other (core.blockedOn_iff.mpr waits), completed⟩
  · intro action after emitted task ticks step returned
    exact core.take_fails step returned
  · intro task signaled during middle action after emitted call reply later unreturned step
      returned
    exact core.signaled_returns signaled later unreturned step returned

/-- Two tasks wait on a counting semaphore with no tokens, and the third gives one. -/
def tokenProgram : List Action :=
  Action.bootProgram [.countingSemaphoreInit (some 0) 0 2] [3, 2, 1] ++
    ([.invoke (.countingSemaphoreTake (some 0) waitForever), .advance, .advance, .advance,
       .switchFrom 0,
       .invoke (.countingSemaphoreTake (some 0) 5), .advance, .advance, .advance, .switchFrom 1,
       .invoke (.countingSemaphoreGive (some 0)), .advance, .advance] : List Action)

/-- The token is on its way to the first waiter, so the second one waits at count zero. -/
theorem token_in_flight :
    ∃ events system, Run Config.default events system ∧
      semaphoreShape (.counting 0) events = some (0, 2) ∧
      (system.kernel.tasks 1).awaitsToken (.counting 0) ∧
      givesSucceeded (.counting 0) events = 1 ∧
      system.kernel.semaphoreCount (.counting 0) = 0 ∧
      takesSucceeded (.counting 0) events + (system.signaledTakers (.counting 0)).card = 1 := by
  obtain ⟨events, system, run, checked⟩ :=
    Machine.RunFrom.exists_of_execFrom (forge Config.default) Machine.anyStep System.boot
      tokenProgram (fun events system =>
        decide (semaphoreShape (.counting 0) events = some (0, 2) ∧
          (system.kernel.tasks 1).state = .blocked ∧
          (system.kernel.tasks 1).waitReason = .sync ∧
          (system.kernel.tasks 1).waitObject = some (.semaphore (.counting 0)) ∧
          givesSucceeded (.counting 0) events = 1))
      (by decide +kernel)
  obtain ⟨shape, blocked, reason, object, gives⟩ := of_decide_eq_true checked
  have awaits : (system.kernel.tasks 1).awaitsToken (.counting 0) := ⟨blocked, reason, object⟩
  obtain ⟨_, conserved, empty, _⟩ := semaphore_tokens_conserved run (.counting 0) shape
  have none := empty 1 awaits
  rw [none, gives] at conserved
  exact ⟨events, system, run, shape, awaits, gives, none, by simpa using conserved⟩

end ForgeKernel
