import ForgeKernel.Model.System

/-!
# The steps of the system

An inversion of the step function: what each action does and what enables it.
-/

namespace ForgeKernel

/-- The frame in which a thread's step leaves it. -/
def Outcome.frame (call : Call) : Outcome → Frame
  | .goto point => .inCall call point
  | .reply _ => .user

/-- The return event of a thread's step. -/
def Outcome.returns (thread : Thread) (call : Call) : Outcome → List Event
  | .goto _ => []
  | .reply value => [.returned thread call value]

/-- The steps of the system, with what makes each of them possible. -/
inductive Stepped (cfg : Config) (system : System) : Action → System → List Event → Prop
  | sysTick
      (live : system.kernel.halted = none) :
      Stepped cfg system .sysTick
        { system with
          kernel := sysTickHandler system.kernel
          time := system.time + 1 } []
  | pendSv {psp : Word}
      (live : system.kernel.halted = none)
      (due : system.pendSvDue = true) :
      Stepped cfg system (.pendSv psp)
        { system with kernel := pendSvHandler system.kernel psp } []
  | invoke {thread : Thread} {call : Call}
      (active : system.activeThread = some thread)
      (user : system.frames thread = .user) :
      Stepped cfg system (.invoke call)
        (system.setFrame thread (.inCall call .entry)) [.called thread call]
  | advance {thread : Thread} {call : Call} {point : Point} {result : StepResult}
      (active : system.activeThread = some thread)
      (inCall : system.frames thread = .inCall call point)
      (stepped : call.step cfg system.cpu system.kernel system.memory thread.slot point =
        some result) :
      Stepped cfg system .advance
        ({ system with
          kernel := result.kernel
          memory := result.memory }.setFrame thread (result.outcome.frame call))
        (observe system thread call point result ++ result.outcome.returns thread call)
  | user {action : Action} {thread : Thread} {stackMemory : Word → Word} {memory : Memory}
      {cpu : Cpu}
      (active : system.activeThread = some thread)
      (user : system.frames thread = .user)
      (stores : memory = system.memory ∨ ∃ address value, action = .storeByte address value)
      (plain : action ≠ .sysTick)
      (words : stackMemory = system.kernel.stackMemory ∨
        ∃ address value, action = .storeWord address value) :
      Stepped cfg system action
        { system with
          kernel := { system.kernel with stackMemory := stackMemory }
          memory := memory
          cpu := cpu } []

theorem System.userStep_some
    {system after : System} {change : System → System} {events : List Event}
    (stepped : system.userStep change = some (after, events)) :
    ∃ thread, system.activeThread = some thread ∧ system.frames thread = .user ∧
      after = change system ∧ events = [] := by
  unfold System.userStep at stepped
  split at stepped
  · exact absurd stepped (by simp)
  · rename_i thread active
    split at stepped
    · rename_i user
      obtain ⟨rfl, rfl⟩ := Prod.mk.inj (Option.some.inj stepped)
      exact ⟨thread, active, user, rfl, rfl⟩
    · exact absurd stepped (by simp)

/-- Every step is one of those listed. -/
theorem System.stepped
    {cfg : Config} {system after : System} {action : Action} {events : List Event}
    (step : system.step cfg action = some (after, events)) :
    Stepped cfg system action after events := by
  cases action with
  | sysTick =>
      simp only [System.step] at step
      split at step
      · exact absurd step (by simp)
      · rename_i free
        obtain ⟨rfl, rfl⟩ := Prod.mk.inj (Option.some.inj step)
        simp only [Bool.or_eq_true, not_or, Bool.not_eq_true, Option.isSome_eq_false_iff,
          Option.isNone_iff_eq_none] at free
        exact .sysTick free.1
  | pendSv psp =>
      simp only [System.step] at step
      split at step
      · exact absurd step (by simp)
      · rename_i free
        obtain ⟨rfl, rfl⟩ := Prod.mk.inj (Option.some.inj step)
        simp only [Bool.or_eq_true, not_or, Bool.not_eq_true, Option.isSome_eq_false_iff,
          Option.isNone_iff_eq_none, Bool.not_eq_false'] at free
        exact .pendSv free.1 free.2
  | invoke call =>
      simp only [System.step] at step
      split at step
      · exact absurd step (by simp)
      · rename_i thread active
        split at step
        · rename_i user
          obtain ⟨rfl, rfl⟩ := Prod.mk.inj (Option.some.inj step)
          exact .invoke active user
        · exact absurd step (by simp)
  | advance =>
      obtain ⟨thread, active, advanced⟩ := Option.bind_eq_some_iff.mp step
      unfold System.advance at advanced
      split at advanced
      · exact absurd advanced (by simp)
      · rename_i call point inCall
        obtain ⟨result, stepped, moved⟩ := Option.map_eq_some_iff.mp advanced
        cases outcome : result.outcome with
        | goto next =>
            simp only [outcome] at moved
            obtain ⟨rfl, rfl⟩ := Prod.mk.inj moved
            have normal := Stepped.advance active inCall stepped
            simpa only [outcome, Outcome.frame, Outcome.returns, List.append_nil] using normal
        | reply value =>
            simp only [outcome] at moved
            obtain ⟨rfl, rfl⟩ := Prod.mk.inj moved
            have normal := Stepped.advance active inCall stepped
            simpa only [outcome, Outcome.frame, Outcome.returns] using normal
  | storeByte address value =>
      simp only [System.step] at step
      obtain ⟨thread, active, user, rfl, rfl⟩ := System.userStep_some step
      exact .user active user (Or.inr ⟨address, value, rfl⟩) (by simp) (Or.inl rfl)
  | storeWord address value =>
      simp only [System.step] at step
      obtain ⟨thread, active, user, rfl, rfl⟩ := System.userStep_some step
      exact .user active user (Or.inl rfl) (by simp) (Or.inr ⟨address, value, rfl⟩)
  | setMasks primask faultmask basepri =>
      simp only [System.step] at step
      obtain ⟨thread, active, user, rfl, rfl⟩ := System.userStep_some step
      exact .user active user (Or.inl rfl) (by simp) (Or.inl rfl)

/-- A run may always be continued by a step. -/
theorem Run.step
    {cfg : Config} {system after : System} {action : Action} {events emitted : List Event}
    (run : Run cfg events system) (step : system.step cfg action = some (after, emitted)) :
    Run cfg (events ++ emitted) after :=
  Machines.Machine.RunFrom.tail run trivial step

/-! ## Complete calls -/

/-- One complete call of `task`: made in `start`, and returned with `reply` in
`finish`.  The events are those of the whole call. -/
structure CallSpan
    (cfg : Config) (task : Nat) (call : Call) (start finish : System) (events : List Event)
    (reply : Reply) : Prop where
  caller : start.activeThread = some (.task task)
  phases : ∃ called middle during action emitted,
    start.step cfg (.invoke call) = some (called, [.called (.task task) call]) ∧
    (forge cfg).RunFrom Machines.Machine.anyStep called during middle ∧
    (∀ other value, Event.returned (.task task) other value ∉ during) ∧
    middle.step cfg action = some (finish, emitted) ∧
    Event.returned (.task task) call reply ∈ emitted ∧
    events = [.called (.task task) call] ++ during ++ emitted

/-- Returns of one task. -/
def Event.isReturnOf (task : Nat) : Event → Bool
  | .returned thread _ _ => thread = .task task
  | _ => false

/-- Execute one complete call: the actions `inside` run between the invocation and
the last step of the call. -/
def System.checkSpan
    (cfg : Config) (task : Nat) (call : Call) (reply : Reply) (inside : List Action)
    (start : System) : Bool :=
  decide (start.activeThread = some (.task task)) &&
    (start.step cfg (.invoke call)).any fun called =>
      decide (called.2 = [.called (.task task) call]) &&
        ((forge cfg).execFrom Machines.Machine.anyStep called.1 inside).any fun middle =>
          !middle.2.any (Event.isReturnOf task) &&
            (middle.1.step cfg .advance).any fun finish =>
              decide (Event.returned (.task task) call reply ∈ finish.2)

/-- A call that was executed is a complete call. -/
theorem System.span_of_checkSpan
    {cfg : Config} {task : Nat} {call : Call} {reply : Reply} {inside : List Action}
    {start : System} (checked : start.checkSpan cfg task call reply inside = true) :
    ∃ finish events, CallSpan cfg task call start finish events reply := by
  simp only [checkSpan, Bool.and_eq_true, decide_eq_true_eq, Option.any_eq_true,
    Bool.not_eq_true', List.any_eq_false] at checked
  obtain ⟨caller, ⟨called, emittedFirst⟩, invoked, rfl, ⟨middle, during⟩, executed, unreturned,
    ⟨finish, emitted⟩, stepped, returned⟩ := checked
  refine ⟨finish, _, caller, called, middle, during, .advance, emitted, invoked,
    .of_execFrom executed, ?_, stepped, returned, rfl⟩
  intro other value present
  exact unreturned _ present (by simp [Event.isReturnOf])

theorem returned_notMem_observe
    {system : System} {thread caller : Thread} {call returned : Call} {point : Point}
    {result : StepResult} {reply : Reply} :
    Event.returned caller returned reply ∉ observe system thread call point result := by
  unfold observe
  split
  · simp
  · simp
  · simp
  · split <;> simp
  · simp

/-- What every step keeps in which a task does not return holds as long as the task has not
returned. -/
theorem kept_until_return
    {cfg : Config} {allowed : System → Action → Prop} {task : Nat} {motive : System → Prop}
    {system later : System} {during : List Event} (initially : motive system)
    (preserved : ∀ emitted state next action, motive state → allowed state action →
      state.step cfg action = some (next, emitted) →
      (∀ call reply, Event.returned (.task task) call reply ∉ emitted) → motive next)
    (run : (forge cfg).RunFrom allowed system during later)
    (unreturned : ∀ call reply, Event.returned (.task task) call reply ∉ during) :
    motive later := by
  revert unreturned
  refine run.invariant (motive := fun during state =>
    (∀ call reply, Event.returned (.task task) call reply ∉ during) → motive state)
    (fun _ => initially) ?_
  intro events emitted state next action held permitted stepped unreturned
  have reached := held fun call reply present =>
    unreturned call reply (List.mem_append_left _ present)
  exact preserved emitted state next action reached permitted stepped fun call reply present =>
    unreturned call reply (List.mem_append_right _ present)

/-- Events other than calls and returns are observed when a thread advances. -/
theorem Stepped.observed
    {cfg : Config} {system after : System} {action : Action} {events : List Event} {event : Event}
    (step : Stepped cfg system action after events) (present : event ∈ events)
    (uncalled : ∀ thread call, event ≠ .called thread call)
    (unreturned : ∀ thread call reply, event ≠ .returned thread call reply) :
    ∃ thread call point result, system.frames thread = .inCall call point ∧
      events = observe system thread call point result ++ result.outcome.returns thread call ∧
      event ∈ observe system thread call point result := by
  cases step with
  | sysTick => exact absurd present List.not_mem_nil
  | pendSv => exact absurd present List.not_mem_nil
  | invoke => exact absurd (List.mem_singleton.mp present) (uncalled _ _)
  | user => exact absurd present List.not_mem_nil
  | @advance thread call point result active inCall stepped =>
      refine ⟨thread, call, point, result, inCall, rfl, ?_⟩
      rcases List.mem_append.mp present with observed | returned
      · exact observed
      · cases outcome : result.outcome with
        | goto => simp [outcome, Outcome.returns] at returned
        | reply value =>
            rw [outcome] at returned
            exact absurd (List.mem_singleton.mp returned) (unreturned _ _ _)

/-- A step that emits a return is the last step of that call. -/
theorem Stepped.returned
    {cfg : Config} {system after : System} {action : Action} {events : List Event}
    {thread : Thread} {call : Call} {reply : Reply}
    (step : Stepped cfg system action after events)
    (present : Event.returned thread call reply ∈ events) :
    ∃ point result, system.activeThread = some thread ∧
      system.frames thread = .inCall call point ∧
      call.step cfg system.cpu system.kernel system.memory thread.slot point = some result ∧
      result.outcome = .reply reply ∧
      after = { system with
        kernel := result.kernel
        memory := result.memory }.setFrame thread .user ∧
      events = observe system thread call point result ++ [.returned thread call reply] := by
  cases step with
  | sysTick => exact absurd present List.not_mem_nil
  | pendSv => exact absurd present List.not_mem_nil
  | invoke => exact absurd present (by simp)
  | @advance other called point result active inCall stepped =>
      rcases List.mem_append.mp present with observed | returned
      · exact absurd observed returned_notMem_observe
      · cases outcome : result.outcome with
        | goto next =>
            rw [outcome] at returned
            exact absurd returned List.not_mem_nil
        | reply value =>
            rw [outcome] at returned
            obtain ⟨rfl, rfl, rfl⟩ := Event.returned.inj (List.mem_singleton.mp returned)
            exact ⟨point, result, active, inCall, stepped, outcome, rfl, rfl⟩
  | user => exact absurd present List.not_mem_nil

end ForgeKernel
