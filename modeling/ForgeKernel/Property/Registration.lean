import ForgeKernel.Invariant.Stacks

/-!
# Task registration

`fr_task_create` reserves a slot, builds its stack with interrupts enabled and publishes it, and
other tasks may run and create tasks between these parts.  A slot that is not yet published is
counted, but its CREATED state hides it from every scan of the registry.
-/

namespace ForgeKernel

open Machines

/-! ## Slots handed out -/

/-- The slot handed out by a call of `fr_task_create` that returns `FR_TASK_OK`. -/
def Event.createdSlot : Event → Option Nat
  | .returned _ (.taskCreate _ _) (.taskStatus .ok slot) => slot
  | _ => none

/-- Slots handed out so far, oldest first. -/
def createdSlots (events : List Event) : List Nat :=
  events.filterMap Event.createdSlot

/-- Slots that have been published. -/
def Kernel.published (kernel : Kernel) : Set Nat :=
  {slot | slot < kernel.taskCount ∧ (kernel.tasks slot).state ≠ .created}

/-- Kernels in the middle of a critical section or of the tick. -/
def Kernel.InSection (kernel middle : Kernel) : Prop :=
  kernel.Updates middle ∨ kernel.ticked.Updates middle

/-- No scan of the registry finds the slot, and no wait of it can be ended. -/
structure Kernel.Hides (kernel : Kernel) (slot : Nat) : Prop where
  current : kernel.currentTask ≠ some (.user slot)
  switched : ∀ current psp, schedulerSelectNext (kernel.savedAt current psp) (some current) ≠
    some (.user slot)
  first : ∀ middle, kernel.InSection middle → schedulerSelectHighestReady middle ≠ some slot
  next : ∀ middle, kernel.InSection middle →
    schedulerSelectNext middle middle.currentTask ≠ some (.user slot)
  waiter : ∀ middle, kernel.InSection middle → ∀ reason object,
    schedulerSelectWaiterLocked middle reason object ≠ some slot
  unblocked : ∀ middle, kernel.InSection middle → ∀ result,
    schedulerUnblockTaskLocked middle slot result = (middle, false)

/-- The scheduler has not dispatched the slot before this step. -/
def neverDispatched (slot : Nat) (system : System) (_ : Action) : Prop :=
  system.kernel.currentTask ≠ some (.user slot)

instance neverDispatchedDecidable (slot : Nat) (system : System) (action : Action) :
    Decidable (neverDispatched slot system action) :=
  inferInstanceAs (Decidable (_ ≠ _))

/-! ## Hidden slots -/

/-- The scan of the scheduler selects a registered slot that is READY or RUNNING. -/
theorem schedulerSelectNext_member
    {kernel : Kernel} {current : Option TaskRef} {slot : Nat}
    (selected : schedulerSelectNext kernel current = some (.user slot)) :
    slot < kernel.taskCount ∧
      ((kernel.tasks slot).state = .ready ∨ (kernel.tasks slot).state = .running) := by
  match current with
  | none => cases selected
  | some .idle =>
      obtain ⟨best, isBest, selects⟩ := schedulerSelectNext_idle kernel
      rw [selects] at selected
      cases best with
      | none => cases selected
      | some best =>
          obtain rfl : best = slot := TaskRef.user.inj (Option.some.inj selected)
          exact ⟨isBest.1.2, Or.inl (of_decide_eq_true isBest.1.1)⟩
  | some (.user current) =>
      by_cases inactive : (kernel.tasks current).state ≠ .running ∧
          (kernel.tasks current).state ≠ .blocked
      · simp [schedulerSelectNext, inactive] at selected
      · rw [not_and_or, not_not, not_not] at inactive
        by_cases registered : current < kernel.taskCount
        · obtain ⟨best, isBest, selects⟩ :=
            schedulerSelectNext_user kernel registered inactive
          rw [selects] at selected
          cases best with
          | none => cases selected
          | some best =>
              obtain rfl : best = slot := TaskRef.user.inj (Option.some.inj selected)
              exact ⟨isBest.1.1, isBest.1.2.imp_right And.right⟩
        · have missing : (List.range kernel.taskCount).find? (· = current) = none := by
            rw [List.find?_eq_none]
            intro index member
            have small := List.mem_range.mp member
            simp only [decide_eq_true_eq]
            omega
          simp only [schedulerSelectNext, missing] at selected
          split at selected <;> cases selected

/-- The scans only find tasks in a state that the scheduler knows about. -/
theorem Kernel.Hides.of_resting
    {kernel : Kernel} {slot : Nat} (control : ControlOk kernel)
    (resting : ¬(kernel.tasks slot).state.Live) : kernel.Hides slot := by
  have asleep : ∀ middle, kernel.InSection middle → ¬(middle.tasks slot).state.Live := by
    intro middle reached live
    have move : StateMove (kernel.tasks slot).state (middle.tasks slot).state := by
      rcases reached with updates | updates
      · exact updates.framed.states slot
      · exact updates.framed.states slot
    rcases move with same | ⟨awake, _⟩
    · exact resting (same ▸ live)
    · exact resting awake
  refine ⟨?_, ?_, ?_, ?_, ?_, ?_⟩
  · intro present
    rcases (control.user slot present).2.2 with state | ⟨state, _⟩
    · exact resting (Or.inr (Or.inl state))
    · exact resting (Or.inr (Or.inr state))
  · intro current psp selected
    have state := (schedulerSelectNext_member selected).2
    simp only [Kernel.savedAt_tasks] at state
    rcases state with state | state
    · exact resting (Or.inl state)
    · exact resting (Or.inr (Or.inl state))
  · intro middle reached selected
    exact asleep middle reached (Or.inl (schedulerSelectHighestReady_some selected).2)
  · intro middle reached selected
    rcases (schedulerSelectNext_member selected).2 with state | state
    · exact asleep middle reached (Or.inl state)
    · exact asleep middle reached (Or.inr (Or.inl state))
  · intro middle reached reason object selected
    have waits := (schedulerSelectWaiterLocked_some selected).2.1
    exact asleep middle reached (Or.inr (Or.inr (Task.waitsOn_iff.mp waits).1))
  · intro middle reached result
    rcases schedulerUnblockTaskLocked_cases middle slot result with refused | ⟨blocked, _⟩
    · exact refused
    · exact absurd (Or.inr (Or.inr blocked)) (asleep middle reached)

/-- A slot that is not published stays hidden in every section and in the tick. -/
theorem Core.hides
    {system : System} (core : Core system) {slot : Nat}
    (unpublished : slot ∉ system.kernel.published) : system.kernel.Hides slot := by
  apply Kernel.Hides.of_resting core.control
  by_cases small : slot < system.kernel.taskCount
  · have created : (system.kernel.tasks slot).state = .created := by
      by_contra published
      exact unpublished ⟨small, published⟩
    rw [created]
    simp [TaskState.Live]
  · obtain ⟨⟨priority, zero⟩, _⟩ := core.unregistered slot (Nat.le_of_not_lt small)
    rw [zero]
    simp [TaskState.Live, Task.zero]

/-! ## Published slots -/

/-- Steps that keep the set of CREATED slots publish nothing. -/
theorem Kernel.published_of_states
    {before after : Kernel} (taskCount : after.taskCount = before.taskCount)
    (states : ∀ index, StateMove (before.tasks index).state (after.tasks index).state) :
    after.published = before.published := by
  ext slot
  simp only [Kernel.published, Set.mem_ofPred_eq, taskCount, ne_eq, (states slot).created_iff]

/-! ## Slots are handed out once -/

/-- The transfers that a step shows hand out no slot. -/
theorem observe_createdSlots
    (system : System) (thread : Thread) (call : Call) (point : Point) (result : StepResult) :
    createdSlots (observe system thread call point result) = [] := by
  unfold observe
  split
  · rfl
  · rfl
  · rfl
  · split <;> rfl
  · rfl

/-- Only `fr_task_create` hands out slots. -/
theorem returns_createdSlots
    {call : Call} (other : ∀ outTask config, call ≠ .taskCreate outTask config)
    (thread : Thread) (outcome : Outcome) :
    createdSlots (outcome.returns thread call) = [] := by
  cases outcome with
  | goto => rfl
  | reply value =>
      cases call with
      | taskCreate outTask config => exact absurd rfl (other outTask config)
      | _ => rfl

/-- A step hands out no slot and publishes none, or both for one slot. -/
inductive Publishes (before after : Kernel) : List Nat → Prop
  | nothing (same : after.published = before.published) : Publishes before after []
  | slot {index : Nat} (new : index ∉ before.published)
      (grown : after.published = insert index before.published) :
      Publishes before after [index]

/-- A part of a creation publishes its slot when it hands it out, and not before. -/
theorem CreateStep.handsOut
    {cfg : Config} {system : System} {thread : Thread} {outTask : Bool}
    {config : Option TaskConfig} {point : Point} {result : StepResult} (core : Core system)
    (inCall : system.frames thread = .inCall (.taskCreate outTask config) point)
    (step : CreateStep cfg system.kernel system.memory config point result) :
    Publishes system.kernel result.kernel
      (createdSlots (result.outcome.returns thread (.taskCreate outTask config))) := by
  cases step with
  | @refuses _ status error =>
      have silent : createdSlots (Outcome.returns thread (.taskCreate outTask config)
          (.reply (.taskStatus status none))) = [] := by
        cases status <;> rfl
      change Publishes _ _ (createdSlots (Outcome.returns _ _ (.reply (.taskStatus status none))))
      rw [silent]
      exact .nothing rfl
  | @reserves settings after _ reserved =>
      obtain ⟨_, rfl⟩ := taskCreateReserve_some reserved
      refine .nothing ?_
      ext slot
      change slot < system.kernel.taskCount + 1 ∧ ((system.kernel.setTask _ _).tasks slot).state ≠
        .created ↔ _
      by_cases new : slot = system.kernel.taskCount
      · rw [new, Kernel.setTask_tasks_self]
        simp [Kernel.published, Task.reserve]
      · rw [Kernel.setTask_tasks_of_ne _ _ new]
        have older : slot < system.kernel.taskCount + 1 ↔ slot < system.kernel.taskCount := by
          omega
        rw [older]
        rfl
  | @builds _ index =>
      obtain ⟨control, _, tasks⟩ := taskCreateBuild_facts cfg system.kernel index
      exact .nothing (Kernel.published_of_states control.taskCount fun slot =>
        Or.inl (by change ((taskCreateBuild _ _ _).1.tasks slot).state = _; rw [tasks]))
  | @publishes _ index initialSp =>
      obtain ⟨small, created⟩ := core.reserved thread index (by rw [inCall]; rfl)
      obtain ⟨control, _, tasks⟩ := taskCreatePublish_facts system.kernel index initialSp
      refine .slot (fun published => published.2 created) ?_
      ext slot
      change slot < (taskCreatePublish _ _ _).taskCount ∧
        ((taskCreatePublish _ _ _).tasks slot).state
        ≠ .created ↔ _
      rw [control.taskCount, tasks]
      by_cases own : slot = index
      · rw [own, Function.update_self]
        simp [small, Task.publish]
      · rw [Function.update_of_ne own]
        simp [Kernel.published, own]

/-- Every step of the system publishes exactly the slots it hands out. -/
theorem Core.step_publishes
    {cfg : Config} {system after : System} {action : Action} {emitted : List Event}
    (core : Core system) (step : system.step cfg action = some (after, emitted)) :
    Publishes system.kernel after.kernel (createdSlots emitted) := by
  cases System.stepped step with
  | sysTick =>
      have framed := (sysTickHandler_updates system.kernel).framed
      exact .nothing (Kernel.published_of_states framed.taskCount framed.states)
  | @pendSv psp live =>
      obtain ⟨taskCount, states⟩ := (pendSvHandler_outcome psp core.control live).states
      exact .nothing (Kernel.published_of_states taskCount states)
  | invoke => exact .nothing rfl
  | @advance thread call point result active inCall stepped =>
      rw [createdSlots, List.filterMap_append, ← createdSlots, ← createdSlots,
        observe_createdSlots, List.nil_append]
      by_cases creates : ∃ outTask config, call = .taskCreate outTask config
      · obtain ⟨outTask, config, rfl⟩ := creates
        exact (taskCreateStep_cases stepped).handsOut core inCall
      · have other : ∀ outTask config, call ≠ .taskCreate outTask config :=
          fun outTask config same => creates ⟨outTask, config, same⟩
        have same := core.advance_sameSlots other stepped
        rw [returns_createdSlots other]
        exact .nothing (Kernel.published_of_states same.taskCount same.states)
  | user => exact .nothing rfl

/-- Along every run, slots handed out and published slots are the same. -/
structure HandedOut (events : List Event) (kernel : Kernel) : Prop where
  distinct : (createdSlots events).Nodup
  published : ∀ slot, slot ∈ createdSlots events ↔ slot ∈ kernel.published

/-- The slots handed out so far and the published ones stay the same set. -/
theorem HandedOut.step
    {before after : Kernel} {events emitted : List Event} (handed : HandedOut events before)
    (publishes : Publishes before after (createdSlots emitted)) :
    HandedOut (events ++ emitted) after := by
  have split : createdSlots (events ++ emitted) = createdSlots events ++ createdSlots emitted :=
    List.filterMap_append
  generalize createdSlots emitted = slots at publishes split
  cases publishes with
  | nothing same =>
      rw [List.append_nil] at split
      exact ⟨split ▸ handed.distinct, fun slot => by rw [split, same]; exact handed.published slot⟩
  | @slot index new grown =>
      have absent : index ∉ createdSlots events := fun present =>
        new ((handed.published index).mp present)
      refine ⟨?_, fun slot => ?_⟩
      · rw [split]
        rw [← List.concat_eq_append]
        exact handed.distinct.concat absent
      · rw [split, grown, List.mem_append, handed.published slot, List.mem_singleton,
          Set.mem_insert_iff]
        exact or_comm

/-- Along every run the slots handed out are distinct, and they are the published ones. -/
theorem HandedOut.of_run
    {cfg : Config} {allowed : System → Action → Prop} {events : List Event} {system : System}
    (run : (forge cfg).Run allowed events system) : HandedOut events system.kernel :=
  (run.invariant (motive := fun events state => Core state ∧ HandedOut events state.kernel)
    ⟨Core.initial, List.nodup_nil, fun slot =>
      ⟨fun present => absurd present List.not_mem_nil,
        fun published => absurd published.1 (Nat.not_lt_zero slot)⟩⟩
    fun _ _ _ _ _ held _ stepped => ⟨held.1.step stepped,
      held.2.step (held.1.step_publishes stepped)⟩).2

/-! ## Slots that have not run -/

/-- The stack pointer of a published slot is that of its synthetic frame. -/
def FreshSlot (kernel : Kernel) (slot : Nat) : Prop :=
  slot ∈ kernel.published → (kernel.tasks slot).savedSp = (kernel.tasks slot).initialSp

/-- A slot stays fresh while its saved and initial stack pointers stay. -/
theorem FreshSlot.kept
    {before after : Kernel} {slot : Nat} (fresh : FreshSlot before slot)
    (published : after.published = before.published)
    (savedSp : (after.tasks slot).savedSp = (before.tasks slot).savedSp)
    (stackTop : (after.tasks slot).stackTop = (before.tasks slot).stackTop) :
    FreshSlot after slot := by
  intro visible
  rw [published] at visible
  have same := fresh visible
  unfold Task.initialSp at same ⊢
  rw [savedSp, stackTop]
  exact same

/-- Steps that keep the slots and their stacks keep them fresh. -/
theorem FreshSlot.sameSlots
    {before after : Kernel} {slot : Nat} (fresh : FreshSlot before slot)
    (same : before.SameSlots after) : FreshSlot after slot :=
  fresh.kept (Kernel.published_of_states same.taskCount same.states)
    (same.kept slot).savedSp (same.kept slot).stackTop

/-- A switch away from another task keeps a slot fresh. -/
theorem FreshSlot.switched
    {before after : Kernel} {psp : Word} {slot : Nat} (fresh : FreshSlot before slot)
    (elsewhere : before.currentTask ≠ some (.user slot))
    (outcome : SwitchOutcome before psp after) : FreshSlot after slot := by
  have published := Kernel.published_of_states outcome.states.1 outcome.states.2
  cases outcome with
  | trapped stopped =>
      refine fresh.kept published ?_ ?_
      · rw [stopped.others slot elsewhere]
      · rw [stopped.others slot elsewhere]
  | switched resumed =>
      refine fresh.kept published ?_ ?_
      · rw [resumed.tasks]
        exact if_neg elsewhere
      · rw [resumed.tasks]

/-- A creation keeps every slot fresh and publishes a fresh one. -/
theorem FreshSlot.creates
    {cfg : Config} {system : System} {thread : Thread} {outTask : Bool}
    {config : Option TaskConfig} {point : Point} {result : StepResult} {slot : Nat}
    (fresh : FreshSlot system.kernel slot) (stacksOk : StacksOk cfg system)
    (inCall : system.frames thread = .inCall (.taskCreate outTask config) point)
    (step : CreateStep cfg system.kernel system.memory config point result) :
    FreshSlot result.kernel slot := by
  cases step with
  | refuses => exact fresh
  | @reserves settings after _ reserved =>
      obtain ⟨_, rfl⟩ := taskCreateReserve_some reserved
      rintro ⟨_, visible⟩
      change ((system.kernel.setTask _ _).tasks slot).state ≠ _ at visible
      change ((system.kernel.setTask _ _).tasks slot).savedSp =
        ((system.kernel.setTask _ _).tasks slot).initialSp
      by_cases new : slot = system.kernel.taskCount
      · rw [new, Kernel.setTask_tasks_self] at visible
        exact absurd rfl visible
      · rename_i small
        rw [Kernel.setTask_tasks_of_ne _ _ new] at visible ⊢
        change slot < system.kernel.taskCount + 1 at small
        exact fresh ⟨by omega, visible⟩
  | @builds _ index =>
      obtain ⟨control, _, tasks⟩ := taskCreateBuild_facts cfg system.kernel index
      exact fresh.sameSlots (.of_tasks control.taskCount tasks)
  | @publishes _ index initialSp =>
      obtain ⟨control, _, tasks⟩ := taskCreatePublish_facts system.kernel index initialSp
      rintro ⟨small, visible⟩
      change ((taskCreatePublish _ _ _).tasks slot).state ≠ _ at visible
      change slot < (taskCreatePublish _ _ _).taskCount at small
      change ((taskCreatePublish _ _ _).tasks slot).savedSp =
        ((taskCreatePublish _ _ _).tasks slot).initialSp
      rw [control.taskCount] at small
      rw [tasks] at visible ⊢
      by_cases own : slot = index
      · rw [own, Function.update_self]
        exact stacksOk.built inCall
      · rw [Function.update_of_ne own] at visible ⊢
        exact fresh ⟨small, visible⟩

/-- Only the dispatch of a task ends the freshness of its slot. -/
theorem FreshSlot.step
    {cfg : Config} {system after : System} {action : Action} {emitted : List Event} {slot : Nat}
    (fresh : FreshSlot system.kernel slot) (core : Core system)
    (stacksOk : StacksOk cfg system) (elsewhere : neverDispatched slot system action)
    (step : system.step cfg action = some (after, emitted)) : FreshSlot after.kernel slot := by
  cases System.stepped step with
  | sysTick =>
      have ticked : system.kernel.SameSlots system.kernel.ticked := .of_tasks rfl rfl
      exact fresh.sameSlots
        (ticked.trans (sysTickHandler_updates system.kernel).framed.toSameSlots)
  | pendSv live => exact fresh.switched elsewhere (pendSvHandler_outcome _ core.control live)
  | invoke => exact fresh
  | @advance thread call point result active inCall stepped =>
      by_cases creates : ∃ outTask config, call = .taskCreate outTask config
      · obtain ⟨outTask, config, rfl⟩ := creates
        exact fresh.creates stacksOk inCall (taskCreateStep_cases stepped)
      · exact fresh.sameSlots (core.advance_sameSlots
          (fun outTask config same => creates ⟨outTask, config, same⟩) stepped)
  | user => exact fresh.sameSlots (.of_tasks rfl rfl)

/-- A slot that was never dispatched still has the stack pointer of its synthetic frame. -/
theorem FreshSlot.of_run
    {cfg : Config} {events : List Event} {system : System} {slot : Nat}
    (run : (forge cfg).Run (neverDispatched slot) events system) :
    FreshSlot system.kernel slot :=
  (run.stateInvariant
    (motive := fun state => Core state ∧ StacksOk cfg state ∧ FreshSlot state.kernel slot)
    ⟨Core.initial, .initial cfg, fun published => absurd published.1 (Nat.not_lt_zero slot)⟩
    fun _ _ _ _ held elsewhere stepped => ⟨held.1.step stepped, held.2.1.step held.1 stepped,
      held.2.2.step held.1 held.2.1 elsewhere stepped⟩).2.2

/-! ## Interleaved creations -/

/-- A step of `fr_task_create` writes no control block but the one that it reserves or has
reserved. -/
theorem CreateStep.others
    {cfg : Config} {kernel : Kernel} {memory : Memory} {config : Option TaskConfig}
    {point : Point} {result : StepResult} {outTask : Bool} {slot : Nat}
    (step : CreateStep cfg kernel memory config point result)
    (written : result.kernel.tasks slot ≠ kernel.tasks slot) :
    (Frame.inCall (.taskCreate outTask config) point).reserves = some slot ∨
      (result.outcome.frame (.taskCreate outTask config)).reserves = some slot := by
  cases step with
  | refuses => exact absurd rfl written
  | reserves _ reserved =>
      obtain ⟨_, rfl⟩ := taskCreateReserve_some reserved
      right
      by_contra other
      refine written (Kernel.setTask_tasks_of_ne _ _ fun same => other ?_)
      rw [same]
      rfl
  | @builds _ index =>
      obtain ⟨_, _, tasks⟩ := taskCreateBuild_facts cfg kernel index
      exact absurd (congrFun tasks slot) written
  | @publishes _ index initialSp =>
      obtain ⟨_, _, tasks⟩ := taskCreatePublish_facts kernel index initialSp
      left
      by_contra other
      refine written ?_
      change (taskCreatePublish _ _ _).tasks slot = _
      rw [tasks]
      refine Function.update_of_ne (fun same => other ?_) _ _
      rw [same]
      rfl

/-- However calls of `fr_task_create` are interleaved: the registry stays within its capacity and
its identifiers are consecutive, slots are handed out once, a slot is hidden until it is
published, its first stack pointer is that of its synthetic frame, and calls only write the slot
that they reserved and nothing when they fail. -/
theorem registration_under_preemption
    {cfg : Config} {events : List Event} {system : System} (run : Run cfg events system) :
    system.kernel.taskCount ≤ cfg.maxTasks ∧
    (∀ slot < system.kernel.taskCount, (system.kernel.tasks slot).id = slot + 1) ∧
    (createdSlots events).Nodup ∧
    (∀ slot ∉ createdSlots events, system.kernel.Hides slot) ∧
    (∀ slot, (forge cfg).Run (neverDispatched slot) events system →
      (system.kernel.tasks slot).state = .ready →
      (system.kernel.tasks slot).savedSp = (system.kernel.tasks slot).stackTop - 64) ∧
    (∀ thread outTask config point result,
      system.frames thread = .inCall (.taskCreate outTask config) point →
      taskCreateStep cfg system.kernel system.memory outTask config point = some result →
      (∀ slot, result.kernel.tasks slot ≠ system.kernel.tasks slot →
        (system.frames thread).reserves = some slot ∨
          (result.outcome.frame (.taskCreate outTask config)).reserves = some slot) ∧
      (∀ status out, result.outcome = .reply (.taskStatus status out) → status ≠ .ok →
        point = .entry ∧ result.kernel = system.kernel ∧ out = none)) := by
  have core := Core.of_run run
  have stacksOk := StacksOk.of_run run
  have handed := HandedOut.of_run run
  refine ⟨stacksOk.kernel.count, fun slot small => (stacksOk.kernel.registered slot small).id,
    handed.distinct, ?_, ?_, ?_⟩
  · intro slot absent
    exact core.hides (mt (handed.published slot).mpr absent)
  · intro slot undispatched ready
    refine FreshSlot.of_run undispatched ⟨?_, ?_⟩
    · by_contra large
      obtain ⟨⟨priority, zero⟩, _⟩ := core.unregistered slot (Nat.le_of_not_lt large)
      rw [zero] at ready
      cases ready
    · rw [ready]
      decide
  · intro thread outTask config point result inCall stepped
    have step := taskCreateStep_cases stepped
    refine ⟨fun slot written => ?_, fun status out replied error => ?_⟩
    · rw [inCall]
      exact step.others written
    · cases step with
      | refuses =>
          obtain ⟨_, rfl⟩ := Reply.taskStatus.inj (Outcome.reply.inj replied)
          exact ⟨rfl, rfl, rfl⟩
      | reserves => cases replied
      | builds => cases replied
      | publishes =>
          obtain ⟨rfl, _⟩ := Reply.taskStatus.inj (Outcome.reply.inj replied)
          exact absurd rfl error

/-- The first task is preempted between the parts of a creation, and the second task creates
another one. -/
def interleavedCreations : List Action :=
  Action.bootProgram [] [1, 2] ++
    ([.invoke (.taskSleep 1), .advance, .switchFrom 1,
       .invoke (.taskCreate true (some ⟨0x08001001#32, 0, Action.stackOf 2, 32, 1⟩)), .advance,
       .sysTick, .switchFrom 0, .advance,
       .invoke (.taskCreate true (some ⟨0x08001001#32, 0, Action.stackOf 3, 32, 1⟩)), .advance,
       .advance, .advance] : List Action)

/-- While the first creation is preempted its slot stays hidden, and the second one is
published. -/
theorem preempted_creation_hidden :
    ∃ events system, Run Config.default events system ∧ createdSlots events = [0, 1, 3] ∧
      system.kernel.taskCount = 4 ∧ (createdSlots events).Nodup ∧ system.kernel.Hides 2 ∧
      (system.kernel.tasks 3).state = .ready ∧
      (system.kernel.tasks 3).savedSp = (system.kernel.tasks 3).stackTop - 64 := by
  obtain ⟨events, system, undispatched, checked⟩ :=
    Machine.RunFrom.exists_of_execFrom (forge Config.default) (neverDispatched 3) System.boot
      interleavedCreations (fun events system => decide (createdSlots events = [0, 1, 3] ∧
        system.kernel.taskCount = 4 ∧ (system.kernel.tasks 3).state = .ready))
      (by decide +kernel)
  rw [decide_eq_true_eq] at checked
  obtain ⟨slots, count, ready⟩ := checked
  have run : Run Config.default events system := undispatched.mono fun _ _ _ => trivial
  obtain ⟨_, _, distinct, hidden, first, _⟩ := registration_under_preemption run
  refine ⟨events, system, run, slots, count, distinct, hidden 2 ?_, ready,
    first 3 undispatched ready⟩
  rw [slots]
  decide

end ForgeKernel
