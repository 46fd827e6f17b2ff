import ForgeKernel.Invariant.Waits

/-!
# Semaphores

Tokens move through the counter or straight to a blocked taker.  `Core.tokenMove`
lists what a step can do to the tokens of one semaphore.
-/

namespace ForgeKernel

open Machines

/-! ## Configuration and count -/

namespace Kernel

/-- The magic number that an init function has stored. -/
def semaphoreInitialized (kernel : Kernel) : SemaphoreRef → Bool
  | .binary index => (kernel.binarySemaphores index).magic = binarySemaphoreMagic
  | .counting index => (kernel.countingSemaphores index).magic = countingSemaphoreMagic

/-- The semaphore was configured in the same way in both kernels. -/
structure SameSemaphore (ref : SemaphoreRef) (before after : Kernel) : Prop where
  maxCount : after.semaphoreMaxCount ref = before.semaphoreMaxCount ref
  initialized : after.semaphoreInitialized ref = before.semaphoreInitialized ref

variable {ref : SemaphoreRef} {before after kernel : Kernel}

/-- The same object has the same configuration. -/
theorem SameObject.sameSemaphore (same : before.SameObject after (.semaphore ref)) :
    SameSemaphore ref before after := by
  cases ref with
  | binary index =>
      have data : after.binarySemaphores index = before.binarySemaphores index := same
      exact ⟨rfl, by simp only [semaphoreInitialized, data]⟩
  | counting index =>
      have data : after.countingSemaphores index = before.countingSemaphores index := same
      exact ⟨by simp only [semaphoreMaxCount, data], by simp only [semaphoreInitialized, data]⟩

theorem SameObject.semaphoreCount (same : before.SameObject after (.semaphore ref)) :
    after.semaphoreCount ref = before.semaphoreCount ref := by
  cases ref with
  | binary index =>
      have data : after.binarySemaphores index = before.binarySemaphores index := same
      simp only [Kernel.semaphoreCount, data]
  | counting index =>
      have data : after.countingSemaphores index = before.countingSemaphores index := same
      simp only [Kernel.semaphoreCount, data]

@[simp] theorem setSemaphoreCount_count (kernel : Kernel) (ref : SemaphoreRef) (count : Word) :
    (kernel.setSemaphoreCount ref count).semaphoreCount ref = count := by
  cases ref <;> simp [setSemaphoreCount, semaphoreCount]

/-- Storing the count keeps the configuration. -/
theorem setSemaphoreCount_same (kernel : Kernel) (ref : SemaphoreRef) (count : Word) :
    SameSemaphore ref kernel (kernel.setSemaphoreCount ref count) := by
  cases ref <;>
    exact ⟨by simp [setSemaphoreCount, semaphoreMaxCount],
      by simp [setSemaphoreCount, semaphoreInitialized]⟩

@[simp] theorem setSemaphoreCount_tasks (kernel : Kernel) (ref : SemaphoreRef) (count : Word) :
    (kernel.setSemaphoreCount ref count).tasks = kernel.tasks := by
  cases ref <;> rfl

end Kernel

/-- The checks of the wrappers, in terms of configuration and count. -/
theorem semaphoreGuard_iff {kernel : Kernel} {ref : SemaphoreRef} :
    semaphoreGuard kernel ref = true ↔ kernel.semaphoreInitialized ref = true ∧
      kernel.semaphoreMaxCount ref ≠ 0 ∧
      kernel.semaphoreCount ref ≤ kernel.semaphoreMaxCount ref := by
  cases ref <;>
    simp [semaphoreGuard, Kernel.semaphoreInitialized, Kernel.semaphoreMaxCount,
      Kernel.semaphoreCount]

/-! ## Steps of the semaphore calls -/

/-- Steps of a take. -/
inductive TakeStep (kernel : Kernel) (memory : Memory) (self : Nat) (ref : SemaphoreRef) :
    Point → StepResult → Prop
  | refuses {point : Point}
      (early : point.isOpening = true) :
      TakeStep kernel memory self ref point (.reply kernel memory (.bool false))
  | proceeds {point next : Point}
      (early : point.isOpening = true)
      (idle : next.isWaiting = false)
      (unsignaled : ∀ timeout, next ≠ .signaled timeout) :
      TakeStep kernel memory self ref point (.goto kernel memory next)
  | decides {timeout : WaitTimeout} {ended : Kernel × Progress Bool}
      (outcome : TakeOutcome kernel ref timeout ended) :
      TakeStep kernel memory self ref (.armed timeout)
        (.ofProgress memory (.suspended timeout) ended)
  | resumes {timeout : WaitTimeout} :
      TakeStep kernel memory self ref (.suspended timeout)
        (.reply kernel memory (.bool ((kernel.tasks self).waitResult = .signaled)))

/-- Steps of a give. -/
inductive GiveStep (cpu : Cpu) (kernel : Kernel) (memory : Memory) (ref : SemaphoreRef) :
    Point → StepResult → Prop
  | refuses
      (unguarded : semaphoreGuard kernel ref = false) :
      GiveStep cpu kernel memory ref .entry (.reply kernel memory (.bool false))
  | guards
      (guarded : semaphoreGuard kernel ref = true) :
      GiveStep cpu kernel memory ref .entry
        (.goto kernel memory (.guarded (kernel.semaphoreMaxCount ref)))
  | decides {maxCount : Word} {ended : Kernel × Bool}
      (outcome : GiveOutcome cpu kernel ref maxCount ended) :
      GiveStep cpu kernel memory ref (.guarded maxCount)
        (.reply ended.1 memory (.bool ended.2))

section Steps

variable {cfg : Config} {cpu : Cpu} {kernel : Kernel} {memory : Memory} {self : Nat}
  {ref : SemaphoreRef} {ticks : Word} {point : Point} {result : StepResult}

/-- A step of a take runs its section, or only moves on. -/
theorem semaphoreTakeStep_cases
    (stepped : (Call.semaphoreTake (some ref) ticks).step cfg cpu kernel memory self point =
      some result) :
    TakeStep kernel memory self ref point result := by
  change semaphoreTakeStep cpu kernel memory self (some ref) ticks point = some result at stepped
  cases point with
  | entry =>
      simp only [semaphoreTakeStep] at stepped
      split at stepped
      · obtain rfl := Option.some.inj stepped
        exact .proceeds rfl rfl (by simp)
      · obtain rfl := Option.some.inj stepped
        exact .refuses rfl
  | guarded maxCount =>
      obtain rfl := Option.some.inj stepped
      unfold StepResult.arm
      split
      · split
        · exact .proceeds rfl rfl (by simp)
        · exact .refuses rfl
      · exact .refuses rfl
  | armed timeout =>
      obtain rfl := Option.some.inj stepped
      exact .decides (semaphoreTakeSection_outcome ..)
  | suspended timeout =>
      obtain rfl := Option.some.inj stepped
      exact .resumes
  | _ => exact absurd stepped (by simp [semaphoreTakeStep])

/-- A step of a give runs its section, or only moves on. -/
theorem semaphoreGiveStep_cases
    (stepped : (Call.semaphoreGive (some ref)).step cfg cpu kernel memory self point =
      some result) :
    GiveStep cpu kernel memory ref point result := by
  change semaphoreGiveStep cpu kernel memory (some ref) point = some result at stepped
  cases point with
  | entry =>
      simp only [semaphoreGiveStep] at stepped
      split at stepped
      · rename_i guarded
        obtain rfl := Option.some.inj stepped
        exact .guards guarded
      · rename_i unguarded
        obtain rfl := Option.some.inj stepped
        exact .refuses (by simpa using unguarded)
  | guarded maxCount =>
      obtain rfl := Option.some.inj stepped
      exact .decides (semaphoreGiveSection_outcome ..)
  | _ => exact absurd stepped (by simp [semaphoreGiveStep])

end Steps

/-- The calls on a semaphore. -/
theorem Call.semaphore_cases
    {call : Call} {ref : SemaphoreRef} (mine : call.object = some (.semaphore ref)) :
    (∃ index available, ref = .binary index ∧
        call = .binarySemaphoreInit (some index) available) ∨
      (∃ index initialCount maxCount, ref = .counting index ∧
        call = .countingSemaphoreInit (some index) initialCount maxCount) ∨
      (∃ ticks, call = .semaphoreTake (some ref) ticks) ∨
      call = .semaphoreGive (some ref) := by
  cases call <;> simp_all [Call.object, eq_comm, and_comm]

/-! ## What a step does to the tokens -/

/-- A take of a task that has returned true. -/
def Event.takes (ref : SemaphoreRef) : Event → Bool
  | .returned (.task _) (.semaphoreTake (some semaphore) _) (.bool true) => semaphore = ref
  | _ => false

/-- A give that has returned true. -/
def Event.gives (ref : SemaphoreRef) : Event → Bool
  | .returned _ (.semaphoreGive (some semaphore)) (.bool true) => semaphore = ref
  | _ => false

/-- Initial and maximal count of a successful init. -/
def Event.initializes (ref : SemaphoreRef) : Event → Option (Word × Word)
  | .returned _ (.binarySemaphoreInit (some index) available) (.bool true) =>
      if ref = .binary index then some (if available then 1 else 0, 1) else none
  | .returned _ (.countingSemaphoreInit (some index) initialCount maxCount) (.bool true) =>
      if ref = .counting index then some (initialCount, maxCount) else none
  | _ => none

/-- An event without a trace in the ledger of the semaphore. -/
structure Event.Tokenless (ref : SemaphoreRef) (event : Event) : Prop where
  takes : event.takes ref = false
  gives : event.gives ref = false
  initializes : event.initializes ref = none

/-- Takers that have been handed a token and have not returned. -/
def System.signaledTakers (system : System) (ref : SemaphoreRef) : Finset Nat :=
  system.signaledFrom .sync (.semaphore ref)

/-- A task is blocked on the semaphore. -/
def System.BlockedOn (system : System) (ref : SemaphoreRef) (task : Nat) : Prop :=
  Task.waitsOn .sync (.semaphore ref) (system.kernel.tasks task) = true

/-- Events about other objects carry no token of this semaphore. -/
theorem Event.Tokenless.of_silent
    {ref : SemaphoreRef} {event : Event} (silent : event.about (.semaphore ref) = false) :
    event.Tokenless ref := by
  refine ⟨?_, ?_, ?_⟩
  · unfold Event.takes
    split
    · simpa [Event.about, Call.object] using silent
    · rfl
  · unfold Event.gives
    split
    · simpa [Event.about, Call.object] using silent
    · rfl
  · unfold Event.initializes
    split
    · refine if_neg fun same => ?_
      simp [Event.about, Call.object, same] at silent
    · refine if_neg fun same => ?_
      simp [Event.about, Call.object, same] at silent
    · rfl

/-- A failed call leaves no trace. -/
theorem Event.Tokenless.of_failure
    {ref : SemaphoreRef} {thread : Thread} {call : Call} {reply : Reply}
    (failed : reply ≠ .bool true) : (Event.returned thread call reply).Tokenless ref := by
  refine ⟨?_, ?_, ?_⟩
  · unfold Event.takes
    split <;> simp_all
  · unfold Event.gives
    split <;> simp_all
  · unfold Event.initializes
    split <;> simp_all

/-- What a step can do to the tokens of one semaphore. -/
inductive TokenMove (ref : SemaphoreRef) (before after : System) : List Event → Prop
  | keeps {events : List Event}
      (same : before.kernel.SameObject after.kernel (.semaphore ref))
      (signaled : after.signaledTakers ref = before.signaledTakers ref)
      (blocked : ∀ task, after.BlockedOn ref task → before.BlockedOn ref task)
      (silent : ∀ event ∈ events, event.Tokenless ref) :
      TokenMove ref before after events
  | configures {event : Event} {initialCount maxCount : Word}
      (stopped : before.kernel.running = false)
      (still : after.kernel.running = false)
      (initialized : after.kernel.semaphoreInitialized ref = true)
      (count : after.kernel.semaphoreCount ref = initialCount)
      (maximum : after.kernel.semaphoreMaxCount ref = maxCount)
      (positive : maxCount ≠ 0)
      (bounded : initialCount ≤ maxCount)
      (init : event.initializes ref = some (initialCount, maxCount))
      (untaken : event.takes ref = false)
      (ungiven : event.gives ref = false) :
      TokenMove ref before after [event]
  | takes {task : Nat} {ticks : Word}
      (running : before.kernel.running = true)
      (same : before.kernel.SameSemaphore ref after.kernel)
      (available : before.kernel.semaphoreCount ref ≠ 0)
      (count : after.kernel.semaphoreCount ref = before.kernel.semaphoreCount ref - 1)
      (signaled : after.signaledTakers ref = before.signaledTakers ref)
      (blocked : ∀ task, after.BlockedOn ref task → before.BlockedOn ref task) :
      TokenMove ref before after
        [.returned (.task task) (.semaphoreTake (some ref) ticks) (.bool true)]
  | waits
      (same : before.kernel.SameObject after.kernel (.semaphore ref))
      (empty : before.kernel.semaphoreCount ref = 0)
      (signaled : after.signaledTakers ref = before.signaledTakers ref) :
      TokenMove ref before after []
  | lands {task : Nat} {ticks : Word}
      (running : before.kernel.running = true)
      (same : before.kernel.SameObject after.kernel (.semaphore ref))
      (flew : task ∈ before.signaledTakers ref)
      (signaled : after.signaledTakers ref = (before.signaledTakers ref).erase task)
      (blocked : ∀ task, after.BlockedOn ref task → before.BlockedOn ref task) :
      TokenMove ref before after
        [.returned (.task task) (.semaphoreTake (some ref) ticks) (.bool true)]
  | stores {thread : Thread} {maxCount : Word}
      (running : before.kernel.running = true)
      (guarded : before.frames thread =
        .inCall (.semaphoreGive (some ref)) (.guarded maxCount))
      (same : before.kernel.SameSemaphore ref after.kernel)
      (room : before.kernel.semaphoreCount ref < maxCount)
      (count : after.kernel.semaphoreCount ref = before.kernel.semaphoreCount ref + 1)
      (signaled : after.signaledTakers ref = before.signaledTakers ref)
      (unwanted : ∀ task, ¬after.BlockedOn ref task) :
      TokenMove ref before after
        [.returned thread (.semaphoreGive (some ref)) (.bool true)]
  | wakes {thread : Thread} {waiter : Nat}
      (running : before.kernel.running = true)
      (same : before.kernel.SameObject after.kernel (.semaphore ref))
      (waits : before.BlockedOn ref waiter)
      (signaled : after.signaledTakers ref = insert waiter (before.signaledTakers ref))
      (blocked : ∀ task, after.BlockedOn ref task → before.BlockedOn ref task) :
      TokenMove ref before after
        [.returned thread (.semaphoreGive (some ref)) (.bool true)]

section Moves

variable {cfg : Config} {system : System} {kernel : Kernel} {memory : Memory} {thread : Thread}
  {frame : Frame} {events : List Event} {ref : SemaphoreRef}

/-- A step that leaves semaphore and control blocks alone, and the view of its thread. -/
theorem Core.tokenMove_still
    (core : Core system)
    (next : Core ({ system with
      kernel := kernel
      memory := memory }.setFrame thread frame))
    (tasks : kernel.tasks = system.kernel.tasks)
    (same : system.kernel.SameObject kernel (.semaphore ref))
    (own : ∀ self, thread = .task self →
      waitView (system.kernel.tasks self) frame = system.view self)
    (silent : ∀ event ∈ events, event.Tokenless ref) :
    TokenMove ref system ({ system with
      kernel := kernel
      memory := memory }.setFrame thread frame) events := by
  refine .keeps same (core.signaledFrom_congr next fun task => ?_) (fun task blocked => ?_) silent
  · rw [System.view_setFrame_still tasks own]
  · change Task.waitsOn _ _ (kernel.tasks task) = true at blocked
    rwa [tasks] at blocked

/-- Points at which a thread has no wait. -/
theorem waitView_of_idle
    {task : Task} {call : Call} {point : Point}
    (idle : point.isWaiting = false) (unsignaled : ∀ timeout, point ≠ .signaled timeout) :
    waitView task (.inCall call point) = .idle := by
  cases point <;> simp_all [Point.isWaiting, waitView]

/-- A call that has not entered its section does not wait. -/
theorem waitView_of_opening
    {task : Task} {call : Call} {point : Point} (early : point.isOpening = true) :
    waitView task (.inCall call point) = .idle := by
  cases point <;> simp_all [Point.isOpening, waitView]

variable {point : Point} {result : StepResult}

/-- What a step of a take does to the tokens. -/
theorem Core.tokenMove_take
    {ticks : Word}
    (core : Core system) (active : system.activeThread = some thread)
    (inCall : system.frames thread = .inCall (.semaphoreTake (some ref) ticks) point)
    (stepped : (Call.semaphoreTake (some ref) ticks).step cfg system.cpu system.kernel
      system.memory thread.slot point = some result) :
    TokenMove ref system
      ({ system with
        kernel := result.kernel
        memory := result.memory }.setFrame thread
          (result.outcome.frame (.semaphoreTake (some ref) ticks)))
      (observe system thread (.semaphoreTake (some ref) ticks) point result ++
        result.outcome.returns thread (.semaphoreTake (some ref) ticks)) := by
  have next := core.advance active inCall stepped
  have quiet : observe system thread (.semaphoreTake (some ref) ticks) point result = [] := rfl
  have views : ∀ self, thread = .task self → system.view self =
      waitView (system.kernel.tasks self) (.inCall (.semaphoreTake (some ref) ticks) point) := by
    rintro self rfl
    rw [System.view, inCall]
  rw [quiet, List.nil_append]
  cases semaphoreTakeStep_cases stepped with
  | refuses early =>
      refine core.tokenMove_still next rfl (.refl _ _) (fun self own => ?_) ?_
      · rw [views self own, waitView_of_opening early]
        rfl
      · simpa [StepResult.reply, Outcome.returns] using .of_failure (by simp)
  | proceeds early idle unsignaled =>
      refine core.tokenMove_still next rfl (.refl _ _) (fun self own => ?_) ?_
      · rw [views self own, waitView_of_opening early]
        exact waitView_of_idle idle unsignaled
      · simp [StepResult.goto, Outcome.returns]
  | @decides timeout ended outcome =>
      cases outcome with
      | refused =>
          refine core.tokenMove_still next rfl (.refl _ _) (fun self own => ?_) ?_
          · rw [views self own]
            rfl
          · simpa [StepResult.ofProgress, StepResult.reply, Outcome.returns] using
              .of_failure (by simp)
      | taken running available =>
          obtain ⟨self, rfl⟩ := core.task_of_running active running
          have own : ∀ index, Thread.task self = .task index →
              waitView (system.kernel.tasks index) .user = system.view index := by
            rintro _ ⟨⟩
            rw [views self rfl]
            rfl
          refine .takes running (Kernel.setSemaphoreCount_same ..) available
            (Kernel.setSemaphoreCount_count ..)
            (core.signaledFrom_congr next fun task => ?_) fun task blocked => ?_
          · exact congrArg _
              (System.view_setFrame_still (Kernel.setSemaphoreCount_tasks ..) own task)
          · change Task.waitsOn _ _ ((system.kernel.setSemaphoreCount ref _).tasks task) = true
              at blocked
            rwa [Kernel.setSemaphoreCount_tasks] at blocked
      | @waits current delay trace runs empty =>
          obtain rfl := core.active_eq active runs.currentTask
          refine .waits (Kernel.SameObjects.sameObject ⟨rfl, rfl, rfl, rfl, rfl⟩ _) empty
            (core.signaledFrom_congr next fun task => ?_)
          by_cases mine : task = current
          · subst mine
            rw [System.view_setFrame_self, views task rfl]
            simp [StepResult.ofProgress, StepResult.goto, Outcome.frame, waitView,
              Kernel.blockTask, Task.beginWait, WaitView.fliesFrom]
          · refine congrArg _ (System.view_congr (System.setFrame_of_ne _ _ mine) ?_)
            exact Function.update_of_ne mine ..
  | @resumes timeout =>
      obtain ⟨_, ⟨rfl, stopped⟩ | ⟨self, rfl, runs, _⟩⟩ := core.active_cases active
      · refine core.tokenMove_still next rfl (.refl _ _) (fun _ own => absurd own (by simp)) ?_
        intro event present
        obtain rfl := List.mem_singleton.mp present
        exact ⟨rfl, rfl, rfl⟩
      · have awake : (system.kernel.tasks self).state ≠ .blocked := by simp [runs.state]
        by_cases signaled : (system.kernel.tasks self).waitResult = .signaled
        · have replied : decide ((system.kernel.tasks (Thread.task self).slot).waitResult =
              .signaled) = true := decide_eq_true signaled
          rw [replied] at next ⊢
          refine .lands runs.running (.refl _ _) (core.mem_signaledFrom.mpr ?_)
            (core.signaledFrom_erase next (fun task different => ?_) ?_) fun _ => id
          · rw [views self rfl]
            simp [waitView, awake, signaled, WaitView.fliesFrom, Call.wait]
          · exact System.view_congr (System.setFrame_of_ne _ _ different) rfl
          · rw [System.view_setFrame_self]
            rfl
        · refine core.tokenMove_still next rfl (.refl _ _) (fun _ own => ?_) ?_
          · obtain rfl := Thread.task.inj own
            rw [views _ rfl]
            simp [StepResult.reply, Outcome.frame, waitView, awake, signaled]
          · simpa [StepResult.reply, Outcome.returns, Thread.slot] using
              .of_failure (by simp [signaled])

/-- What a step of a give does to the tokens. -/
theorem Core.tokenMove_give
    (core : Core system) (active : system.activeThread = some thread)
    (inCall : system.frames thread = .inCall (.semaphoreGive (some ref)) point)
    (stepped : (Call.semaphoreGive (some ref)).step cfg system.cpu system.kernel
      system.memory thread.slot point = some result) :
    TokenMove ref system
      ({ system with
        kernel := result.kernel
        memory := result.memory }.setFrame thread
          (result.outcome.frame (.semaphoreGive (some ref))))
      (observe system thread (.semaphoreGive (some ref)) point result ++
        result.outcome.returns thread (.semaphoreGive (some ref))) := by
  have next := core.advance active inCall stepped
  have quiet : observe system thread (.semaphoreGive (some ref)) point result = [] := rfl
  have views : ∀ self, thread = .task self → system.view self =
      waitView (system.kernel.tasks self) (.inCall (.semaphoreGive (some ref)) point) := by
    rintro self rfl
    rw [System.view, inCall]
  rw [quiet, List.nil_append]
  cases semaphoreGiveStep_cases stepped with
  | refuses =>
      refine core.tokenMove_still next rfl (.refl _ _) (fun self own => ?_) ?_
      · rw [views self own]
        rfl
      · simpa [StepResult.reply, Outcome.returns] using .of_failure (by simp)
  | guards =>
      refine core.tokenMove_still next rfl (.refl _ _) (fun self own => ?_) ?_
      · rw [views self own]
        rfl
      · simp [StepResult.goto, Outcome.returns]
  | @decides maxCount ended outcome =>
      have failed : ended = (system.kernel, false) → TokenMove ref system
          ({ system with
            kernel := ended.1
            memory := system.memory }.setFrame thread .user)
          [.returned thread (.semaphoreGive (some ref)) (.bool ended.2)] := by
        rintro rfl
        refine core.tokenMove_still next rfl (.refl _ _) (fun self own => ?_) ?_
        · rw [views self own]
          rfl
        · simpa using .of_failure (by simp)
      cases outcome with
      | denied => exact failed rfl
      | conflict => exact failed rfl
      | full => exact failed rfl
      | @woken waiter trace running waiter_lt waits highest empty =>
          obtain ⟨self, rfl⟩ := core.task_of_running active running
          have woken : ((system.kernel.wakeTask waiter .signaled trace).requested).tasks waiter =
              (system.kernel.tasks waiter).endWait .signaled (system.kernel.wakeState waiter) :=
            Function.update_self ..
          have others : ∀ task, task ≠ waiter →
              ((system.kernel.wakeTask waiter .signaled trace).requested).tasks task =
                system.kernel.tasks task := fun task different =>
            Function.update_of_ne different ..
          refine .wakes running (Kernel.SameObjects.sameObject ⟨rfl, rfl, rfl, rfl, rfl⟩ _) waits
            ?_ fun task blocked => ?_
          · ext task
            rw [Finset.mem_insert, System.signaledTakers, System.signaledTakers,
              next.mem_signaledFrom, core.mem_signaledFrom]
            by_cases chosen : task = waiter
            · subst chosen
              refine iff_of_true (core.fliesFrom_woken active waits (fun other different => ?_)
                woken (Kernel.wakeState_ne_blocked _ _)) (Or.inl rfl)
              exact System.setFrame_of_ne _ _ different
            · rw [or_iff_right chosen]
              have same : ({ system with
                  kernel := (system.kernel.wakeTask waiter .signaled trace).requested
                  memory := system.memory }.setFrame (.task self) .user).view task =
                  system.view task := by
                by_cases mine : task = self
                · subst mine
                  rw [System.view_setFrame_self, views task rfl]
                  rfl
                · exact System.view_congr (System.setFrame_of_ne _ _ mine) (others task chosen)
              exact Iff.of_eq (congrArg (WaitView.fliesFrom _ _ · = true) same)
          · change Task.waitsOn _ _
              (((system.kernel.wakeTask waiter .signaled trace).requested).tasks task) = true
              at blocked
            by_cases chosen : task = waiter
            · rw [chosen, woken,
                Task.waitsOn_endWait _ (Kernel.wakeState_ne_blocked _ _)] at blocked
              exact absurd blocked Bool.false_ne_true
            · rwa [others task chosen] at blocked
      | stored running unwanted room =>
          obtain ⟨self, rfl⟩ := core.task_of_running active running
          have own : ∀ index, Thread.task self = .task index →
              waitView (system.kernel.tasks index) .user = system.view index := by
            rintro _ ⟨⟩
            rw [views self rfl]
            rfl
          refine .stores running inCall (Kernel.setSemaphoreCount_same ..) room
            (Kernel.setSemaphoreCount_count ..)
            (core.signaledFrom_congr next fun task => ?_) fun task blocked => ?_
          · exact congrArg _
              (System.view_setFrame_still (Kernel.setSemaphoreCount_tasks ..) own task)
          · change Task.waitsOn _ _ ((system.kernel.setSemaphoreCount ref _).tasks task) = true
              at blocked
            rw [Kernel.setSemaphoreCount_tasks] at blocked
            rw [unwanted task (core.registered_of_blocked (Task.waitsOn_iff.mp blocked).1)]
              at blocked
            exact absurd blocked Bool.false_ne_true

/-- An init call that is refused changes nothing, and one that succeeds configures the
semaphore before the scheduler runs. -/
theorem Core.tokenMove_init
    {call : Call} {ended : Kernel × Bool}
    (core : Core system)
    (next : Core ({ system with
      kernel := ended.1
      memory := system.memory }.setFrame thread .user))
    (inCall : system.frames thread = .inCall call .entry)
    (outcome : ended = (system.kernel, false) ∨
      ended.2 = true ∧ TokenMove ref system
        ({ system with
          kernel := ended.1
          memory := system.memory }.setFrame thread .user)
        [.returned thread call (.bool true)]) :
    TokenMove ref system
      ({ system with
        kernel := ended.1
        memory := system.memory }.setFrame thread .user)
      [.returned thread call (.bool ended.2)] := by
  rcases outcome with refused | ⟨accepted, moved⟩
  · subst refused
    refine core.tokenMove_still next rfl (.refl _ _) (fun self own => ?_) ?_
    · subst own
      rw [System.view, inCall]
      rfl
    · simpa using .of_failure (by simp)
  · rw [accepted]
    exact moved

/-- What a step can do to the tokens of a semaphore. -/
theorem Core.tokenMove
    {after : System} {action : Action}
    (core : Core system) (step : system.step cfg action = some (after, events))
    (ref : SemaphoreRef) : TokenMove ref system after events := by
  have next := core.step step
  cases core.objectStep step (.semaphore ref) with
  | untouched same =>
      exact .keeps same.data (core.signaledFrom_congr next fun _ => same.fliesFrom)
        (fun _ => same.waitsOn core next)
        fun event present => .of_silent (same.events event present)
  | @advance thread call point result active inCall mine stepped =>
      rcases Call.semaphore_cases mine with ⟨index, available, rfl, rfl⟩ |
        ⟨index, initialCount, maxCount, rfl, rfl⟩ | ⟨ticks, rfl⟩ | rfl
      · cases point with
        | entry =>
            obtain rfl := Option.some.inj stepped
            refine core.tokenMove_init next inCall ?_
            cases running : system.kernel.running with
            | true => exact Or.inl (by simp [binarySemaphoreInit, running])
            | false =>
                refine Or.inr ⟨by simp [binarySemaphoreInit, running],
                  .configures running ?_ ?_ ?_ ?_ ?_ ?_ (if_pos rfl) (by simp [Event.takes]) rfl⟩
                · simp [binarySemaphoreInit, running, System.setFrame]
                · simp [binarySemaphoreInit, running, System.setFrame,
                    Kernel.semaphoreInitialized]
                · simp [binarySemaphoreInit, running, System.setFrame, Kernel.semaphoreCount]
                · rfl
                · decide
                · cases available <;> decide
        | _ => exact absurd stepped (by simp [Call.step, atomicStep])
      · cases point with
        | entry =>
            obtain rfl := Option.some.inj stepped
            refine core.tokenMove_init next inCall ?_
            by_cases refused : maxCount = 0 ∨ maxCount < initialCount ∨
              system.kernel.running = true
            · exact Or.inl (if_pos refused)
            · have accepted : countingSemaphoreInit system.kernel index initialCount maxCount =
                  _ := if_neg refused
              simp only [not_or, Bool.not_eq_true] at refused
              obtain ⟨positive, bounded, running⟩ := refused
              simp only [Option.elim, accepted]
              refine Or.inr ⟨trivial, .configures running running ?_ ?_ ?_ positive
                (BitVec.not_lt.mp bounded) (if_pos rfl) (by simp [Event.takes]) rfl⟩
              · simp [System.setFrame, Kernel.semaphoreInitialized]
              · simp [System.setFrame, Kernel.semaphoreCount]
              · simp [System.setFrame, Kernel.semaphoreMaxCount]
        | _ => exact absurd stepped (by simp [Call.step, atomicStep])
      · exact core.tokenMove_take active inCall stepped
      · exact core.tokenMove_give active inCall stepped

end Moves

end ForgeKernel
