import ForgeKernel.Invariant.Flags

/-!
# An event-flag set is one broadcast

A set judges every waiter by the same snapshot of the bits, completes exactly the
satisfied ones, and clears the union of the masks that asked for it.  None of this
depends on the order in which the registry is visited.
-/

namespace ForgeKernel

open Machines Scans

/-- `fr_event_flags_set` with the registry visited in a given order. -/
def eventFlagsSetOver
    (order : List Nat) (cpu : Cpu) (kernel : Kernel) (index : Nat) (bits : Word) :
    Kernel × Bool :=
  if bits = 0 ∨ eventFlagsEntryAllowed cpu kernel index = false then (kernel, false)
  else
    let flags := kernel.eventFlags index
    let currentBits := flags.bits ||| bits
    let kernel := kernel.setEventFlags index { flags with bits := currentBits }
    let loop := order.foldl (eventFlagsSetStep index currentBits) ⟨kernel, 0, false⟩
    let flags := loop.kernel.eventFlags index
    let kernel := loop.kernel.setEventFlags index
      { flags with bits := flags.bits &&& ~~~loop.clearMask }
    (if loop.taskWoken then schedulerRequestIfNeededLocked kernel else kernel, true)

/-- The source visits the registry from the first slot on. -/
theorem eventFlagsSet_eq_over
    (cpu : Cpu) (kernel : Kernel) (index : Nat) (bits : Word) :
    eventFlagsSet cpu kernel index bits =
      eventFlagsSetOver (List.range kernel.taskCount) cpu kernel index bits := rfl

namespace Kernel

/-- Registered tasks blocked on an event-flags object whose condition holds on a
snapshot of its bits. -/
def satisfiedWaiters (kernel : Kernel) (index : Nat) (snapshot : Word) : Finset Nat :=
  (Finset.range kernel.taskCount).filter fun task =>
    (kernel.tasks task).state = .blocked ∧
      (kernel.tasks task).waitReason = .eventFlags ∧
      (kernel.tasks task).waitObject = some (.eventFlags index) ∧
      eventFlagsConditionMet snapshot (kernel.tasks task).waitFlagsMask
        (kernel.tasks task).waitFlagsAll = true

/-- Union of the masks of those among `tasks` that asked for clear-on-exit. -/
def clearUnion (kernel : Kernel) (tasks : Finset Nat) : Word :=
  (tasks.filter fun task => (kernel.tasks task).waitFlagsClearOnExit = true).fold
    (· ||| ·) 0 fun task => (kernel.tasks task).waitFlagsMask

/-- The control block of a waiter completed at a snapshot. -/
def completedAt (kernel : Kernel) (snapshot : Word) (task : Nat) : Task :=
  { (kernel.tasks task).endWait .signaled (kernel.wakeState task) with
    waitFlagsResult := snapshot &&& (kernel.tasks task).waitFlagsMask }

end Kernel

/-- What the broadcast loop has done after visiting some positions. -/
structure Broadcasted
    (kernel : Kernel) (index : Nat) (snapshot : Word) (visited : Finset Nat)
    (loop : Broadcast) : Prop where
  kernel_eq : loop.kernel =
    { kernel with
      tasks := loop.kernel.tasks
      trace := loop.kernel.trace }
  tasks : ∀ task, loop.kernel.tasks task =
    if task ∈ visited ∧ (kernel.tasks task).satisfiedBy index snapshot then
      kernel.completedAt snapshot task
    else kernel.tasks task
  clearMask : loop.clearMask = kernel.clearUnion
    (visited.filter fun task => (kernel.tasks task).satisfiedBy index snapshot)

theorem Broadcasted.start (kernel : Kernel) (index : Nat) (snapshot : Word) :
    Broadcasted kernel index snapshot ∅ ⟨kernel, 0, false⟩ where
  kernel_eq := rfl
  tasks task := by simp
  clearMask := by simp [Kernel.clearUnion]

/-- A completed waiter adds its mask to the union if it asked for it. -/
theorem Kernel.clearUnion_insert
    (kernel : Kernel) {tasks : Finset Nat} {task : Nat} (fresh : task ∉ tasks) :
    kernel.clearUnion (insert task tasks) =
      if (kernel.tasks task).waitFlagsClearOnExit then
        kernel.clearUnion tasks ||| (kernel.tasks task).waitFlagsMask
      else kernel.clearUnion tasks := by
  unfold clearUnion
  rw [Finset.filter_insert]
  split
  · have absent : task ∉ tasks.filter fun other =>
        (kernel.tasks other).waitFlagsClearOnExit = true := by
      simp [fresh]
    rw [Finset.fold_insert absent, BitVec.or_comm]
  · rfl

theorem Broadcasted.step
    {kernel : Kernel} {index : Nat} {snapshot : Word} {visited : Finset Nat}
    {loop : Broadcast} {position : Nat}
    (reached : Broadcasted kernel index snapshot visited loop)
    (fresh : position ∉ visited) :
    Broadcasted kernel index snapshot (insert position visited)
      (eventFlagsSetStep index snapshot loop position) := by
  have unvisited : loop.kernel.tasks position = kernel.tasks position := by
    rw [reached.tasks, if_neg (fun chosen => fresh chosen.1)]
  rcases eventFlagsSetStep_cases index snapshot loop position
    with ⟨unsatisfied, same⟩ | ⟨satisfied, trace, woken⟩
  · rw [unvisited] at unsatisfied
    rw [same]
    refine ⟨reached.kernel_eq, ?_, ?_⟩
    · intro task
      rw [reached.tasks]
      by_cases last : task = position
      · subst last
        simp [unsatisfied]
      · simp [last]
    · rw [reached.clearMask, Finset.filter_insert, if_neg (by simp [unsatisfied])]
  · rw [unvisited] at satisfied woken
    rw [woken]
    have state : loop.kernel.wakeState position = kernel.wakeState position := by
      rw [reached.kernel_eq]
      rfl
    refine ⟨?_, ?_, ?_⟩
    · dsimp only
      rw [reached.kernel_eq]
    · intro task
      dsimp only
      by_cases last : task = position
      · subst last
        rw [Function.update_self, if_pos ⟨Finset.mem_insert_self _ _, satisfied⟩, state]
        rfl
      · rw [Function.update_of_ne last, reached.tasks]
        simp [last]
    · have absent : position ∉
          visited.filter fun task => (kernel.tasks task).satisfiedBy index snapshot := by
        simp [fresh]
      dsimp only
      rw [reached.clearMask, Finset.filter_insert, if_pos satisfied,
        Kernel.clearUnion_insert _ absent]

/-- The loop over any order of the registry. -/
theorem Broadcasted.of_order
    (kernel : Kernel) (index : Nat) (snapshot : Word) {order : List Nat}
    (permuted : order.Perm (List.range kernel.taskCount)) :
    Broadcasted kernel index snapshot (Finset.range kernel.taskCount)
      (order.foldl (eventFlagsSetStep index snapshot) ⟨kernel, 0, false⟩) := by
  have distinct : order.Nodup := permuted.nodup_iff.mpr List.nodup_range
  have visited : order.toFinset = Finset.range kernel.taskCount := by
    ext task
    simp [permuted.mem_iff]
  have reached := foldl_nodup_invariant
    (motive := fun visited loop => Broadcasted kernel index snapshot visited loop)
    order ⟨kernel, 0, false⟩ distinct (.start kernel index snapshot)
    (fun _ _ _ _ fresh reached => reached.step fresh)
  rwa [visited] at reached

/-- A set that is not refused, whatever the order: each satisfied waiter is completed,
nothing else happens to a task, and the union of masks is cleared. -/
theorem eventFlagsSetOver_eq
    {cpu : Cpu} {kernel after : Kernel} {index : Nat} {bits : Word} {order : List Nat}
    (permuted : order.Perm (List.range kernel.taskCount))
    (entered : ¬(bits = 0 ∨ eventFlagsEntryAllowed cpu kernel index = false))
    (set : eventFlagsSetOver order cpu kernel index bits = (after, true)) :
    let snapshot := (kernel.eventFlags index).bits ||| bits
    (∀ task, after.tasks task =
      if task < kernel.taskCount ∧ (kernel.tasks task).satisfiedBy index snapshot then
        kernel.completedAt snapshot task
      else kernel.tasks task) ∧
    after.eventFlags = Function.update kernel.eventFlags index
      { kernel.eventFlags index with
        bits := snapshot &&& ~~~kernel.clearUnion
          ((Finset.range kernel.taskCount).filter fun task =>
            (kernel.tasks task).satisfiedBy index snapshot) } := by
  intro snapshot
  have reached := Broadcasted.of_order
    (kernel.setEventFlags index { kernel.eventFlags index with bits := snapshot })
    index snapshot permuted
  rw [eventFlagsSetOver, if_neg entered] at set
  dsimp only at set
  generalize order.foldl (eventFlagsSetStep index snapshot)
    ⟨kernel.setEventFlags index { kernel.eventFlags index with bits := snapshot }, 0, false⟩ =
      loop at set reached
  have stored : loop.kernel.eventFlags = Function.update kernel.eventFlags index
      { kernel.eventFlags index with bits := snapshot } := by
    rw [reached.kernel_eq]
    rfl
  obtain ⟨rfl, -⟩ := Prod.mk.inj set
  rw [schedulerRequestIfNeededLocked_eq]
  have tasks : ∀ task, loop.kernel.tasks task =
      if task < kernel.taskCount ∧ (kernel.tasks task).satisfiedBy index snapshot then
        kernel.completedAt snapshot task
      else kernel.tasks task := by
    intro task
    rw [reached.tasks]
    simp only [Finset.mem_range]
    rfl
  have flags : Function.update loop.kernel.eventFlags index
      { loop.kernel.eventFlags index with
        bits := (loop.kernel.eventFlags index).bits &&& ~~~loop.clearMask } =
      Function.update kernel.eventFlags index
        { kernel.eventFlags index with
          bits := snapshot &&& ~~~kernel.clearUnion
            ((Finset.range kernel.taskCount).filter fun task =>
              (kernel.tasks task).satisfiedBy index snapshot) } := by
    rw [stored, Function.update_self, Function.update_idem, reached.clearMask]
    rfl
  split
  · exact ⟨tasks, flags⟩
  · exact ⟨tasks, flags⟩

/-- In a reachable state a waiter is satisfied as soon as its condition holds: its
result is pending and its mask is not empty. -/
theorem FlagsOk.satisfiedBy_iff
    {index : Nat} {system : System} (ok : FlagsOk index system) (core : Core system)
    (snapshot : Word) (task : Nat) :
    (task < system.kernel.taskCount ∧
      (system.kernel.tasks task).satisfiedBy index snapshot = true) ↔
      task ∈ system.kernel.satisfiedWaiters index snapshot := by
  simp only [Kernel.satisfiedWaiters, Finset.mem_filter, Finset.mem_range, Task.satisfiedBy,
    Bool.and_eq_true, Task.waitsOn_iff, decide_eq_true_eq]
  constructor
  · rintro ⟨registered, ⟨⟨blocked, reason, -, object⟩, -⟩, met⟩
    exact ⟨registered, blocked, reason, object, met⟩
  · rintro ⟨registered, blocked, reason, object, met⟩
    exact ⟨registered,
      ⟨⟨blocked, reason, (core.slots task).pending blocked, object⟩,
        (ok.unmet core blocked reason object).1⟩, met⟩

/-- A successful `fr_event_flags_set` in a reachable state is one broadcast: it makes
runnable with SIGNALED exactly the tasks blocked on the object whose condition holds on
the snapshot, hands each the snapshot under its mask, leaves every other task as it is,
clears the union of the masks of the woken clear-on-exit waiters, and does the same in
every order of the registry. -/
theorem event_flags_set_broadcasts
    {cfg : Config} {events : List Event} {system : System} {cpu : Cpu} {index : Nat}
    {bits : Word} {after : Kernel}
    (run : Run cfg events system)
    (set : eventFlagsSet cpu system.kernel index bits = (after, true)) :
    let kernel := system.kernel
    let snapshot := (kernel.eventFlags index).bits ||| bits
    let woken := kernel.satisfiedWaiters index snapshot
    (∀ task ∈ woken,
      ((after.tasks task).state = .ready ∨ (after.tasks task).state = .running) ∧
      (after.tasks task).waitResult = .signaled ∧
      (after.tasks task).waitFlagsResult =
        snapshot &&& (kernel.tasks task).waitFlagsMask) ∧
    (∀ task, task ∉ woken → after.tasks task = kernel.tasks task) ∧
    (after.eventFlags index).bits = snapshot &&& ~~~kernel.clearUnion woken ∧
    (∀ order, order.Perm (List.range kernel.taskCount) →
      ∃ other, eventFlagsSetOver order cpu kernel index bits = (other, true) ∧
        other.tasks = after.tasks ∧ other.eventFlags = after.eventFlags) := by
  intro kernel snapshot woken
  have ok : FlagsOk index system := .of_run index run
  have satisfied := ok.satisfiedBy_iff (Core.of_run run) snapshot
  have entered : ¬(bits = 0 ∨ eventFlagsEntryAllowed cpu kernel index = false) := by
    intro refused
    rw [eventFlagsSet, if_pos refused] at set
    exact absurd (congrArg Prod.snd set) Bool.false_ne_true
  rw [eventFlagsSet_eq_over] at set
  obtain ⟨tasks, flags⟩ := eventFlagsSetOver_eq (List.Perm.refl _) entered set
  refine ⟨?_, ?_, ?_, ?_⟩
  · intro task member
    rw [tasks task, if_pos ((satisfied task).mpr member)]
    exact ⟨(kernel.wakeState_eq task).symm, rfl, rfl⟩
  · intro task outside
    rw [tasks task, if_neg (fun chosen => outside ((satisfied task).mp chosen))]
  · have same : (Finset.range kernel.taskCount).filter (fun task =>
        (kernel.tasks task).satisfiedBy index snapshot = true) = woken := by
      ext task
      rw [Finset.mem_filter, Finset.mem_range]
      exact satisfied task
    rw [flags, Function.update_self]
    exact congrArg (fun waiters => snapshot &&& ~~~kernel.clearUnion waiters) same
  · intro order permuted
    have accepted : ∃ other, eventFlagsSetOver order cpu kernel index bits = (other, true) := by
      rw [eventFlagsSetOver, if_neg entered]
      exact ⟨_, rfl⟩
    obtain ⟨other, scanned⟩ := accepted
    obtain ⟨otherTasks, otherFlags⟩ := eventFlagsSetOver_eq permuted entered scanned
    refine ⟨other, scanned, ?_, ?_⟩
    · funext task
      rw [otherTasks, tasks]
    · rw [otherFlags, flags]

/-- Two tasks wait for overlapping bits, one of them with clear-on-exit. -/
def overlappingWaits : List Action :=
  Action.bootProgram [.eventFlagsInit (some 0)] [3, 2, 1] ++
    ([.invoke (.eventFlagsWait (some 0) ⟨3, false, true⟩ 9 true), .advance, .advance,
       .switchFrom 0,
       .invoke (.eventFlagsWait (some 0) ⟨1, true, false⟩ 9 true), .advance, .advance,
       .switchFrom 1] : List Action)

/-- One bit completes both waits and is cleared afterwards. -/
theorem one_bit_wakes_both :
    ∃ events system after, Run Config.default events system ∧
      eventFlagsSet .unmasked system.kernel 0 1 = (after, true) ∧
      (after.tasks 0).waitFlagsResult = 1 ∧ (after.tasks 1).waitResult = .signaled ∧
      (after.eventFlags 0).bits = 0 := by
  obtain ⟨events, system, run, checked⟩ :=
    Machine.RunFrom.exists_of_execFrom (forge Config.default) Machine.anyStep System.boot
      overlappingWaits
      (fun _ system => (eventFlagsSet .unmasked system.kernel 0 1).2 &&
        decide ((system.kernel.eventFlags 0).bits = 0) &&
        decide (0 ∈ system.kernel.satisfiedWaiters 0 1) &&
        decide (1 ∈ system.kernel.satisfiedWaiters 0 1) &&
        decide ((system.kernel.tasks 0).waitFlagsMask = 3) &&
        decide (system.kernel.clearUnion (system.kernel.satisfiedWaiters 0 1) = 3))
      (by decide +kernel)
  simp only [Bool.and_eq_true, decide_eq_true_eq] at checked
  obtain ⟨⟨⟨⟨⟨succeeds, bits⟩, first⟩, second⟩, mask⟩, union⟩ := checked
  have set : eventFlagsSet .unmasked system.kernel 0 1 =
      ((eventFlagsSet .unmasked system.kernel 0 1).1, true) := by
    rw [← succeeds]
  have broadcast := event_flags_set_broadcasts run set
  have snapshot : (system.kernel.eventFlags 0).bits ||| 1 = 1 := by
    rw [bits]
    decide
  simp only [snapshot] at broadcast
  refine ⟨events, system, _, run, set, ?_, (broadcast.1 1 second).2.1, ?_⟩
  · rw [(broadcast.1 0 first).2.2, mask]
    decide
  · rw [broadcast.2.2.1, union]
    decide

end ForgeKernel
