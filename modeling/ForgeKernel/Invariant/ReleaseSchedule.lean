import ForgeKernel.Invariant.ReleaseBoot
import ForgeKernel.Property.PriorityInheritance
import ForgeKernel.Property.QueueWakeups
import ForgeKernel.Property.SelfCheck

/-!
# The schedule of the release image

Nobody inherits a priority, so a task that runs has every task of a higher
priority blocked.  Below the consumer the queue is empty; below the producer its
last message has been recorded.
-/

namespace ForgeKernel

open Machines

/-- With nothing masked a thread runs only while no switch is pending. -/
theorem System.quiet_of_active
    {system : System} {thread : Thread} (unmasked : system.cpu = .unmasked)
    (active : system.activeThread = some thread) : system.kernel.pendSv = false := by
  by_contra pending
  rw [Bool.not_eq_false] at pending
  unfold System.activeThread System.pendSvDue at active
  rw [unmasked, pending] at active
  simp [Cpu.pendSvMasked, Cpu.unmasked] at active

/-- The task that uses a loop of the demo's queue. -/
def Direction.demoTask : Direction → Nat
  | .send => 0
  | .receive => 1

namespace ReleaseOk

variable {cfg : Config} {image : ReleaseImage cfg} {release : Release} {past : List Event}
  {index other : Nat}

/-- The call that a task is in is the one that its program point makes. -/
theorem request_of_frame
    {call : Call} {point : Point} (ok : ReleaseOk image release)
    (running : release.system.kernel.running = true)
    (frame : release.system.frames (.task index) = .inCall call point) :
    TaskRequest image (release.tasks index) call := by
  cases (ok.deployed running).tasks index with
  | user user =>
      rw [frame] at user
      cases user
  | waits requested _ enduring =>
      obtain ⟨place, entered⟩ := enduring.frame
      obtain ⟨rfl, _⟩ := Frame.inCall.inj (frame.symm.trans entered)
      exact Release.taskRequest requested
  | checks requested entered =>
      obtain ⟨rfl, _⟩ := Frame.inCall.inj (frame.symm.trans entered)
      exact Release.taskRequest requested

/-- A blocked task stands at the point whose wait it performs. -/
theorem request_of_blocked
    (ok : ReleaseOk image release) (core : Core release.system)
    (blocked : (release.system.kernel.tasks index).state = .blocked) :
    ∃ call, TaskRequest image (release.tasks index) call ∧
      call.wait = some ((release.system.kernel.tasks index).waitReason,
        (release.system.kernel.tasks index).waitObject) := by
  obtain ⟨call, point, frame, _, wait⟩ := (core.slots index).suspended blocked
  exact ⟨call, ok.request_of_frame (core.running_of_blocked blocked) frame, wait⟩

/-- Nobody waits for a mutex, so every task has its own priority. -/
theorem priority_eq
    {allowed : System → Action → Prop} (ok : ReleaseOk image release)
    (run : (forge cfg).Run allowed past release.system) (index : Nat) :
    (release.system.kernel.tasks index).priority =
      (release.system.kernel.tasks index).basePriority := by
  rcases ((InheritanceOk.of_run run).isGreatest_direct index).1 with own | ⟨waiter, _, waits, _⟩
  · exact own
  · obtain ⟨mutex, blocked, reason, _⟩ := waits
    obtain ⟨call, asked, wait⟩ := ok.request_of_blocked (Core.of_run run) blocked
    rw [reason] at wait
    generalize release.tasks waiter = point at asked
    cases asked <;> cases wait

/-- While a task runs, the tasks of a higher priority are blocked. -/
theorem blocked_above
    (ok : ReleaseOk image release) (run : (forge cfg).Run createsBeforeStart past release.system)
    (running : release.system.kernel.running = true)
    (active : release.system.activeThread = some (.task index))
    (registered : other < 3)
    (above : (image.config index).priority < (image.config other).priority) :
    (release.system.kernel.tasks other).state = .blocked := by
  have core := Core.of_run run
  have deployed := ok.deployed running
  have runs := core.active_current active
  have live := (core.active_cases active).1
  have priorityOf : ∀ task < 3, (release.system.kernel.tasks task).priority =
      (image.config task).priority := fun task small =>
    (ok.priority_eq run task).trans
      (ok.hosts task (deployed.taskCount.symm ▸ small)).basePriority
  have registeredIn := deployed.taskCount.symm ▸ registered
  have quiet := System.quiet_of_active ok.cpu active
  rcases (Kernel.NoMissed.of_run run running live quiet).current_cases core.control live quiet
    with ⟨idle, _⟩ | ⟨current, present, _, highest⟩
  · exact absurd (idle.symm.trans runs.currentTask) (by simp)
  · obtain rfl : current = index := by simpa using present.symm.trans runs.currentTask
    obtain ⟨valid, unsuspended⟩ := core.states other registeredIn
    cases state : (release.system.kernel.tasks other).state with
    | blocked => rfl
    | invalid => exact absurd state valid
    | suspended => exact absurd state unsuspended
    | created => exact absurd state (Kernel.AllPublished.of_run run running other)
    | running =>
        obtain rfl : other = current := by
          simpa using (core.control.sole other state).symm.trans present
        exact absurd above (lt_irrefl _)
    | ready =>
        have bounded := highest other registeredIn state
        rw [priorityOf other registered,
          priorityOf current (deployed.taskCount ▸ core.current_lt present)] at bounded
        exact absurd above (not_lt.mpr bounded)

/-- Only one task uses each loop of the queue. -/
theorem task_of_signaled
    (ok : ReleaseOk image release) (core : Core release.system)
    (running : release.system.kernel.running = true) {direction : Direction} {task : Nat}
    (signaled : task ∈ release.system.signaledOut direction 0) : task = direction.demoTask := by
  obtain ⟨call, flies, wait⟩ := WaitView.fliesFrom_iff.mp (core.mem_signaledFrom.mp signaled)
  unfold System.view at flies
  cases frame : release.system.frames (.task task) with
  | user =>
      rw [frame] at flies
      cases flies
  | inCall entered point =>
      rw [frame] at flies
      obtain rfl := waitView_flying flies
      have asked := ok.request_of_frame running frame
      have fits := (ok.deployed running).fits task
      generalize release.tasks task = place at asked fits
      cases asked with
      | sends =>
          obtain rfl : direction = .send := by cases direction <;> first | rfl | cases wait
          exact fits
      | receives =>
          obtain rfl : direction = .receive := by cases direction <;> first | rfl | cases wait
          exact fits
      | rests | checks | pauses => cases direction <;> cases wait

/-- A task that is blocked in a loop of the queue finds nothing there. -/
theorem exhausted
    {allowed : System → Action → Prop} (ok : ReleaseOk image release)
    (run : (forge cfg).Run allowed past release.system) {direction : Direction}
    (waits : release.system.BlockedIn direction 0 direction.demoTask) :
    direction.supply (release.system.kernel.queues 0) = 0 := by
  have core := Core.of_run run
  have blocked := (Task.waitsOn_iff.mp waits).1
  have supply := (WakeupsOk.of_run 0 run).matched direction _ waits
  have nobody : release.system.signaledOut direction 0 = ∅ := by
    refine Finset.eq_empty_of_forall_notMem fun task signaled => ?_
    obtain rfl := ok.task_of_signaled core (core.running_of_blocked blocked) signaled
    obtain ⟨call, flies, _⟩ := WaitView.fliesFrom_iff.mp (core.mem_signaledFrom.mp signaled)
    obtain ⟨_, view, _⟩ := (core.slots direction.demoTask).view_of_blocked blocked
    exact absurd (flies.symm.trans view) nofun
  rw [nobody, Finset.card_empty] at supply
  exact Nat.le_zero.mp supply

/-- While another task runs, the consumer is blocked in its receive and the queue is
empty. -/
theorem consumer_waits
    (ok : ReleaseOk image release) (run : (forge cfg).Run createsBeforeStart past release.system)
    (running : release.system.kernel.running = true)
    (active : release.system.activeThread = some (.task index)) (other : index ≠ 1) :
    (∃ expectedSequence, release.tasks 1 = .consumer (.receiving expectedSequence)) ∧
      (release.system.kernel.queues 0).count = 0 := by
  have core := Core.of_run run
  have deployed := ok.deployed running
  have index_lt : index < 3 :=
    deployed.taskCount ▸ core.current_lt (core.active_current active).currentTask
  have blocked : (release.system.kernel.tasks 1).state = .blocked := by
    refine ok.blocked_above run running active (by decide) ?_
    match index with
    | 0 => exact (by decide : 3 < 4)
    | 1 => exact absurd rfl other
    | 2 => exact (by decide : 1 < 4)
  obtain ⟨call, asked, wait⟩ := ok.request_of_blocked core blocked
  have fits := deployed.fits 1
  generalize release.tasks 1 = point at asked fits ⊢
  cases asked with
  | receives expectedSequence =>
      obtain ⟨reason, object⟩ := Prod.mk.inj (Option.some.inj wait)
      have supply := ok.exhausted run (show release.system.BlockedIn .receive 0 1 from
        Task.waitsOn_iff.mpr
          ⟨blocked, reason.symm, (core.slots 1).pending blocked, object.symm⟩)
      exact ⟨⟨expectedSequence, rfl⟩, BitVec.eq_of_toNat_eq supply⟩
  | sends | rests | checks | pauses => cases fits

/-- While the monitor runs, the producer sleeps. -/
theorem producer_rests
    (ok : ReleaseOk image release) (run : (forge cfg).Run createsBeforeStart past release.system)
    (running : release.system.kernel.running = true)
    (active : release.system.activeThread = some (.task 2)) :
    ∃ sequence, release.tasks 0 = .producer (.sleeping sequence) := by
  have core := Core.of_run run
  have deployed := ok.deployed running
  have blocked : (release.system.kernel.tasks 0).state = .blocked :=
    ok.blocked_above run running active (by decide) (by decide : 1 < 3)
  obtain ⟨call, asked, wait⟩ := ok.request_of_blocked core blocked
  have fits := deployed.fits 0
  generalize release.tasks 0 = point at asked fits ⊢
  cases asked with
  | rests sequence => exact ⟨sequence, rfl⟩
  | sends =>
      -- The queue is empty, so a blocked sender would have been signaled.
      obtain ⟨reason, object⟩ := Prod.mk.inj (Option.some.inj wait)
      have supply := ok.exhausted run (show release.system.BlockedIn .send 0 0 from
        Task.waitsOn_iff.mpr
          ⟨blocked, reason.symm, (core.slots 0).pending blocked, object.symm⟩)
      obtain ⟨_, empty⟩ := ok.consumer_waits run running active (by decide)
      simp only [Direction.supply, empty, deployed.queue.capacity] at supply
      exact absurd supply (by decide)
  | receives | checks | pauses => cases fits

end ReleaseOk

end ForgeKernel
