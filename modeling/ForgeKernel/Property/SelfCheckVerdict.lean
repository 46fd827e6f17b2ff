import ForgeKernel.Property.SelfCheck
import Mathlib.Data.Finset.Card

/-!
# What the self-check decides

The verdict of `fr_kernel_check_invariants` in every kernel state, corrupted ones
included.  Each bit of the violation mask is set exactly when its condition fails
somewhere in the scanned registry, the counters count, the first bad task is the
first one in registry order, and the check succeeds exactly on the kernels that
satisfy an independent statement of the scheduler's data invariants.
-/

namespace ForgeKernel

open Scans

/-! ## The conditions -/

/-- Wait fields that a blocked task may have, or none of them outside a wait. -/
structure Task.WaitOk (task : Task) : Prop where
  free : task.state ≠ .blocked → task.WaitCleared
  reason : task.state = .blocked → task.waitReason ≠ .none ∧ task.waitResult = .pending
  object : task.state = .blocked → (task.waitObject = none ↔ task.waitReason = .sleep)
  flagged : task.state = .blocked → task.waitReason = .eventFlags → task.waitFlagsMask ≠ 0
  unflagged : task.state = .blocked → task.waitReason ≠ .eventFlags →
    task.waitFlagsMask = 0 ∧ task.waitFlagsAll = false ∧ task.waitFlagsClearOnExit = false

/-- A saved stack pointer inside the stack of its task. -/
structure Task.SavedSpOk (task : Task) : Prop where
  nonzero : 0 < task.savedSp.toNat
  above : task.stackBase.toNat ≤ task.savedSp.toNat
  below : task.savedSp.toNat ≤ task.stackTop.toNat
  aligned : task.savedSp.toNat % 8 = 0

/-- Conditions of a slot that fail. -/
def Kernel.Alarms (cfg : Config) (kernel : Kernel) (index : Nat) : Violation → Prop
  | .taskId => (kernel.tasks index).id ≠ index + 1
  | .taskPriority =>
      ¬((kernel.tasks index).basePriority ≤ (kernel.tasks index).priority ∧
        (kernel.tasks index).priority ≤ cfg.maxTaskPriority)
  | .taskState => (kernel.tasks index).state = .invalid ∨
      ((kernel.tasks index).state = .created ∧ kernel.running = true)
  | .stackGeometry => ¬(kernel.tasks index).StackOk cfg
  | .savedSp => (kernel.tasks index).StackOk cfg ∧ ¬(kernel.tasks index).SavedSpOk
  | .waitState => ¬(kernel.tasks index).WaitOk
  | .taskCount | .taskPointer | .runningCount | .currentTask => False

/-- Slots that the check visits. -/
def Kernel.scanCount (cfg : Config) (kernel : Kernel) : Nat :=
  min kernel.taskCount cfg.maxTasks

/-- The current task is the one that runs, and no user task runs when it is null or idle. -/
def Kernel.CurrentOk (kernel : Kernel) (count : Nat) : Prop :=
  match kernel.running, schedulerCurrentTask kernel with
  | true, some current =>
      current < count ∧
        ∀ index < count, (kernel.tasks index).state = .running ↔ index = current
  | true, none => ∀ index < count, (kernel.tasks index).state ≠ .running
  | false, current => current = none

/-- Conditions that fail somewhere in the kernel. -/
def Kernel.Violates (cfg : Config) (kernel : Kernel) : Violation → Prop
  | .taskCount => cfg.maxTasks < kernel.taskCount
  | .taskPointer => False
  | .runningCount => ∃ first < kernel.scanCount cfg, ∃ second < kernel.scanCount cfg,
      first ≠ second ∧ (kernel.tasks first).state = .running ∧
        (kernel.tasks second).state = .running
  | .currentTask => ¬kernel.CurrentOk (kernel.scanCount cfg)
  | violation => ∃ index < kernel.scanCount cfg, kernel.Alarms cfg index violation

/-- Kernel data in order. -/
structure Kernel.Sound (cfg : Config) (kernel : Kernel) : Prop where
  capacity : kernel.taskCount ≤ cfg.maxTasks
  ids : ∀ index < kernel.taskCount, (kernel.tasks index).id = index + 1
  priorities : ∀ index < kernel.taskCount,
    (kernel.tasks index).basePriority ≤ (kernel.tasks index).priority ∧
      (kernel.tasks index).priority ≤ cfg.maxTaskPriority
  states : ∀ index < kernel.taskCount, (kernel.tasks index).state ≠ .invalid ∧
    (kernel.running = true → (kernel.tasks index).state ≠ .created)
  geometry : ∀ index < kernel.taskCount,
    (kernel.tasks index).StackOk cfg ∧ (kernel.tasks index).SavedSpOk
  waits : ∀ index < kernel.taskCount, (kernel.tasks index).WaitOk
  sole : ∀ first < kernel.taskCount, ∀ second < kernel.taskCount,
    (kernel.tasks first).state = .running → (kernel.tasks second).state = .running →
      first = second
  current : kernel.CurrentOk kernel.taskCount

/-! ## The tests decide the conditions -/

/-- `fr_kernel_stack_geometry_valid` decides the geometry of a stack. -/
theorem kernelStackGeometryValid_iff {cfg : Config} {task : Task} :
    kernelStackGeometryValid cfg task = true ↔ task.StackOk cfg := by
  refine ⟨fun valid => ?_, kernelStackGeometryValid_of_ok⟩
  unfold kernelStackGeometryValid at valid
  split at valid
  · cases valid
  · rename_i present
    split at valid
    · cases valid
    · rename_i small
      dsimp only at valid
      split at valid
      · cases valid
      · rename_i placed
        rw [decide_eq_true_eq] at valid
        simp only [not_or, BitVec.not_lt, Nat.not_lt, ne_eq, not_not] at present small placed
        obtain ⟨base, top, enough, even⟩ := present
        obtain ⟨aligned, -, fits⟩ := placed
        rw [show 0xFFFFFFFF#32 / 4 = 0x3FFFFFFF#32 by decide, BitVec.le_def] at small
        change task.stackSizeWords.toNat ≤ 0x3FFFFFFF at small
        have bytes : (task.stackSizeWords * 4).toNat = 4 * task.stackSizeWords.toNat := by
          rw [BitVec.toNat_mul]
          change task.stackSizeWords.toNat * 4 % 2 ^ 32 = _
          omega
        have room : task.stackBase.toNat + 4 * task.stackSizeWords.toNat < 2 ^ 32 := by
          rw [BitVec.le_def, BitVec.toNat_sub_of_le, bytes] at fits
          · change task.stackBase.toNat ≤ 0xFFFFFFFF - _ at fits
            omega
          · rw [BitVec.le_def, bytes]
            change _ ≤ 0xFFFFFFFF
            omega
        refine ⟨Nat.pos_of_ne_zero fun zero => base (BitVec.toNat_eq.mpr zero), enough,
          (Word.even_iff _).mp even, (Word.aligned_iff _).mp aligned, ?_⟩
        rw [valid, BitVec.toNat_add, bytes]
        exact Nat.mod_eq_of_lt room

/-- `fr_kernel_saved_sp_valid` decides whether the saved stack pointer is in place. -/
theorem kernelSavedSpValid_iff {task : Task} :
    kernelSavedSpValid task = true ↔ task.SavedSpOk := by
  unfold kernelSavedSpValid
  rw [decide_eq_true_eq, BitVec.le_def, BitVec.le_def, Word.aligned_iff]
  constructor
  · rintro ⟨present, above, below, aligned⟩
    exact ⟨Nat.pos_of_ne_zero fun zero => present (BitVec.toNat_eq.mpr zero), above, below,
      aligned⟩
  · rintro ⟨nonzero, above, below, aligned⟩
    exact ⟨fun zero => absurd (congrArg BitVec.toNat zero) nonzero.ne', above, below, aligned⟩

theorem WaitReason.usesObject_iff (reason : WaitReason) :
    reason.usesObject = true ↔ reason ≠ .none ∧ reason ≠ .sleep := by
  cases reason <;> simp [WaitReason.usesObject]

/-- `fr_kernel_wait_state_valid` decides whether the wait fields agree with the state. -/
theorem kernelWaitStateValid_iff {task : Task} :
    kernelWaitStateValid task = true ↔ task.WaitOk := by
  unfold kernelWaitStateValid
  by_cases blocked : task.state = .blocked
  · rw [if_pos blocked]
    constructor
    · intro valid
      split at valid
      · cases valid
      · rename_i waits
        simp only [not_or, not_not] at waits
        split at valid
        · cases valid
        · rename_i sleeps
          split at valid
          · cases valid
          · rename_i names
            split at valid
            · cases valid
            · rename_i uses
              refine ⟨fun free => absurd blocked free, fun _ => ⟨waits.1, waits.2⟩,
                fun _ => ⟨fun missing => ?_, fun asleep => ?_⟩, fun _ flagged => ?_,
                fun _ other => ?_⟩
              · by_contra awake
                exact names ⟨awake, (WaitReason.usesObject_iff _).mpr ⟨waits.1, awake⟩, missing⟩
              · by_contra present
                exact sleeps ⟨asleep, present⟩
              · rw [if_pos flagged, decide_eq_true_eq] at valid
                exact valid
              · rw [if_neg other, decide_eq_true_eq] at valid
                exact valid
    · intro ok
      obtain ⟨named, pending⟩ := ok.reason blocked
      have object := ok.object blocked
      have uses := WaitReason.usesObject_iff task.waitReason
      rw [if_neg (by simp [named, pending]), if_neg fun both => both.2 (object.mpr both.1),
        if_neg fun all => all.1 (object.mp all.2.2), if_neg]
      · split
        · rename_i flagged
          exact decide_eq_true (ok.flagged blocked flagged)
        · rename_i other
          exact decide_eq_true (ok.unflagged blocked other)
      · rintro ⟨awake, unused⟩
        rw [uses.mpr ⟨named, awake⟩] at unused
        cases unused
  · rw [if_neg blocked, decide_eq_true_eq]
    constructor
    · rintro ⟨reason, object, hasDeadline, deadline, mask, all, clear⟩
      exact ⟨fun _ => ⟨reason, object, hasDeadline, deadline, mask, all, clear⟩,
        fun waits => absurd waits blocked, fun waits => absurd waits blocked,
        fun waits => absurd waits blocked, fun waits => absurd waits blocked⟩
    · intro ok
      obtain ⟨reason, object, hasDeadline, deadline, mask, all, clear⟩ := ok.free blocked
      exact ⟨reason, object, hasDeadline, deadline, mask, all, clear⟩

/-! ## Notes in a report -/

/-- Position of a violation in the mask. -/
def Violation.index : Violation → Nat
  | .taskCount => 0
  | .taskPointer => 1
  | .taskId => 2
  | .taskPriority => 3
  | .taskState => 4
  | .stackGeometry => 5
  | .savedSp => 6
  | .waitState => 7
  | .runningCount => 8
  | .currentTask => 9

/-- The mask of a report has the bit of a violation. -/
def InvariantReport.Notes (report : InvariantReport) (violation : Violation) : Prop :=
  report.violationMask &&& violation.bit ≠ 0

/-- Tasks that a report counts in a state. -/
def InvariantReport.tasksIn (report : InvariantReport) : TaskState → Nat
  | .created => report.createdTasks
  | .ready => report.readyTasks
  | .running => report.runningTasks
  | .blocked => report.blockedTasks
  | .suspended => report.suspendedTasks
  | .invalid => 0

theorem Violation.index_lt (violation : Violation) : violation.index < 32 := by
  cases violation <;> decide

theorem Violation.bit_eq (violation : Violation) :
    violation.bit = BitVec.twoPow 32 violation.index := by
  cases violation <;> rfl

/-- Violations have distinct bits. -/
theorem Violation.index_injective {first second : Violation}
    (same : first.index = second.index) : first = second := by
  cases first <;> cases second <;> first | rfl | exact absurd same (by decide)

theorem InvariantReport.notes_iff {report : InvariantReport} {violation : Violation} :
    report.Notes violation ↔ report.violationMask.getLsbD violation.index = true := by
  unfold InvariantReport.Notes
  rw [violation.bit_eq, BitVec.and_twoPow]
  split
  · rename_i present
    refine iff_of_true (fun zero => ?_) present
    have bit := congrArg (fun word : Word => word.getLsbD violation.index) zero
    simp [violation.index_lt] at bit
  · rename_i absent
    exact iff_of_false (fun nonzero => nonzero rfl) absent

@[simp] theorem kernelNoteViolation_tasksIn
    (report : InvariantReport) (violation : Violation) (taskId : Nat) (state : TaskState) :
    (kernelNoteViolation report violation taskId).tasksIn state = report.tasksIn state := by
  cases state <;> rfl

@[simp] theorem InvariantReport.noteIf_tasksIn
    (report : InvariantReport) (condition : Prop) [Decidable condition]
    (violation : Violation) (taskId : Nat) (state : TaskState) :
    (report.noteIf condition violation taskId).tasksIn state = report.tasksIn state := by
  unfold InvariantReport.noteIf
  split
  · exact kernelNoteViolation_tasksIn report violation taskId state
  · rfl

@[simp] theorem InvariantReport.noteIf_currentTaskId
    (report : InvariantReport) (condition : Prop) [Decidable condition]
    (violation : Violation) (taskId : Nat) :
    (report.noteIf condition violation taskId).currentTaskId = report.currentTaskId := by
  unfold InvariantReport.noteIf
  split <;> rfl

/-- What a stage of the check does to the mask and to the first bad task: it notes `alarms`
against `taskId`. -/
structure Noted (taskId : Nat) (alarms : Violation → Prop) (before after : InvariantReport) :
    Prop where
  notes : ∀ violation, after.Notes violation ↔ before.Notes violation ∨ alarms violation
  mask : after.violationMask = 0 ↔ before.violationMask = 0 ∧ ∀ violation, ¬alarms violation
  first : (∃ violation, alarms violation) → after.firstBadTaskId =
    if before.firstBadTaskId = kernelInvariantNoTaskId then taskId else before.firstBadTaskId
  firstKept : (∀ violation, ¬alarms violation) → after.firstBadTaskId = before.firstBadTaskId
  taskCount : after.taskCount = before.taskCount
  schedulerRunning : after.schedulerRunning = before.schedulerRunning

/-- A stage that only counts. -/
theorem Noted.silent
    {taskId : Nat} {before after : InvariantReport}
    (mask : after.violationMask = before.violationMask)
    (first : after.firstBadTaskId = before.firstBadTaskId)
    (taskCount : after.taskCount = before.taskCount)
    (schedulerRunning : after.schedulerRunning = before.schedulerRunning) :
    Noted taskId (fun _ => False) before after where
  notes violation := by rw [or_false, InvariantReport.Notes, mask, InvariantReport.Notes]
  mask := by simp [mask]
  first alarmed := alarmed.choose_spec.elim
  firstKept _ := first
  taskCount := taskCount
  schedulerRunning := schedulerRunning

/-- Noting a violation sets its bit and keeps the first one that was noted. -/
theorem Noted.note (report : InvariantReport) (violation : Violation) (taskId : Nat) :
    Noted taskId (· = violation) report (kernelNoteViolation report violation taskId) where
  notes other := by
    rw [InvariantReport.notes_iff, InvariantReport.notes_iff]
    unfold kernelNoteViolation
    rw [BitVec.getLsbD_or, violation.bit_eq, BitVec.getLsbD_twoPow, Bool.or_eq_true,
      Bool.and_eq_true, decide_eq_true_eq, decide_eq_true_eq]
    refine or_congr_right ⟨fun same => ?_, fun same => ?_⟩
    · exact (Violation.index_injective same.2).symm
    · exact ⟨violation.index_lt, congrArg Violation.index same.symm⟩
  mask := by
    refine iff_of_false (fun zero => ?_) fun clean => clean.2 violation rfl
    have bit := congrArg (fun word : Word => word.getLsbD violation.index) zero
    simp [kernelNoteViolation, violation.bit_eq, violation.index_lt] at bit
  first _ := rfl
  firstKept silent := absurd rfl (silent violation)
  taskCount := rfl
  schedulerRunning := rfl

theorem Noted.noteIf
    (report : InvariantReport) (condition : Prop) [Decidable condition]
    (violation : Violation) (taskId : Nat) :
    Noted taskId (fun other => condition ∧ other = violation) report
      (report.noteIf condition violation taskId) := by
  unfold InvariantReport.noteIf
  split
  · rename_i holds
    simpa only [holds, true_and] using Noted.note report violation taskId
  · rename_i fails
    constructor <;> simp [fails]

/-- Stages that blame the same task compose. -/
theorem Noted.trans
    {taskId : Nat} {early late : Violation → Prop} {first second third : InvariantReport}
    (left : Noted taskId early first second) (right : Noted taskId late second third) :
    Noted taskId (fun violation => early violation ∨ late violation) first third where
  notes violation := by rw [right.notes, left.notes, or_assoc]
  mask := by
    rw [right.mask, left.mask, and_assoc]
    simp only [not_or, forall_and]
  first alarmed := by
    by_cases started : ∃ violation, early violation
    · by_cases ended : ∃ violation, late violation
      · rw [right.first ended, left.first started]
        by_cases blank : first.firstBadTaskId = kernelInvariantNoTaskId
        · rw [if_pos blank]
          exact ite_self taskId
        · rw [if_neg blank, if_neg blank]
      · rw [right.firstKept (not_exists.mp ended), left.first started]
    · have ended : ∃ violation, late violation := by
        obtain ⟨violation, alarm⟩ := alarmed
        exact ⟨violation, alarm.resolve_left fun alarm => started ⟨violation, alarm⟩⟩
      rw [right.first ended, left.firstKept (not_exists.mp started)]
  firstKept silent := by
    rw [right.firstKept fun violation alarm => silent violation (Or.inr alarm),
      left.firstKept fun violation alarm => silent violation (Or.inl alarm)]
  taskCount := right.taskCount.trans left.taskCount
  schedulerRunning := right.schedulerRunning.trans left.schedulerRunning

theorem Noted.congr
    {taskId : Nat} {alarms other : Violation → Prop} {before after : InvariantReport}
    (noted : Noted taskId alarms before after)
    (same : ∀ violation, alarms violation ↔ other violation) :
    Noted taskId other before after := by
  have equal : alarms = other := funext fun violation => propext (same violation)
  exact equal ▸ noted

/-! ## The scan -/

/-- Tasks among the first `count` slots that are in a state. -/
def Kernel.tally (kernel : Kernel) (state : TaskState) (count : Nat) : Nat :=
  ((Finset.range count).filter fun index => (kernel.tasks index).state = state).card

/-- The count of one state over one more slot. -/
theorem Kernel.tally_succ (kernel : Kernel) (state : TaskState) (count : Nat) :
    kernel.tally state (count + 1) =
      kernel.tally state count + if (kernel.tasks count).state = state then 1 else 0 := by
  unfold Kernel.tally
  rw [Finset.range_add_one, Finset.filter_insert]
  split
  · rw [Finset.card_insert_of_notMem (by simp)]
  · rfl

/-- Alarms of the checks that precede the `switch` over the state. -/
theorem Noted.checkTask
    (cfg : Config) (kernel : Kernel) (index : Nat) (report : InvariantReport) :
    Noted (kernel.tasks index).id
      (fun violation => violation ≠ .taskState ∧ kernel.Alarms cfg index violation)
      report (kernelCheckTask cfg (kernel.tasks index) (index + 1) report) := by
  have placed : ∀ before : InvariantReport, Noted (kernel.tasks index).id
      (fun violation =>
        (violation = .stackGeometry ∨ violation = .savedSp) ∧ kernel.Alarms cfg index violation)
      before (if kernelStackGeometryValid cfg (kernel.tasks index) = false then
        kernelNoteViolation before .stackGeometry (kernel.tasks index).id
      else before.noteIf (kernelSavedSpValid (kernel.tasks index) = false) .savedSp
        (kernel.tasks index).id) := by
    intro before
    split
    · rename_i misplaced
      have bad := mt kernelStackGeometryValid_iff.mpr (Bool.eq_false_iff.mp misplaced)
      refine (Noted.note before .stackGeometry _).congr fun violation => ?_
      cases violation <;> simp [Kernel.Alarms, bad]
    · rename_i inPlace
      have good := kernelStackGeometryValid_iff.mp (Bool.not_eq_false _ ▸ inPlace)
      refine (Noted.noteIf before _ .savedSp _).congr fun violation => ?_
      rw [← Bool.not_eq_true, kernelSavedSpValid_iff]
      cases violation <;> simp [Kernel.Alarms, good]
  unfold kernelCheckTask
  refine ((((Noted.noteIf _ _ _ _).trans (Noted.noteIf _ _ _ _)).trans (placed _)).trans
    (Noted.noteIf _ _ _ _)).congr fun violation => ?_
  rw [← Bool.not_eq_true (kernelWaitStateValid _), kernelWaitStateValid_iff]
  cases violation <;> simp [Kernel.Alarms]
  omega

/-- The `switch` counts the task and notes a state that it should not have. -/
theorem Noted.countState
    (cfg : Config) (kernel : Kernel) (index : Nat) (report : InvariantReport) :
    Noted (kernel.tasks index).id
      (fun violation => violation = .taskState ∧ kernel.Alarms cfg index violation)
      report (kernelCountState kernel.running (kernel.tasks index) report) := by
  unfold kernelCountState
  cases state : (kernel.tasks index).state with
  | invalid =>
      refine (Noted.note report .taskState _).congr fun violation => ?_
      cases violation <;> simp [Kernel.Alarms, state]
  | created =>
      have counted : Noted (kernel.tasks index).id (fun _ => False) report
          { report with createdTasks := report.createdTasks + 1 } :=
        .silent rfl rfl rfl rfl
      refine (counted.trans (Noted.noteIf _ (kernel.running = true) .taskState _)).congr
        fun violation => ?_
      cases violation <;> simp [Kernel.Alarms, state]
  | ready | running | blocked | suspended =>
      have counted : ∀ after : InvariantReport,
          after.violationMask = report.violationMask →
          after.firstBadTaskId = report.firstBadTaskId → after.taskCount = report.taskCount →
          after.schedulerRunning = report.schedulerRunning →
          Noted (kernel.tasks index).id
            (fun violation => violation = .taskState ∧ kernel.Alarms cfg index violation)
            report after :=
        fun after mask first taskCount running =>
          (Noted.silent mask first taskCount running).congr fun violation => by
            cases violation <;> simp [Kernel.Alarms, state]
      exact counted _ rfl rfl rfl rfl

/-- One turn of the scan counts the state of its task. -/
theorem kernelCountState_tasksIn
    (schedulerRunning : Bool) (task : Task) (report : InvariantReport) {state : TaskState}
    (valid : state ≠ .invalid) :
    (kernelCountState schedulerRunning task report).tasksIn state =
      report.tasksIn state + if task.state = state then 1 else 0 := by
  unfold kernelCountState
  cases own : task.state with
  | invalid =>
      rw [if_neg (Ne.symm valid)]
      exact kernelNoteViolation_tasksIn _ _ _ _
  | created =>
      dsimp only
      rw [InvariantReport.noteIf_tasksIn]
      cases state <;> rfl
  | ready | running | blocked | suspended =>
      cases state <;> rfl

theorem kernelCountState_currentTaskId
    (schedulerRunning : Bool) (task : Task) (report : InvariantReport) :
    (kernelCountState schedulerRunning task report).currentTaskId = report.currentTaskId := by
  unfold kernelCountState
  cases task.state with
  | created => exact InvariantReport.noteIf_currentTaskId _ _ _ _
  | invalid | ready | running | blocked | suspended => rfl

theorem kernelCheckTask_tasksIn
    (cfg : Config) (task : Task) (expectedId : Nat) (report : InvariantReport)
    (state : TaskState) :
    (kernelCheckTask cfg task expectedId report).tasksIn state = report.tasksIn state := by
  unfold kernelCheckTask
  dsimp only
  rw [InvariantReport.noteIf_tasksIn]
  split <;> simp

theorem kernelCheckTask_currentTaskId
    (cfg : Config) (task : Task) (expectedId : Nat) (report : InvariantReport) :
    (kernelCheckTask cfg task expectedId report).currentTaskId = report.currentTaskId := by
  unfold kernelCheckTask
  dsimp only
  rw [InvariantReport.noteIf_currentTaskId]
  split
  · change (InvariantReport.noteIf _ _ _ _).currentTaskId = _
    simp
  · simp

/-- All checks of one slot. -/
theorem Noted.scanTask
    (cfg : Config) (kernel : Kernel) (index : Nat) (report : InvariantReport) :
    Noted (kernel.tasks index).id (kernel.Alarms cfg index) report
      (kernelCountState kernel.running (kernel.tasks index)
        (kernelCheckTask cfg (kernel.tasks index) (index + 1) report)) :=
  ((Noted.checkTask cfg kernel index report).trans (Noted.countState cfg kernel index _)).congr
    fun violation => by
      by_cases state : violation = .taskState <;> simp [state]

/-- The identifier of the current task once its slot has been visited. -/
def Kernel.foundId (kernel : Kernel) (count : Nat) : Nat :=
  match schedulerCurrentTask kernel with
  | some current => if current < count then (kernel.tasks current).id else 0
  | none => 0

/-- A slot whose alarms can become the first bad task. -/
def Kernel.Blamed (cfg : Config) (kernel : Kernel) (index : Nat) : Prop :=
  (∃ violation, kernel.Alarms cfg index violation) ∧
    (kernel.tasks index).id ≠ kernelInvariantNoTaskId

/-- What the scan has found out after `count` slots. -/
structure Surveyed (cfg : Config) (kernel : Kernel) (start : InvariantReport) (count : Nat)
    (scan : Scan) : Prop where
  notes : ∀ violation, scan.report.Notes violation ↔
    start.Notes violation ∨ ∃ index < count, kernel.Alarms cfg index violation
  mask : scan.report.violationMask = 0 ↔
    start.violationMask = 0 ∧ ∀ index < count, ∀ violation, ¬kernel.Alarms cfg index violation
  first : ∀ index < count, kernel.Blamed cfg index →
    (∀ earlier < index, ¬kernel.Blamed cfg earlier) →
      scan.report.firstBadTaskId = (kernel.tasks index).id
  firstKept : (∀ index < count, ¬kernel.Blamed cfg index) →
    scan.report.firstBadTaskId = kernelInvariantNoTaskId
  tasksIn : ∀ state ≠ .invalid, scan.report.tasksIn state = kernel.tally state count
  found : scan.currentTaskFound = true ↔
    ∃ index < count, schedulerCurrentTask kernel = some index
  currentTaskId : scan.report.currentTaskId = kernel.foundId count
  taskCount : scan.report.taskCount = start.taskCount
  schedulerRunning : scan.report.schedulerRunning = start.schedulerRunning

namespace Surveyed

variable {cfg : Config} {kernel : Kernel} {start : InvariantReport} {count : Nat}

theorem initial
    (blank : start.firstBadTaskId = kernelInvariantNoTaskId)
    (uncounted : ∀ state, start.tasksIn state = 0) (unknown : start.currentTaskId = 0) :
    Surveyed cfg kernel start 0 ⟨start, false⟩ where
  notes violation := by simp
  mask := by simp
  first index small := absurd small (Nat.not_lt_zero index)
  firstKept _ := blank
  tasksIn state _ := by simp [uncounted, Kernel.tally]
  found := by simp
  currentTaskId := by
    unfold Kernel.foundId
    cases schedulerCurrentTask kernel <;> simp [unknown]
  taskCount := rfl
  schedulerRunning := rfl

/-- Noting the visited slot's alarms against its identifier. -/
theorem first_step
    {before after : InvariantReport}
    (noted : Noted (kernel.tasks count).id (kernel.Alarms cfg count) before after)
    (first : ∀ index < count, kernel.Blamed cfg index →
      (∀ earlier < index, ¬kernel.Blamed cfg earlier) →
        before.firstBadTaskId = (kernel.tasks index).id)
    (firstKept : (∀ index < count, ¬kernel.Blamed cfg index) →
      before.firstBadTaskId = kernelInvariantNoTaskId) :
    (∀ index < count + 1, kernel.Blamed cfg index →
      (∀ earlier < index, ¬kernel.Blamed cfg earlier) →
        after.firstBadTaskId = (kernel.tasks index).id) ∧
    ((∀ index < count + 1, ¬kernel.Blamed cfg index) →
      after.firstBadTaskId = kernelInvariantNoTaskId) := by
  constructor
  · intro index small blamed earliest
    rcases Nat.lt_succ_iff_lt_or_eq.mp small with earlier | rfl
    · have kept := first index earlier blamed earliest
      by_cases alarmed : ∃ violation, kernel.Alarms cfg count violation
      · rw [noted.first alarmed, if_neg (kept ▸ blamed.2), kept]
      · rw [noted.firstKept (not_exists.mp alarmed), kept]
    · rw [noted.first blamed.1, if_pos (firstKept earliest)]
  · intro unblamed
    have kept := firstKept fun index small => unblamed index (Nat.lt_succ_of_lt small)
    by_cases alarmed : ∃ violation, kernel.Alarms cfg count violation
    · rw [noted.first alarmed, if_pos kept]
      by_contra named
      exact unblamed count (Nat.lt_succ_self count) ⟨alarmed, named⟩
    · rw [noted.firstKept (not_exists.mp alarmed), kept]

/-- One iteration of the scan. -/
theorem step
    {scan : Scan} (surveyed : Surveyed cfg kernel start count scan)
    (small : count < kernel.taskCount) :
    Surveyed cfg kernel start (count + 1) (kernelScanStep cfg kernel scan count) := by
  have located : taskInternalAt kernel count = some count := by
    unfold taskInternalAt
    rw [if_neg (Nat.not_le.mpr small)]
  unfold kernelScanStep
  rw [located]
  dsimp only
  generalize entered : (if schedulerCurrentTask kernel = some count then
    ({ report := { scan.report with currentTaskId := (kernel.tasks count).id }
       currentTaskFound := true } : Scan) else scan) = visited
  have same : visited.report.violationMask = scan.report.violationMask ∧
      visited.report.firstBadTaskId = scan.report.firstBadTaskId ∧
      visited.report.tasksIn = scan.report.tasksIn ∧
      visited.report.taskCount = scan.report.taskCount ∧
      visited.report.schedulerRunning = scan.report.schedulerRunning := by
    rw [← entered]
    split
    · refine ⟨rfl, rfl, ?_, rfl, rfl⟩
      funext state
      cases state <;> rfl
    · exact ⟨rfl, rfl, rfl, rfl, rfl⟩
  obtain ⟨mask, first, tasksIn, taskCount, running⟩ := same
  have noted := Noted.scanTask cfg kernel count visited.report
  obtain ⟨blames, unblamed⟩ := first_step noted (first ▸ surveyed.first)
    (first ▸ surveyed.firstKept)
  refine ⟨fun violation => ?_, ?_, blames, unblamed, fun state valid => ?_, ?_, ?_, ?_, ?_⟩
  · have kept : visited.report.Notes violation ↔ scan.report.Notes violation := by
      rw [InvariantReport.Notes, mask, InvariantReport.Notes]
    rw [noted.notes, kept, surveyed.notes, or_assoc, Nat.exists_lt_succ_right]
  · rw [noted.mask, mask, surveyed.mask, and_assoc, Nat.forall_lt_succ_right]
  · rw [kernelCountState_tasksIn _ _ _ valid, kernelCheckTask_tasksIn, tasksIn,
      surveyed.tasksIn state valid, Kernel.tally_succ]
  · rw [Nat.exists_lt_succ_right, ← surveyed.found, ← entered]
    split
    · rename_i current
      simp [current]
    · rename_i other
      simp [other]
  · rw [kernelCountState_currentTaskId, kernelCheckTask_currentTaskId, ← entered]
    unfold Kernel.foundId
    split
    · rename_i current
      simp [current]
    · rename_i other
      rw [surveyed.currentTaskId, Kernel.foundId]
      cases current : schedulerCurrentTask kernel with
      | none => rfl
      | some index =>
          have apart : index ≠ count := fun same => other (same ▸ current)
          have bound : index < count + 1 ↔ index < count := by omega
          simp only [bound]
  · rw [noted.taskCount, taskCount, surveyed.taskCount]
  · rw [noted.schedulerRunning, running, surveyed.schedulerRunning]

/-- The whole scan. -/
theorem of_scan
    (blank : start.firstBadTaskId = kernelInvariantNoTaskId)
    (uncounted : ∀ state, start.tasksIn state = 0) (unknown : start.currentTaskId = 0)
    (small : count ≤ kernel.taskCount) :
    Surveyed cfg kernel start count
      ((List.range count).foldl (kernelScanStep cfg kernel) ⟨start, false⟩) :=
  foldl_range_invariant count _ (initial blank uncounted unknown)
    fun _ _ visited surveyed => surveyed.step (visited.trans_le small)

end Surveyed

/-! ## The verdict -/

/-- More than one task is counted when two slots have the state. -/
theorem Kernel.one_lt_tally (kernel : Kernel) (state : TaskState) (count : Nat) :
    1 < kernel.tally state count ↔ ∃ first < count, ∃ second < count, first ≠ second ∧
      (kernel.tasks first).state = state ∧ (kernel.tasks second).state = state := by
  unfold Kernel.tally
  rw [Finset.one_lt_card]
  simp only [Finset.mem_filter, Finset.mem_range]
  constructor
  · rintro ⟨first, ⟨small, left⟩, second, ⟨below, right⟩, apart⟩
    exact ⟨first, small, second, below, apart, left, right⟩
  · rintro ⟨first, small, second, below, apart, left, right⟩
    exact ⟨first, ⟨small, left⟩, second, ⟨below, right⟩, apart⟩

/-- The current task is found, runs, and is the only one that does. -/
theorem Kernel.tally_eq_one_iff
    (kernel : Kernel) (count current : Nat) :
    (current < count ∧ (kernel.tasks current).state = .running ∧
      kernel.tally .running count = 1) ↔
      current < count ∧
        ∀ index < count, (kernel.tasks index).state = .running ↔ index = current := by
  unfold Kernel.tally
  constructor
  · rintro ⟨small, runs, one⟩
    obtain ⟨sole, only⟩ := Finset.card_eq_one.mp one
    have member : ∀ index, index < count ∧ (kernel.tasks index).state = .running ↔
        index = sole := fun index => by
      have listed := Finset.ext_iff.mp only index
      rwa [Finset.mem_filter, Finset.mem_range, Finset.mem_singleton] at listed
    obtain rfl := (member current).mp ⟨small, runs⟩
    exact ⟨small, fun index below =>
      ⟨fun state => (member index).mp ⟨below, state⟩, fun same => ((member index).mpr same).2⟩⟩
  · rintro ⟨small, sole⟩
    refine ⟨small, (sole current small).mpr rfl, Finset.card_eq_one.mpr ⟨current, ?_⟩⟩
    ext index
    rw [Finset.mem_filter, Finset.mem_range, Finset.mem_singleton]
    constructor
    · exact fun ⟨below, state⟩ => (sole index below).mp state
    · rintro rfl
      exact ⟨small, (sole index small).mpr rfl⟩

/-- The task blamed for an inconsistent current task. -/
def Kernel.currentBlame (kernel : Kernel) (count : Nat) : Nat :=
  match schedulerCurrentTask kernel with
  | some _ => kernel.foundId count
  | none => kernelInvariantNoTaskId

theorem Noted.checkCurrent
    {kernel : Kernel} {count : Nat} (scan : Scan)
    (running : scan.report.runningTasks = kernel.tally .running count)
    (found : scan.currentTaskFound = true ↔
      ∃ index < count, schedulerCurrentTask kernel = some index)
    (current : scan.report.currentTaskId = kernel.foundId count) :
    Noted (kernel.currentBlame count)
      (fun violation => ¬kernel.CurrentOk count ∧ violation = .currentTask)
      scan.report (kernelCheckCurrent kernel scan) := by
  unfold kernelCheckCurrent Kernel.CurrentOk Kernel.currentBlame
  dsimp only
  cases started : kernel.running with
  | true =>
      rw [if_pos rfl]
      cases present : schedulerCurrentTask kernel with
      | some index =>
          dsimp only
          rw [current]
          refine (Noted.noteIf _ _ .currentTask _).congr fun violation => ?_
          refine and_congr_left fun _ => ?_
          rw [← kernel.tally_eq_one_iff count index, running, ← Bool.not_eq_true, found, present]
          simp only [Option.some.injEq, exists_eq_right', ne_eq, not_and_or]
      | none =>
          dsimp only
          refine (Noted.noteIf _ _ .currentTask _).congr fun violation => ?_
          refine and_congr_left fun _ => ?_
          rw [running, Kernel.tally, ne_eq, Finset.card_eq_zero, Finset.filter_eq_empty_iff]
          simp only [Finset.mem_range]
  | false =>
      rw [if_neg Bool.false_ne_true]
      cases present : schedulerCurrentTask kernel with
      | some index =>
          dsimp only
          rw [current]
          exact Noted.noteIf _ _ .currentTask _
      | none =>
          rw [InvariantReport.noteIf_of_not (not_not.mpr rfl)]
          exact (Noted.silent rfl rfl rfl rfl).congr fun violation => by simp

theorem kernelCheckCurrent_tasksIn (kernel : Kernel) (scan : Scan) (state : TaskState) :
    (kernelCheckCurrent kernel scan).tasksIn state = scan.report.tasksIn state := by
  unfold kernelCheckCurrent
  dsimp only
  split
  · split <;> simp
  · simp

theorem kernelCheckCurrent_currentTaskId (kernel : Kernel) (scan : Scan) :
    (kernelCheckCurrent kernel scan).currentTaskId = scan.report.currentTaskId := by
  unfold kernelCheckCurrent
  dsimp only
  split
  · split <;> simp
  · simp

/-- The cleared report with the size of the registry. -/
def kernelCheckCleared (kernel : Kernel) : InvariantReport :=
  { InvariantReport.empty with
    taskCount := kernel.taskCount
    schedulerRunning := kernel.running }

/-- The report as the scan finds it. -/
def kernelCheckStart (cfg : Config) (kernel : Kernel) : InvariantReport :=
  (kernelCheckCleared kernel).noteIf (cfg.maxTasks < kernel.taskCount)
    .taskCount kernelInvariantNoTaskId

theorem kernelCheckStart_noted (cfg : Config) (kernel : Kernel) :
    Noted kernelInvariantNoTaskId
      (fun violation => cfg.maxTasks < kernel.taskCount ∧ violation = .taskCount)
      (kernelCheckCleared kernel) (kernelCheckStart cfg kernel) :=
  Noted.noteIf _ _ _ _

/-- The scan over the registry. -/
def kernelCheckScan (cfg : Config) (kernel : Kernel) : Scan :=
  (List.range (kernel.scanCount cfg)).foldl (kernelScanStep cfg kernel)
    ⟨kernelCheckStart cfg kernel, false⟩

/-- The scan surveys every slot it may read. -/
theorem kernelCheckScan_surveyed (cfg : Config) (kernel : Kernel) :
    Surveyed cfg kernel (kernelCheckStart cfg kernel) (kernel.scanCount cfg)
      (kernelCheckScan cfg kernel) := by
  have noted := kernelCheckStart_noted cfg kernel
  refine Surveyed.of_scan ?_ (fun state => ?_) ?_ (min_le_left _ _)
  · by_cases large : cfg.maxTasks < kernel.taskCount
    · exact noted.first ⟨.taskCount, large, rfl⟩
    · exact noted.firstKept fun _ alarm => large alarm.1
  · unfold kernelCheckStart
    rw [InvariantReport.noteIf_tasksIn]
    cases state <;> rfl
  · exact InvariantReport.noteIf_currentTaskId _ _ _ _

/-- The report once the running tasks are counted. -/
def kernelCheckCounted (cfg : Config) (kernel : Kernel) : InvariantReport :=
  (kernelCheckScan cfg kernel).report.noteIf
    (1 < (kernelCheckScan cfg kernel).report.runningTasks)
    .runningCount kernelInvariantNoTaskId

theorem kernelCheckCounted_noted (cfg : Config) (kernel : Kernel) :
    Noted kernelInvariantNoTaskId
      (fun violation => kernel.Violates cfg .runningCount ∧ violation = .runningCount)
      (kernelCheckScan cfg kernel).report (kernelCheckCounted cfg kernel) := by
  have running : (kernelCheckScan cfg kernel).report.runningTasks =
      kernel.tally .running (kernel.scanCount cfg) :=
    (kernelCheckScan_surveyed cfg kernel).tasksIn .running (by decide)
  refine (Noted.noteIf _ _ .runningCount _).congr fun violation => ?_
  rw [running, kernel.one_lt_tally]
  rfl

theorem kernelCheckInvariants_report (cfg : Config) (kernel : Kernel) :
    (kernelCheckInvariants cfg kernel).1 = kernelCheckCurrent kernel
      { kernelCheckScan cfg kernel with report := kernelCheckCounted cfg kernel } := by
  have visited : (if cfg.maxTasks < kernel.taskCount then cfg.maxTasks else kernel.taskCount) =
      kernel.scanCount cfg := by
    unfold Kernel.scanCount
    split <;> omega
  unfold kernelCheckInvariants
  dsimp only
  rw [visited]
  rfl

/-- The last test notes a wrong current task. -/
theorem kernelCheckInvariants_noted (cfg : Config) (kernel : Kernel) :
    Noted (kernel.currentBlame (kernel.scanCount cfg))
      (fun violation => kernel.Violates cfg .currentTask ∧ violation = .currentTask)
      (kernelCheckCounted cfg kernel) (kernelCheckInvariants cfg kernel).1 := by
  have surveyed := kernelCheckScan_surveyed cfg kernel
  rw [kernelCheckInvariants_report]
  refine Noted.checkCurrent
    { kernelCheckScan cfg kernel with report := kernelCheckCounted cfg kernel } ?_
    surveyed.found ?_
  · rw [← surveyed.tasksIn .running (by decide)]
    exact InvariantReport.noteIf_tasksIn _ _ _ _ .running
  · rw [← surveyed.currentTaskId]
    exact InvariantReport.noteIf_currentTaskId _ _ _ _

/-- The counts of the report are those of the registry. -/
theorem kernelCheckInvariants_tasksIn
    (cfg : Config) (kernel : Kernel) {state : TaskState} (valid : state ≠ .invalid) :
    (kernelCheckInvariants cfg kernel).1.tasksIn state =
      kernel.tally state (kernel.scanCount cfg) := by
  rw [kernelCheckInvariants_report, kernelCheckCurrent_tasksIn]
  refine (InvariantReport.noteIf_tasksIn _ _ _ _ state).trans ?_
  exact (kernelCheckScan_surveyed cfg kernel).tasksIn state valid

/-- The check passes when no condition fails. -/
theorem Kernel.sound_iff (cfg : Config) (kernel : Kernel) :
    kernel.Sound cfg ↔ ∀ violation, ¬kernel.Violates cfg violation := by
  constructor
  · intro sound violation
    have all : kernel.scanCount cfg = kernel.taskCount := min_eq_left sound.capacity
    cases violation with
    | taskCount => exact Nat.not_lt.mpr sound.capacity
    | taskPointer => exact not_false
    | runningCount =>
        rintro ⟨first, small, second, below, apart, left, right⟩
        exact apart (sound.sole first (all ▸ small) second (all ▸ below) left right)
    | currentTask => exact not_not.mpr (all.symm ▸ sound.current)
    | taskId => exact fun ⟨index, small, bad⟩ => bad (sound.ids index (all ▸ small))
    | taskPriority =>
        exact fun ⟨index, small, bad⟩ => bad (sound.priorities index (all ▸ small))
    | taskState =>
        rintro ⟨index, small, bad | ⟨created, running⟩⟩
        · exact (sound.states index (all ▸ small)).1 bad
        · exact (sound.states index (all ▸ small)).2 running created
    | stackGeometry =>
        exact fun ⟨index, small, bad⟩ => bad (sound.geometry index (all ▸ small)).1
    | savedSp =>
        exact fun ⟨index, small, bad⟩ => bad.2 (sound.geometry index (all ▸ small)).2
    | waitState => exact fun ⟨index, small, bad⟩ => bad (sound.waits index (all ▸ small))
  · intro clean
    have capacity : kernel.taskCount ≤ cfg.maxTasks := Nat.not_lt.mp (clean .taskCount)
    have all : kernel.scanCount cfg = kernel.taskCount := min_eq_left capacity
    have holds : ∀ violation, (kernel.Violates cfg violation ↔
          ∃ slot < kernel.scanCount cfg, kernel.Alarms cfg slot violation) →
        ∀ index < kernel.taskCount, ¬kernel.Alarms cfg index violation :=
      fun violation means index small alarm =>
        clean violation (means.mpr ⟨index, all.symm ▸ small, alarm⟩)
    have geometry : ∀ index < kernel.taskCount, (kernel.tasks index).StackOk cfg :=
      fun index small => not_not.mp (holds .stackGeometry Iff.rfl index small)
    exact {
      capacity := capacity
      ids := fun index small => not_not.mp (holds .taskId Iff.rfl index small)
      priorities := fun index small =>
        not_not.mp (holds .taskPriority Iff.rfl index small)
      states := fun index small => by
        have fine := holds .taskState Iff.rfl index small
        exact ⟨fun bad => fine (Or.inl bad),
          fun running created => fine (Or.inr ⟨created, running⟩)⟩
      geometry := fun index small => ⟨geometry index small, by
        have fine := holds .savedSp Iff.rfl index small
        exact not_not.mp fun bad => fine ⟨geometry index small, bad⟩⟩
      waits := fun index small => not_not.mp (holds .waitState Iff.rfl index small)
      sole := fun first small second below left right => by
        by_contra apart
        exact clean .runningCount
          ⟨first, all.symm ▸ small, second, all.symm ▸ below, apart, left, right⟩
      current := all ▸ not_not.mp (clean .currentTask) }

/-- Exactly what the self-check reports, whatever the state of the kernel: each bit of the
mask, the verdict, the counters, the current task and the first bad task. -/
theorem self_check_exact (cfg : Config) (kernel : Kernel) :
    (∀ violation, (kernelCheckInvariants cfg kernel).1.violationMask &&& violation.bit ≠ 0 ↔
      kernel.Violates cfg violation) ∧
    ((kernelCheckInvariants cfg kernel).2 = true ↔ kernel.Sound cfg) ∧
    (∀ state ≠ .invalid, (kernelCheckInvariants cfg kernel).1.tasksIn state =
      kernel.tally state (kernel.scanCount cfg)) ∧
    (kernelCheckInvariants cfg kernel).1.currentTaskId =
      kernel.foundId (kernel.scanCount cfg) ∧
    (kernelCheckInvariants cfg kernel).1.taskCount = kernel.taskCount ∧
    (kernelCheckInvariants cfg kernel).1.schedulerRunning = kernel.running ∧
    (∀ index < kernel.scanCount cfg, kernel.Blamed cfg index →
      (∀ earlier < index, ¬kernel.Blamed cfg earlier) →
        (kernelCheckInvariants cfg kernel).1.firstBadTaskId = (kernel.tasks index).id) ∧
    ((∀ index < kernel.scanCount cfg, ¬kernel.Blamed cfg index) →
      (kernel.Violates cfg .currentTask → (kernelCheckInvariants cfg kernel).1.firstBadTaskId =
        kernel.currentBlame (kernel.scanCount cfg)) ∧
      (¬kernel.Violates cfg .currentTask →
        (kernelCheckInvariants cfg kernel).1.firstBadTaskId = kernelInvariantNoTaskId)) := by
  have starts := kernelCheckStart_noted cfg kernel
  have surveyed := kernelCheckScan_surveyed cfg kernel
  have counts := kernelCheckCounted_noted cfg kernel
  have ends := kernelCheckInvariants_noted cfg kernel
  have notes : ∀ violation, (kernelCheckInvariants cfg kernel).1.Notes violation ↔
      kernel.Violates cfg violation := by
    intro violation
    have blank : ¬(kernelCheckCleared kernel).Notes violation := not_not.mpr BitVec.zero_and
    rw [ends.notes, counts.notes, surveyed.notes, starts.notes]
    cases violation <;> simp [Kernel.Violates, Kernel.Alarms, blank]
  have clean : (kernelCheckInvariants cfg kernel).1.violationMask = 0 ↔
      ∀ violation, ¬kernel.Violates cfg violation := by
    constructor
    · intro zero violation violates
      exact (notes violation).mpr violates (by
        rw [zero]
        exact BitVec.zero_and)
    · intro sound
      refine ends.mask.mpr ⟨counts.mask.mpr ⟨surveyed.mask.mpr ⟨starts.mask.mpr ⟨rfl, ?_⟩, ?_⟩,
        ?_⟩, ?_⟩
      · exact fun _ alarm => sound .taskCount alarm.1
      · intro index small violation alarm
        refine sound violation ?_
        cases violation with
        | taskCount | taskPointer | runningCount | currentTask => exact alarm.elim
        | _ => exact ⟨index, small, alarm⟩
      · exact fun _ alarm => sound .runningCount alarm.1
      · exact fun _ alarm => sound .currentTask alarm.1
  -- The running count is blamed on no task, so it leaves the first bad task alone.
  have countedFirst : (kernelCheckCounted cfg kernel).firstBadTaskId =
      (kernelCheckScan cfg kernel).report.firstBadTaskId := by
    by_cases crowded : kernel.Violates cfg .runningCount
    · rw [counts.first ⟨.runningCount, crowded, rfl⟩]
      split
      · rename_i blank
        exact blank.symm
      · rfl
    · exact counts.firstKept fun _ alarm => crowded alarm.1
  have current : (kernelCheckInvariants cfg kernel).1.currentTaskId =
      (kernelCheckScan cfg kernel).report.currentTaskId := by
    rw [kernelCheckInvariants_report, kernelCheckCurrent_currentTaskId]
    exact InvariantReport.noteIf_currentTaskId _ _ _ _
  refine ⟨notes, ?_, fun state valid => ?_, ?_, ?_, ?_, ?_, fun unblamed => ⟨?_, ?_⟩⟩
  · rw [kernel.sound_iff, ← clean]
    exact decide_eq_true_iff
  · exact kernelCheckInvariants_tasksIn cfg kernel valid
  · rw [current, surveyed.currentTaskId]
  · exact ends.taskCount.trans (counts.taskCount.trans
      (surveyed.taskCount.trans starts.taskCount))
  · exact ends.schedulerRunning.trans (counts.schedulerRunning.trans
      (surveyed.schedulerRunning.trans starts.schedulerRunning))
  · intro index small blamed earliest
    have first := countedFirst.trans (surveyed.first index small blamed earliest)
    by_cases violates : kernel.Violates cfg .currentTask
    · rw [ends.first ⟨.currentTask, violates, rfl⟩, first, if_neg blamed.2]
    · rw [ends.firstKept fun _ alarm => violates alarm.1, first]
  · intro violates
    rw [ends.first ⟨.currentTask, violates, rfl⟩, countedFirst,
      if_pos (surveyed.firstKept unblamed)]
  · intro satisfied
    rw [ends.firstKept fun _ alarm => satisfied alarm.1, countedFirst,
      surveyed.firstKept unblamed]

end ForgeKernel
