import ForgeKernel.Model.Scheduler

/-!
# Runtime self-check

`diagnostics.c`: the invariant scanner and its report.
-/

namespace ForgeKernel

/-- Violation bits of `kernel_diagnostics.h`. -/
inductive Violation
  | taskCount
  | taskPointer
  | taskId
  | taskPriority
  | taskState
  | stackGeometry
  | savedSp
  | waitState
  | runningCount
  | currentTask
  deriving DecidableEq, Repr

/-- Bit of a violation in `violation_mask`. -/
def Violation.bit : Violation → Word
  | .taskCount => 1
  | .taskPointer => 2
  | .taskId => 4
  | .taskPriority => 8
  | .taskState => 16
  | .stackGeometry => 32
  | .savedSp => 64
  | .waitState => 128
  | .runningCount => 256
  | .currentTask => 512

/-- `FR_KERNEL_INVARIANT_NO_TASK_ID`. -/
def kernelInvariantNoTaskId : Nat := 0xFFFFFFFF

/-- `fr_kernel_invariant_report_t`. -/
structure InvariantReport where
  taskCount : Nat
  createdTasks : Nat
  readyTasks : Nat
  runningTasks : Nat
  blockedTasks : Nat
  suspendedTasks : Nat
  currentTaskId : Nat
  violationMask : Word
  firstBadTaskId : Nat
  schedulerRunning : Bool
  deriving DecidableEq, Repr

/-- The report as cleared on entry. -/
def InvariantReport.empty : InvariantReport :=
  ⟨0, 0, 0, 0, 0, 0, 0, 0, kernelInvariantNoTaskId, false⟩

/-- `fr_kernel_note_violation`. -/
def kernelNoteViolation
    (report : InvariantReport) (violation : Violation) (taskId : Nat) : InvariantReport :=
  { report with
    violationMask := report.violationMask ||| violation.bit
    firstBadTaskId :=
      if report.firstBadTaskId = kernelInvariantNoTaskId then taskId
      else report.firstBadTaskId }

/-- `fr_kernel_wait_state_valid`. -/
def kernelWaitStateValid (task : Task) : Bool :=
  if task.state = .blocked then
    if task.waitReason = .none ∨ task.waitResult ≠ .pending then false
    else if task.waitReason = .sleep ∧ task.waitObject ≠ none then false
    else if task.waitReason ≠ .sleep ∧ task.waitReason.usesObject ∧
        task.waitObject = none then false
    else if task.waitReason ≠ .sleep ∧ task.waitReason.usesObject = false then false
    else if task.waitReason = .eventFlags then decide (task.waitFlagsMask ≠ 0)
    else
      decide (task.waitFlagsMask = 0 ∧ task.waitFlagsAll = false ∧
        task.waitFlagsClearOnExit = false)
  else
    decide (task.waitReason = .none ∧ task.waitObject = none ∧
      task.waitHasDeadline = false ∧ task.waitDeadline = 0 ∧ task.waitFlagsMask = 0 ∧
      task.waitFlagsAll = false ∧ task.waitFlagsClearOnExit = false)

/-- `fr_kernel_stack_geometry_valid`. -/
def kernelStackGeometryValid (cfg : Config) (task : Task) : Bool :=
  if task.stackBase = 0 ∨ task.stackTop = 0 ∨
      task.stackSizeWords.toNat < cfg.minTaskStackWords ∨
      task.stackSizeWords &&& 1 ≠ 0 then false
  else if 0xFFFFFFFF#32 / 4 < task.stackSizeWords then false
  else
    let stackSizeBytes := task.stackSizeWords * 4
    if task.stackBase &&& 7 ≠ 0 ∨ task.stackTop &&& 7 ≠ 0 ∨
        0xFFFFFFFF#32 - stackSizeBytes < task.stackBase then false
    else decide (task.stackTop = task.stackBase + stackSizeBytes)

/-- `fr_kernel_saved_sp_valid`. -/
def kernelSavedSpValid (task : Task) : Bool :=
  decide (task.savedSp ≠ 0 ∧ task.stackBase ≤ task.savedSp ∧
    task.savedSp ≤ task.stackTop ∧ task.savedSp &&& 7 = 0)

/-- `fr_task_internal_at`. -/
def taskInternalAt (kernel : Kernel) (index : Nat) : Option Nat :=
  if kernel.taskCount ≤ index then none else some index

/-- Loop state of the registry scan: the report and `current_task_found`. -/
structure Scan where
  report : InvariantReport
  currentTaskFound : Bool
  deriving DecidableEq, Repr

/-- Note a violation when a condition holds. -/
def InvariantReport.noteIf
    (report : InvariantReport) (condition : Prop) [Decidable condition]
    (violation : Violation) (taskId : Nat) : InvariantReport :=
  if condition then kernelNoteViolation report violation taskId else report

/-- The `switch` over the state of a scanned task. -/
def kernelCountState
    (schedulerRunning : Bool) (task : Task) (report : InvariantReport) : InvariantReport :=
  match task.state with
  | .created =>
      { report with createdTasks := report.createdTasks + 1 }.noteIf
        (schedulerRunning = true) .taskState task.id
  | .ready => { report with readyTasks := report.readyTasks + 1 }
  | .running => { report with runningTasks := report.runningTasks + 1 }
  | .blocked => { report with blockedTasks := report.blockedTasks + 1 }
  | .suspended => { report with suspendedTasks := report.suspendedTasks + 1 }
  | .invalid => kernelNoteViolation report .taskState task.id

/-- The per-task checks that precede the `switch`. -/
def kernelCheckTask
    (cfg : Config) (task : Task) (expectedId : Nat) (report : InvariantReport) :
    InvariantReport :=
  let report := report.noteIf (task.id ≠ expectedId) .taskId task.id
  let report := report.noteIf
    (cfg.maxTaskPriority < task.priority ∨ cfg.maxTaskPriority < task.basePriority ∨
      task.priority < task.basePriority) .taskPriority task.id
  let report :=
    if kernelStackGeometryValid cfg task = false then
      kernelNoteViolation report .stackGeometry task.id
    else report.noteIf (kernelSavedSpValid task = false) .savedSp task.id
  report.noteIf (kernelWaitStateValid task = false) .waitState task.id

/-- One iteration of the registry scan. -/
def kernelScanStep (cfg : Config) (kernel : Kernel) (scan : Scan) (i : Nat) : Scan :=
  match taskInternalAt kernel i with
  | none => { scan with report := kernelNoteViolation scan.report .taskPointer (i + 1) }
  | some index =>
      let task := kernel.tasks index
      let scan :=
        if schedulerCurrentTask kernel = some index then
          { report := { scan.report with currentTaskId := task.id }
            currentTaskFound := true }
        else scan
      { scan with
        report := kernelCountState kernel.running task
          (kernelCheckTask cfg task (i + 1) scan.report) }

/-- The relation between the scan and the current task, checked last. -/
def kernelCheckCurrent (kernel : Kernel) (scan : Scan) : InvariantReport :=
  let report := scan.report
  if kernel.running then
    match schedulerCurrentTask kernel with
    | some current =>
        report.noteIf
          (scan.currentTaskFound = false ∨ (kernel.tasks current).state ≠ .running ∨
            report.runningTasks ≠ 1) .currentTask report.currentTaskId
    | none => report.noteIf (report.runningTasks ≠ 0) .currentTask kernelInvariantNoTaskId
  else
    report.noteIf (schedulerCurrentTask kernel ≠ none) .currentTask report.currentTaskId

/-- `fr_kernel_check_invariants` with a non-null report pointer. -/
def kernelCheckInvariants (cfg : Config) (kernel : Kernel) : InvariantReport × Bool :=
  let report := { InvariantReport.empty with
    taskCount := kernel.taskCount
    schedulerRunning := kernel.running }
  let report := report.noteIf (cfg.maxTasks < kernel.taskCount)
    .taskCount kernelInvariantNoTaskId
  let scanCount := if cfg.maxTasks < kernel.taskCount then cfg.maxTasks else kernel.taskCount
  let scan := (List.range scanCount).foldl (kernelScanStep cfg kernel) ⟨report, false⟩
  let scan := { scan with
    report := scan.report.noteIf (1 < scan.report.runningTasks)
      .runningCount kernelInvariantNoTaskId }
  let report := kernelCheckCurrent kernel scan
  (report, decide (report.violationMask = 0))

end ForgeKernel
