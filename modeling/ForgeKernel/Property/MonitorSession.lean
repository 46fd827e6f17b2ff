import ForgeKernel.Invariant.MonitorAnswers
import ForgeKernel.Library.Transcript

/-!
# The monitor's session

What the image sends to its UART is the monitor's greeting followed by one answer for
each byte that the monitor has taken, in order.
-/

namespace ForgeKernel

open Machines Reports Transcripts

/-! ## The session -/

/-- A step in which the monitor takes no part. -/
structure Release.Aside (release next : Release) (emitted : List ReleaseEvent) : Prop where
  point : next.tasks 2 = release.tasks 2
  entries : next.traceEntries = release.traceEntries
  sent : emitted.flatMap ReleaseEvent.sent = []
  taken : emitted.flatMap ReleaseEvent.taken = []

theorem ReleaseEvent.silent_kernel (events : List Event) :
    (events.map ReleaseEvent.kernel).flatMap ReleaseEvent.sent = [] ∧
      (events.map ReleaseEvent.kernel).flatMap ReleaseEvent.taken = [] := by
  constructor <;> simp [List.flatMap_map, ReleaseEvent.sent, ReleaseEvent.taken]

namespace Release.Aside

variable {cfg : Config} {image : ReleaseImage cfg} {release next : Release}

/-- A step of the kernel that hands nothing to the monitor. -/
theorem of_kernel
    (point : next.tasks 2 = release.tasks 2) (entries : next.traceEntries = release.traceEntries)
    (events : List Event) : release.Aside next (events.map .kernel) :=
  ⟨point, entries, (ReleaseEvent.silent_kernel events).1, (ReleaseEvent.silent_kernel events).2⟩

/-- A step of the kernel alone passes the session by. -/
theorem settles (system : System) (events : List Event) :
    release.Aside (release.settle system) (events.map .kernel) :=
  .of_kernel (by rfl) (by rfl) events

/-- So does a step of another thread. -/
theorem acts
    {input : UsartInput} {thread : Thread} {events : List ReleaseEvent}
    (fits : ∀ index, (release.tasks index).fits index) (other : thread ≠ .task 2)
    (acted : release.act image input thread = some (next, events)) :
    release.Aside next events := by
  cases thread with
  | boot =>
      obtain ⟨booted, moved, same⟩ := Option.map_eq_some_iff.mp acted
      obtain ⟨rfl, rfl⟩ := Prod.mk.inj same
      have kept : booted.tasks = release.tasks ∧ booted.traceEntries = release.traceEntries := by
        generalize release.boot = boot at moved
        cases boot <;> grind [Release.bootAct]
      exact ⟨congrFun kept.1 2, kept.2, rfl, rfl⟩
  | task index =>
      have apart : 2 ≠ index := fun same => other (congrArg Thread.task same.symm)
      have placed := fits index
      simp only [Release.act] at acted
      split at acted
      · obtain ⟨point, _, same⟩ := Option.map_eq_some_iff.mp acted
        obtain ⟨rfl, rfl⟩ := Prod.mk.inj same
        exact ⟨Release.setPoint_tasks_of_ne _ _ apart, rfl, rfl, rfl⟩
      · rename_i point place
        obtain ⟨produced, moved, same⟩ := Option.map_eq_some_iff.mp acted
        obtain ⟨rfl, rfl⟩ := Prod.mk.inj same
        rw [place] at placed
        refine ⟨(Release.Moved.produces placed moved).of_ne apart, ?_, rfl, rfl⟩
        cases point <;> grind [Release.producerAct, Release.setPoint, Release.withMemory]
      · rename_i point place
        obtain ⟨consumed, moved, same⟩ := Option.map_eq_some_iff.mp acted
        obtain ⟨rfl, rfl⟩ := Prod.mk.inj same
        rw [place] at placed
        refine ⟨(Release.Moved.consumes placed moved).of_ne apart, ?_, rfl, rfl⟩
        cases point <;> grind [Release.consumerAct, Release.setPoint]
      · rename_i point place
        rw [place] at placed
        exact absurd placed.symm apart

end Release.Aside

/-- How the session stands: all bytes taken have their answers, up to a rest of the last
one, or the monitor still reads what the last answer needs. -/
inductive Session
    {cfg : Config} (image : ReleaseImage cfg) (events : List ReleaseEvent) (release : Release) :
    Prop
  | answers {rest : List Char}
      (transcript : Transcript (Answer image events) monitorGreeting (commands events).zipIdx
        (console events) rest)
      (owes : Owes release.traceEntries (release.tasks 2) rest)
  | reads {point : MonitorPoint} {earlier : List Byte} {command : Byte}
      (place : release.tasks 2 = .monitor point)
      (taken : commands events = earlier ++ [command])
      (transcript : Transcript (Answer image events) monitorGreeting earlier.zipIdx
        (console events) [])
      (reads : Reads events earlier.length point command)

theorem commands_append (past emitted : List ReleaseEvent) :
    commands (past ++ emitted) = commands past ++ emitted.flatMap ReleaseEvent.taken :=
  List.flatMap_append

theorem console_append (past emitted : List ReleaseEvent) :
    console (past ++ emitted) = console past ++ emitted.flatMap ReleaseEvent.sent :=
  List.flatMap_append

namespace Session

variable {cfg : Config} {image : ReleaseImage cfg} {release next : Release}
  {past emitted : List ReleaseEvent}

/-- What passes the session by keeps it. -/
theorem aside
    (session : Session image past release) (aside : release.Aside next emitted) :
    Session image (past ++ emitted) next := by
  have taken : commands (past ++ emitted) = commands past := by
    rw [commands_append, aside.taken, List.append_nil]
  have sent : console (past ++ emitted) = console past := by
    rw [console_append, aside.sent, List.append_nil]
  cases session with
  | answers transcript owes =>
      refine .answers (taken ▸ sent ▸ transcript.mono fun _ _ answer => answer.later) ?_
      rw [aside.point, aside.entries]
      exact owes
  | reads place held transcript reads =>
      exact .reads (aside.point.trans place) (taken.trans held)
        (sent ▸ transcript.mono fun _ _ answer => answer.later) reads.later

/-- The monitor's first instruction. -/
theorem enters
    (session : Session image past release) (start : release.tasks 2 = .start)
    {entry : Word} {point : TaskPoint} (fits : point.fits 2)
    (entered : Release.enter image entry = some point) :
    Session image past (release.setPoint 2 point) := by
  have banner : point = .monitor (.write monitorBanner .greets) := by
    simp only [Release.enter] at entered
    split at entered
    · obtain rfl := Option.some.inj entered
      cases fits
    · split at entered
      · obtain rfl := Option.some.inj entered
        cases fits
      · split at entered
        · exact (Option.some.inj entered).symm
        · cases entered
  subst banner
  cases session with
  | answers transcript owes =>
      rw [start] at owes
      cases owes
      refine .answers transcript ?_
      rw [Release.setPoint_tasks_self]
      exact .checks (by decide) .greets
  | reads place => cases start.symm.trans place

/-- A step of the monitor takes the next byte, or sends the next symbol it owes. -/
theorem acts
    {input : UsartInput} {point : MonitorPoint}
    (session : Session image past release) (observed : Observed image past release)
    (here : release.tasks 2 = .monitor point)
    (acted : release.monitorAct input 2 point = some (next, emitted)) :
    Session image (past ++ emitted) next := by
  cases session with
  | @answers rest transcript owes =>
      have later : Transcript (Answer image (past ++ emitted)) monitorGreeting
          (commands past).zipIdx (console past) rest :=
        transcript.mono fun _ _ answer => answer.later
      cases owes.acts here observed.unmasked observed.initialized acted with
      | silent owed =>
          rw [List.append_nil] at later ⊢
          exact .answers later owed
      | sends owed =>
          refine .answers ?_ owed
          rw [commands_append, console_append]
          exact (List.append_nil (commands past)).symm ▸ later.sends
      | takes place =>
          refine .reads place (commands_append ..) ?_ (.processing _)
          rw [console_append]
          exact (List.append_nil (console past)).symm ▸ later
  | @reads from_ earlier command place taken transcript reads =>
      obtain rfl := TaskPoint.monitor.inj (here.symm.trans place)
      have asked : Asked past earlier.length past :=
        ⟨List.prefix_rfl, by rw [taken, List.length_append, List.length_singleton]⟩
      obtain ⟨rfl, decided⟩ := reads.acts observed asked acted
      rw [List.append_nil]
      cases decided with
      | reads place reads => exact .reads place taken transcript reads
      | answers answer owes =>
          refine .answers ?_ owes
          rw [taken, List.zipIdx_append]
          exact transcript.takes (by simpa using answer)

/-- A call of the monitor returns. -/
theorem returns
    {call : Call} {point : Point} {result : StepResult} {reply : Reply} {system : System}
    (session : Session image past release) (ok : ReleaseOk image release)
    (run : (forge cfg).Run createsBeforeStart (past.flatMap ReleaseEvent.shown) release.system)
    (active : release.system.activeThread = some (.task 2))
    (inCall : release.system.frames (.task 2) = .inCall call point)
    (stepped : call.step cfg release.system.cpu release.system.kernel release.system.memory 2
      point = some result)
    (replied : result.outcome = .reply reply) :
    Session image past ((release.settle system).resume reply (.task 2)) := by
  have running := ((Core.of_run run).active_current active).running
  have asked := ok.request_of_frame running inCall
  have fits := (ok.deployed running).fits 2
  have succeeded := ok.succeeds (run.mono fun _ _ _ => trivial) active inCall stepped replied
  have resumed : ((release.settle system).resume reply (.task 2)).tasks 2 =
      Release.resumeTask reply (release.tasks 2) := Release.setPoint_tasks_self ..
  generalize place : release.tasks 2 = from_ at asked fits resumed
  cases session with
  | answers transcript owes =>
      rw [place] at owes
      cases asked with
      | pauses =>
          obtain rfl := succeeded.resolve_left (by rintro ⟨⟩)
          cases owes
          refine .answers transcript ?_
          rw [resumed]
          exact .polling
      | checks => cases owes
      | sends | rests | receives => cases fits
  | @reads reading earlier command standing taken transcript reads =>
      obtain rfl := place.symm.trans standing
      cases asked with
      | checks =>
          cases point with
          | entry =>
              obtain rfl := Option.some.inj stepped
              obtain rfl := Outcome.reply.inj replied
              cases reads
              exact .reads resumed taken transcript
                (.readingAsserts (kernelReport_inOrder ok run active))
          | _ => cases stepped
      | pauses => cases reads

/-- Every step of the image keeps the session. -/
theorem step
    {action : ReleaseAction} (session : Session image past release)
    (run : (releaseMachine image).Run soundSwitches past release)
    (step : ReleaseStepped image release action next emitted) :
    Session image (past ++ emitted) next := by
  have ok := (ReleaseSound.of_run run).ok
  have kernelRun := release_run run
  have core := Core.of_run kernelRun
  cases step with
  | exception => exact session.aside (.settles ..)
  | invokes => exact session.aside (.settles ..)
  | advances => exact session.aside (.settles ..)
  | @returns _ thread _ _ _ reply system events active inCall stepped outcome moved =>
      by_cases own : thread = .task 2
      · subst own
        exact (session.returns ok kernelRun active inCall stepped outcome).aside
          (.of_kernel rfl rfl events)
      · refine session.aside (.of_kernel ?_ ?_ events)
        all_goals cases thread with
        | boot =>
            simp only [Release.resume, Release.resumeBoot]
            split <;> rfl
        | task index => first
          | rfl
          | exact Release.setPoint_tasks_of_ne _ _ fun same => own (congrArg Thread.task same.symm)
  | @acts _ thread _ _ active user requested acted =>
      by_cases own : thread = .task 2
      · subst own
        have runs := core.active_current active
        have registered := core.current_lt runs.currentTask
        have hosts := ok.hosts 2 registered
        have fits := (ok.deployed runs.running).fits 2
        simp only [Release.act] at acted
        split at acted
        · rename_i start
          obtain ⟨point, entered, same⟩ := Option.map_eq_some_iff.mp acted
          obtain ⟨rfl, rfl⟩ := Prod.mk.inj same
          rw [List.append_nil]
          exact session.enters start (ReleaseImage.enter_fits hosts (by decide) entered) entered
        · rename_i place
          rw [place] at fits
          cases fits
        · rename_i place
          rw [place] at fits
          cases fits
        · exact session.acts (.of_run run active) ‹_› acted
      · refine session.aside (.acts (fun index => ?_) own acted)
        cases running : release.system.kernel.running with
        | true => exact (ok.deployed running).fits index
        | false =>
            rw [(ok.booting running).unentered index]
            trivial

theorem of_run (run : (releaseMachine image).Run soundSwitches past release) :
    Session image past release := by
  refine (run.invariant (motive := fun events release =>
    (releaseMachine image).Run soundSwitches events release ∧ Session image events release)
    ⟨.refl, .answers .opens .start⟩ ?_).2
  rintro events emitted middle next action ⟨reached, session⟩ sound stepped
  exact ⟨reached.tail sound stepped, session.step reached (Release.stepped stepped)⟩

end Session

/-- What the image has sent is the monitor's greeting and its answers to the bytes taken, in
order, up to a rest of the last answer; only the last byte may still be without an answer, and
when the monitor polls or sleeps, it has answered all of them completely. -/
theorem monitor_session
    {cfg : Config} {image : ReleaseImage cfg} {events : List ReleaseEvent} {release : Release}
    (run : (releaseMachine image).Run soundSwitches events release) :
    ∃ answered answers rest, answered <+: (commands events).zipIdx ∧
      (commands events).length ≤ answered.length + 1 ∧
      List.Forall₂ (Answer image events) answered answers ∧
      console events ++ rest = monitorGreeting ++ answers.flatten ∧
      rest <:+ answers.getLastD monitorGreeting ∧
      (rest ≠ [] → answered.length = (commands events).length) ∧
      (release.tasks 2 = .monitor .polling ∨ release.tasks 2 = .monitor .sleeping →
        answered.length = (commands events).length ∧ rest = []) := by
  cases Session.of_run run with
  | @answers rest transcript owes =>
      obtain ⟨answers, answered, text, last⟩ := transcript.answered
      refine ⟨_, answers, rest, List.prefix_rfl, ?_, answered, text, last, fun _ => ?_,
        fun place => ⟨?_, ?_⟩⟩
      · rw [List.length_zipIdx]
        exact Nat.le_succ _
      · exact List.length_zipIdx ..
      · exact List.length_zipIdx ..
      · rcases place with place | place <;> rw [place] at owes <;> cases owes <;> rfl
  | @reads point earlier command place taken transcript reads =>
      obtain ⟨answers, answered, text, last⟩ := transcript.answered
      refine ⟨_, answers, [], ?_, ?_, answered, text, last, fun filled => absurd rfl filled,
        fun idle => ?_⟩
      · rw [taken, List.zipIdx_append]
        exact List.prefix_append ..
      · rw [taken, List.length_append, List.length_zipIdx, List.length_singleton]
      · rcases idle with idle | idle <;> cases place.symm.trans idle <;> cases reads

/-- After the greeting a `k` arrives and is answered. -/
def ReleaseImage.questioned {cfg : Config} (image : ReleaseImage cfg) : List ReleaseAction :=
  image.opening ++ ReleaseAction.proceed (monitorGreeting.length + 5) ++
    [.run ⟨usartSrRxne, 107⟩] ++
    ReleaseAction.proceed ((lineText kernelInOrder.items).length + 7)

/-- The console of this run. -/
theorem kernel_question_answered :
    ∃ events release, (releaseMachine ReleaseImage.default).Run soundSwitches events release ∧
      commands events = [107] ∧
      console events = monitorGreeting ++ lineText kernelInOrder.items := by
  obtain ⟨events, release, run, checked⟩ :=
    Machine.RunFrom.exists_of_execFrom (releaseMachine ReleaseImage.default) soundSwitches
      Release.reset ReleaseImage.default.questioned
      (fun events release => decide (release.tasks 2 = .monitor .polling ∧
        commands events = [107])) (by decide +kernel)
  obtain ⟨idle, taken⟩ := of_decide_eq_true checked
  obtain ⟨answered, answers, rest, past, _, replies, text, _, _, complete⟩ := monitor_session run
  obtain ⟨all, rfl⟩ := complete (Or.inl idle)
  have whole := past.eq_of_length (all.trans List.length_zipIdx.symm)
  rw [taken] at whole
  subst whole
  cases replies with
  | cons answer none =>
      cases none
      refine ⟨events, release, run, taken, ?_⟩
      rw [List.append_nil] at text
      rw [text, List.flatten_singleton]
      cases answer with
      | kernel => rfl
      | skips newline => exact absurd newline (by decide)
      | helps asks => exact absurd asks (by decide)
      | unknown other => exact absurd other (by decide)

end ForgeKernel
