import ForgeKernel.Invariant.ReleaseSchedule
import ForgeKernel.Property.TraceOfRuns

/-!
# The trace of the release image

The boot code switches the trace ring on before the first event, and no later call
touches it.
-/

namespace ForgeKernel

open Machines

/-- No task of the image calls the trace interface. -/
theorem TaskRequest.untraced
    {cfg : Config} {image : ReleaseImage cfg} {point : TaskPoint} {call : Call}
    (asked : TaskRequest image point call) : call.traceOperation = none := by
  cases asked <;> rfl

/-- The trace stays enabled. -/
theorem tracesThroughout.enabled
    {cfg : Config} {system after : System} {action : Action} {events : List Event}
    (allowed : tracesThroughout system action)
    (step : system.step cfg action = some (after, events))
    (enabled : system.kernel.trace.enabled = true) : after.kernel.trace.enabled = true := by
  rcases System.step_recorded step with ⟨operation, performs, rfl, retraced⟩ |
    ⟨calls, _, entered⟩
  · obtain ⟨rfl, _⟩ := allowed rfl operation performs
    rw [retraced]
    rfl
  · rw [entered, (Trace.foldl_enter ..).1]
    exact enabled

/-- A step of the boot code does not pass over `fr_trace_init`. -/
theorem Release.bootAct_rank
    {release next : Release} (acted : release.bootAct release.boot = some next) :
    next.boot = .halted ∨ (release.boot.rank ≤ 3 ∧ next.boot.rank ≤ 3) ∨
      (3 < release.boot.rank ∧ 3 < next.boot.rank) := by
  cases place : release.boot <;> grind [Release.bootAct, BootPoint.rank]

theorem Release.resumeBoot_rank (release : Release) (reply : Reply) :
    3 < (release.resumeBoot reply).boot.rank := by
  unfold Release.resumeBoot
  split <;> simp [BootPoint.rank]

/-- The ring is off and no event has happened, until `fr_trace_init` is done; then it is on. -/
structure Release.Traced (cfg : Config) (release : Release) (past : List Event) : Prop where
  run : (forge cfg).Run tracesThroughout past release.system
  untraced : release.boot.rank ≤ 3 → release.system.kernel.trace.calls = []
  traced : 3 < release.boot.rank → release.system.kernel.trace.enabled = true

namespace Release.Traced

variable {cfg : Config} {image : ReleaseImage cfg} {release next : Release}
  {past : List Event}

/-- Inside a call of the image a step may be taken. -/
theorem permits
    {thread : Thread} {call : Call} {point : Point} {result : StepResult}
    (traced : release.Traced cfg past) (ok : ReleaseOk image release)
    (active : release.system.activeThread = some thread)
    (inCall : release.system.frames thread = .inCall call point)
    (stepped : call.step cfg release.system.cpu release.system.kernel release.system.memory
      thread.slot point = some result) : tracesThroughout release.system .advance := by
  have core := Core.of_run traced.run
  intro _ operation performs
  simp only [System.tracing, active, Option.bind_some, inCall, Option.mem_def] at performs
  rcases (core.active_cases active).2 with ⟨rfl, stopped⟩ | ⟨index, rfl, runs, _⟩
  · have booting := ok.booting stopped
    cases booting.advanced stopped (core.active_cases active).1 inCall stepped with
    | traces place =>
        refine ⟨(Option.some.inj performs).symm, traced.untraced ?_⟩
        rw [place]
        decide
    | _ => cases performs
  · have asked := ok.request_of_frame runs.running inCall
    rw [asked.untraced] at performs
    cases performs

/-- A kernel step that leaves the boot code where it is. -/
theorem moves
    {taken : Action} {system : System} {during : List Event}
    (traced : release.Traced cfg past) (allowed : tracesThroughout release.system taken)
    (moved : release.system.step cfg taken = some (system, during))
    (silent : release.boot.rank ≤ 3 → system.kernel.trace = release.system.kernel.trace) :
    (release.settle system).Traced cfg (past ++ during) where
  run := traced.run.tail allowed moved
  untraced early := (congrArg Trace.calls (silent early)).trans (traced.untraced early)
  traced late := allowed.enabled moved (traced.traced late)

/-- Program steps leave the trace alone. -/
theorem acts
    {input : UsartInput} {thread : Thread} {events : List ReleaseEvent}
    (traced : release.Traced cfg past) (ok : ReleaseOk image release) (after : ReleaseOk image next)
    (active : release.system.activeThread = some thread)
    (user : release.system.frames thread = .user)
    (acted : release.act image input thread = some (next, events)) :
    next.Traced cfg past := by
  have core := Core.of_run traced.run
  obtain ⟨_, kernel, _⟩ := Release.act_run active user acted
  have run : (forge cfg).RunFrom tracesThroughout release.system [] next.system :=
    Release.act_runFrom (fun _ _ _ => by rintro ⟨⟩) active user acted
  have reached := traced.run.trans run
  rw [List.append_nil] at reached
  refine ⟨reached, ?_, ?_⟩
  all_goals
    rw [kernel]
    rcases (core.active_cases active).2 with ⟨rfl, stopped⟩ | ⟨index, rfl, runs, _⟩
  · obtain ⟨booted, moved, same⟩ := Option.map_eq_some_iff.mp acted
    obtain ⟨rfl, _⟩ := Prod.mk.inj same
    rcases Release.bootAct_rank moved with halted | ⟨early, _⟩ | ⟨_, late⟩
    · exact absurd halted (after.booting (kernel ▸ stopped)).proceeds
    · exact fun _ => traced.untraced early
    · exact fun early => absurd early (by omega)
  · rw [(after.deployed (kernel ▸ runs.running)).boot]
    exact fun early => absurd early (by decide)
  · obtain ⟨booted, moved, same⟩ := Option.map_eq_some_iff.mp acted
    obtain ⟨rfl, _⟩ := Prod.mk.inj same
    rcases Release.bootAct_rank moved with halted | ⟨_, early⟩ | ⟨late, _⟩
    · exact absurd halted (after.booting (kernel ▸ stopped)).proceeds
    · exact fun late => absurd late (by omega)
    · exact fun _ => traced.traced late
  · exact fun _ => traced.traced ((ok.deployed runs.running).boot ▸ by decide)

/-- The end of a call keeps the history. -/
theorem returns
    {thread : Thread} {call : Call} {point : Point} {result : StepResult} {reply : Reply}
    {system : System} {during : List Event}
    (traced : release.Traced cfg past) (ok : ReleaseOk image release)
    (active : release.system.activeThread = some thread)
    (inCall : release.system.frames thread = .inCall call point)
    (stepped : call.step cfg release.system.cpu release.system.kernel release.system.memory
      thread.slot point = some result)
    (outcome : result.outcome = .reply reply)
    (moved : release.system.step cfg .advance = some (system, during)) :
    ((release.settle system).resume reply thread).Traced cfg (past ++ during) := by
  have core := Core.of_run traced.run
  have allowed := traced.permits ok active inCall stepped
  refine ⟨?_, ?_, ?_⟩
  all_goals rw [Release.resume_system]
  · exact traced.run.tail allowed moved
  all_goals rcases (core.active_cases active).2 with ⟨rfl, stopped⟩ | ⟨index, rfl, runs, _⟩
  · exact fun early => absurd early (Nat.not_le.mpr ((release.settle system).resumeBoot_rank reply))
  · change release.boot.rank ≤ 3 → _
    rw [(ok.deployed runs.running).boot]
    exact fun early => absurd early (by decide)
  · intro _
    have booting := ok.booting stopped
    have same := (System.advance_result active inCall stepped moved).1
    cases booting.advanced stopped (core.active_cases active).1 inCall stepped with
    | traces =>
        rw [same]
        rfl
    | queues place => exact allowed.enabled moved (traced.traced (place ▸ by decide))
    | publishes requested =>
        refine allowed.enabled moved (traced.traced ?_)
        generalize release.boot = boot at requested
        cases boot with
        | producer | consumer | monitor => decide
        | _ => cases requested
    | _ => cases outcome
  · exact fun _ => allowed.enabled moved
      (traced.traced ((ok.deployed runs.running).boot ▸ by decide))

/-- Every step keeps the history. -/
theorem step
    {action : ReleaseAction} {events : List ReleaseEvent}
    (traced : release.Traced cfg past) (ok : ReleaseOk image release)
    (step : ReleaseStepped image release action next events) :
    next.Traced cfg (past ++ events.flatMap ReleaseEvent.shown) := by
  have core := Core.of_run traced.run
  have run : Run cfg past release.system := traced.run.mono fun _ _ _ => trivial
  have after := ok.step run step
  have stops : release.boot.rank ≤ 3 → release.system.kernel.running = false := by
    intro early
    by_contra running
    rw [(ok.deployed (Bool.not_eq_false _ ▸ running)).boot] at early
    exact absurd early (by decide)
  cases step with
  | exception exceptional moved =>
      rw [ReleaseEvent.shown_kernel]
      refine traced.moves (fun advances => ?_) moved fun early => ?_
      · rcases exceptional with ⟨_, rfl⟩ | ⟨_, _, rfl⟩ <;> cases advances
      · rw [System.exception_stopped run (stops early)
          (exceptional.imp And.right fun ⟨psp, _, same⟩ => ⟨psp, same⟩) moved]
        rfl
  | invokes active requested moved =>
      rw [ReleaseEvent.shown_kernel]
      refine traced.moves (fun advances => by cases advances) moved fun early => ?_
      rw [(System.invoke_result active moved).1]
      rfl
  | @advances _ thread _ _ _ _ _ _ active inCall stepped outcome moved =>
      rw [ReleaseEvent.shown_kernel]
      refine traced.moves (traced.permits ok active inCall stepped) moved fun early => ?_
      have stopped := stops early
      obtain ⟨live, ⟨rfl, _⟩ | ⟨current, _, runs, _⟩⟩ := core.active_cases active
      · exfalso
        cases (ok.booting stopped).advanced stopped live inCall stepped with
        | traces | queues | publishes => cases outcome
        | starts place =>
            rw [place] at early
            exact absurd early (by decide)
        | reserves requested | builds requested =>
            generalize release.boot = boot at requested early
            cases boot with
            | producer | consumer | monitor => exact absurd early (by decide)
            | _ => cases requested
      · exact absurd (stopped.symm.trans runs.running) Bool.false_ne_true
  | returns active inCall stepped outcome moved =>
      rw [ReleaseEvent.shown_kernel]
      exact traced.returns ok active inCall stepped outcome moved
  | acts active user requested acted =>
      rw [(Release.act_system acted).1, List.append_nil]
      exact traced.acts ok after active user acted

/-- Along every run the trace holds the history since its initialization. -/
theorem of_run
    {allowed : Release → ReleaseAction → Prop} {events : List ReleaseEvent}
    (run : (releaseMachine image).Run allowed events release) :
    release.Traced cfg (events.flatMap ReleaseEvent.shown) := by
  have projects : Machine.Projects (releaseMachine image) (forge cfg) allowed Machine.anyStep
      Release.system ReleaseEvent.shown :=
    release_projects (fun _ _ _ _ => trivial) fun _ _ _ => trivial
  refine (projects.invariant (motive := fun events release => ReleaseOk image release ∧
    release.Traced cfg (events.flatMap ReleaseEvent.shown)) run ⟨.initial image, .refl,
      fun _ => rfl, fun late => absurd late (Nat.not_lt_zero 3)⟩ ?_).2
  rintro events emitted middle next action reached ⟨ok, traced⟩ _ stepped
  have step := Release.stepped stepped
  rw [List.flatMap_append]
  exact ⟨ok.step reached step, traced.step ok step⟩

end Release.Traced

end ForgeKernel
