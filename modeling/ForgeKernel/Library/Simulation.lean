import ForgeKernel.Library.Machine

/-!
# Projections of machines

A machine whose steps are runs of another machine, seen through a function on
states and a translation of events.  Every run of the first machine is then a run
of the second one, so whatever holds along the runs of the second machine may be
used step by step in an invariant of the first.
-/

namespace Machines
namespace Machine

variable {σ α ε τ β δ : Type*}

/-- Each allowed step of `lower` is a run of `upper` that shows the same events. -/
structure Projects
    (lower : Machine σ α ε) (upper : Machine τ β δ)
    (lowerAllowed : σ → α → Prop) (upperAllowed : τ → β → Prop)
    (view : σ → τ) (shown : ε → List δ) : Prop where
  initial : view lower.initial = upper.initial
  step : ∀ {state next : σ} {action : α} {emitted : List ε},
    lowerAllowed state action → lower.step state action = some (next, emitted) →
    upper.RunFrom upperAllowed (view state) (emitted.flatMap shown) (view next)

namespace Projects

variable {lower : Machine σ α ε} {upper : Machine τ β δ}
  {lowerAllowed : σ → α → Prop} {upperAllowed : τ → β → Prop}
  {view : σ → τ} {shown : ε → List δ} {start finish : σ} {events : List ε}

/-- Runs project to runs. -/
theorem run
    (projects : Projects lower upper lowerAllowed upperAllowed view shown)
    (run : lower.Run lowerAllowed events finish) :
    upper.Run upperAllowed (events.flatMap shown) (view finish) := by
  refine run.invariant (motive := fun events finish =>
    upper.Run upperAllowed (events.flatMap shown) (view finish)) ?_ ?_
  · rw [projects.initial]
    exact .refl
  · intro events emitted middle next action reached permitted stepped
    rw [List.flatMap_append]
    exact reached.trans (projects.step permitted stepped)

/-- An invariant along the runs of `lower` whose step may use the run of `upper`
reached so far. -/
theorem invariant
    {motive : List ε → σ → Prop}
    (projects : Projects lower upper lowerAllowed upperAllowed view shown)
    (run : lower.Run lowerAllowed events finish)
    (initially : motive [] lower.initial)
    (preserved : ∀ events emitted middle next action,
      upper.Run upperAllowed (events.flatMap shown) (view middle) →
      motive events middle → lowerAllowed middle action →
      lower.step middle action = some (next, emitted) →
      motive (events ++ emitted) next) :
    motive events finish := by
  refine (run.invariant (motive := fun events finish =>
    lower.Run lowerAllowed events finish ∧ motive events finish) ⟨.refl, initially⟩ ?_).2
  rintro events emitted middle next action ⟨reached, held⟩ permitted stepped
  exact ⟨reached.tail permitted stepped,
    preserved events emitted middle next action (projects.run reached) held permitted stepped⟩

end Projects
end Machine
end Machines
