import Mathlib.Logic.Relation
import Mathlib.Data.List.Basic

/-!
# Deterministic machines with labelled steps

A machine moves by explicit actions and emits observable events.  Every source
of nondeterminism is an action, so a run is a finite list of actions and can be
executed.  Runs may be restricted to steps that satisfy a side condition, which
is how assumptions on an environment are stated.
-/

namespace Machines

/-- A machine given by its initial state and a partial step function. -/
structure Machine (σ α ε : Type*) where
  /-- State before the first step. -/
  initial : σ
  /-- Successor state and emitted events, or `none` when the action is disabled. -/
  step : σ → α → Option (σ × List ε)

namespace Machine

variable {σ α ε : Type*} (machine : Machine σ α ε)

/-- Finite runs from `start` whose every step is allowed, with the events they
emit in order. -/
inductive RunFrom (allowed : σ → α → Prop) (start : σ) : List ε → σ → Prop
  | refl : RunFrom allowed start [] start
  | tail {events emitted : List ε} {middle finish : σ} {action : α} :
      RunFrom allowed start events middle →
      allowed middle action →
      machine.step middle action = some (finish, emitted) →
      RunFrom allowed start (events ++ emitted) finish

/-- Runs from the initial state. -/
def Run (allowed : σ → α → Prop) (events : List ε) (state : σ) : Prop :=
  machine.RunFrom allowed machine.initial events state

/-- Every action is allowed. -/
def anyStep : σ → α → Prop := fun _ _ => True

/-- Execute a list of actions, checking the side condition at each step. -/
def execFrom (allowed : σ → α → Prop) [∀ state action, Decidable (allowed state action)] :
    σ → List α → Option (σ × List ε)
  | state, [] => some (state, [])
  | state, action :: actions =>
      if allowed state action then
        (machine.step state action).bind fun next =>
          (execFrom allowed next.1 actions).map fun rest =>
            (rest.1, next.2 ++ rest.2)
      else none

variable {machine}

/-- Predicates on the emitted events and the state that hold at the start and
are preserved by every allowed step hold along every run. -/
theorem RunFrom.invariant
    {allowed : σ → α → Prop} {start finish : σ} {events : List ε}
    {motive : List ε → σ → Prop}
    (run : machine.RunFrom allowed start events finish)
    (initially : motive [] start)
    (preserved : ∀ events emitted middle next action,
      motive events middle → allowed middle action →
      machine.step middle action = some (next, emitted) →
      motive (events ++ emitted) next) :
    motive events finish := by
  induction run with
  | refl => exact initially
  | tail _ permitted stepped inductionHypothesis =>
      exact preserved _ _ _ _ _ inductionHypothesis permitted stepped

/-- State invariants, with no reference to the events. -/
theorem RunFrom.stateInvariant
    {allowed : σ → α → Prop} {start finish : σ} {events : List ε}
    {motive : σ → Prop}
    (run : machine.RunFrom allowed start events finish)
    (initially : motive start)
    (preserved : ∀ emitted middle next action,
      motive middle → allowed middle action →
      machine.step middle action = some (next, emitted) → motive next) :
    motive finish :=
  run.invariant (motive := fun _ state => motive state) initially
    fun _ emitted middle next action held permitted stepped =>
      preserved emitted middle next action held permitted stepped

/-- Runs compose. -/
theorem RunFrom.trans
    {allowed : σ → α → Prop} {start middle finish : σ} {before after : List ε}
    (first : machine.RunFrom allowed start before middle)
    (second : machine.RunFrom allowed middle after finish) :
    machine.RunFrom allowed start (before ++ after) finish := by
  induction second with
  | refl => simpa using first
  | tail _ permitted stepped inductionHypothesis =>
      rw [← List.append_assoc]
      exact inductionHypothesis.tail permitted stepped

/-- A run under a stronger side condition is a run under a weaker one. -/
theorem RunFrom.mono
    {strong weak : σ → α → Prop} {start finish : σ} {events : List ε}
    (run : machine.RunFrom strong start events finish)
    (weaker : ∀ state action, strong state action → weak state action) :
    machine.RunFrom weak start events finish := by
  induction run with
  | refl => exact .refl
  | tail _ permitted stepped inductionHypothesis =>
      exact inductionHypothesis.tail (weaker _ _ permitted) stepped

/-- The weaker side condition is needed in reached states only. -/
theorem RunFrom.mono_reached
    {strong weak : σ → α → Prop} {start finish : σ} {events : List ε}
    (run : machine.RunFrom strong start events finish)
    (weaker : ∀ events state action, machine.RunFrom strong start events state →
      strong state action → weak state action) :
    machine.RunFrom weak start events finish := by
  induction run with
  | refl => exact .refl
  | tail earlier permitted stepped inductionHypothesis =>
      exact inductionHypothesis.tail (weaker _ _ _ earlier permitted) stepped

/-- A single allowed step is a run. -/
theorem RunFrom.single
    {allowed : σ → α → Prop} {start finish : σ} {emitted : List ε} {action : α}
    (permitted : allowed start action)
    (stepped : machine.step start action = some (finish, emitted)) :
    machine.RunFrom allowed start emitted finish := by
  have run : machine.RunFrom allowed start ([] ++ emitted) finish :=
    RunFrom.refl.tail permitted stepped
  exact run

/-- Executing a list of actions yields a run. -/
theorem RunFrom.of_execFrom
    {allowed : σ → α → Prop} [∀ state action, Decidable (allowed state action)]
    {start finish : σ} {events : List ε} {actions : List α}
    (executed : machine.execFrom allowed start actions = some (finish, events)) :
    machine.RunFrom allowed start events finish := by
  induction actions generalizing start events with
  | nil =>
      simp only [execFrom, Option.some.injEq, Prod.mk.injEq] at executed
      obtain ⟨rfl, rfl⟩ := executed
      exact .refl
  | cons action actions inductionHypothesis =>
      simp only [execFrom] at executed
      split at executed
      · rename_i permitted
        obtain ⟨⟨next, emitted⟩, stepped, executed⟩ := Option.bind_eq_some_iff.mp executed
        obtain ⟨⟨last, rest⟩, remaining, packed⟩ := Option.map_eq_some_iff.mp executed
        simp only [Prod.mk.injEq] at packed
        obtain ⟨rfl, rfl⟩ := packed
        exact (RunFrom.single permitted stepped).trans (inductionHypothesis remaining)
      · simp at executed

/-- A check that succeeds at the end of an execution holds at the end of a run. -/
theorem RunFrom.exists_of_execFrom
    (machine : Machine σ α ε) (allowed : σ → α → Prop)
    [∀ state action, Decidable (allowed state action)]
    (start : σ) (actions : List α) (check : List ε → σ → Bool)
    (checked : (machine.execFrom allowed start actions).any
      (fun reached => check reached.2 reached.1) = true) :
    ∃ events finish, machine.RunFrom allowed start events finish ∧
      check events finish = true := by
  cases executed : machine.execFrom allowed start actions with
  | none =>
      rw [executed] at checked
      exact absurd checked Bool.false_ne_true
  | some reached =>
      rw [executed] at checked
      exact ⟨reached.2, reached.1, .of_execFrom executed, checked⟩

instance anyStepDecidable (state : σ) (action : α) : Decidable (anyStep state action) :=
  .isTrue trivial

end Machine
end Machines
