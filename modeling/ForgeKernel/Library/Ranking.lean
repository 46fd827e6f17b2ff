import Mathlib.Data.List.Chain
import Mathlib.Logic.Relation
import Mathlib.Order.Lattice.Nat

/-!
# Relations that climb a rank

A relation each of whose steps raises a natural number has no cycle.  When the
number is bounded, every walk is at most as long as the bound and can be
continued to a node with no successor.  This is the usual argument for a
hierarchy of resources.
-/

namespace Ranking

variable {α : Type*} {r : α → α → Prop} {rank : α → Nat}

/-- Every step of the relation raises the rank. -/
def Climbs (r : α → α → Prop) (rank : α → Nat) : Prop :=
  ∀ ⦃before after⦄, r before after → rank before < rank after

namespace Climbs

/-- A walk raises the rank. -/
theorem lt_of_transGen
    (climbs : Climbs r rank) {start finish : α} (walk : Relation.TransGen r start finish) :
    rank start < rank finish := by
  induction walk with
  | single step => exact climbs step
  | tail _ step inductionHypothesis => exact inductionHypothesis.trans (climbs step)

/-- A climbing relation has no cycle. -/
theorem acyclic (climbs : Climbs r rank) (node : α) : ¬Relation.TransGen r node node :=
  fun cycle => (climbs.lt_of_transGen cycle).ne rfl

/-- A walk is no longer than what is left below the bound. -/
theorem chain_length_le
    {bound : Nat} (climbs : Climbs r rank) (bounded : ∀ node, rank node ≤ bound)
    {start : α} {walk : List α} (chain : List.IsChain r (start :: walk)) :
    rank start + walk.length ≤ bound := by
  induction walk generalizing start with
  | nil => exact bounded start
  | cons next walk inductionHypothesis =>
      obtain ⟨step, rest⟩ := List.isChain_cons_cons.mp chain
      have remaining := inductionHypothesis rest
      have raised := climbs step
      rw [List.length_cons]
      omega

/-- Every node leads to one with no successor. -/
theorem exists_terminal
    {bound : Nat} (climbs : Climbs r rank) (bounded : ∀ node, rank node ≤ bound) (start : α) :
    ∃ finish, Relation.ReflTransGen r start finish ∧ ∀ next, ¬r finish next := by
  induction fuel : bound - rank start using Nat.strong_induction_on generalizing start with
  | _ fuel inductionHypothesis =>
      by_cases moves : ∃ next, r start next
      · obtain ⟨next, step⟩ := moves
        have raised := climbs step
        have limit := bounded next
        obtain ⟨finish, reaches, stops⟩ :=
          inductionHypothesis (bound - rank next) (by omega) next rfl
        exact ⟨finish, .head step reaches, stops⟩
      · exact ⟨start, .refl, not_exists.mp moves⟩

end Climbs
end Ranking
