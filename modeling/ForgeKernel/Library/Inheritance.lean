import Mathlib.Data.Finset.Card
import Mathlib.Data.Fintype.Basic
import Mathlib.Logic.Relation
import Mathlib.Order.Bounds.Basic

/-!
# Priority inheritance over a waits-for graph

Every node waits for at most one other node.  Inherited priorities are
consistent when each node carries the maximum of its own base priority and the
priorities of its direct waiters.  Two loops maintain consistency: `donate`
pushes the priority of a new waiter up its chain, and `recompute` re-evaluates a
chain after a waiter has left.  Both stop after a bounded number of nodes, and
chains may run into a cycle; the results below cover that case.
-/

namespace Inheritance

variable {ν : Type*}

/-- One waits-for edge. -/
def Edge (next : ν → Option ν) (waiter owner : ν) : Prop :=
  next waiter = some owner

/-- `value` is the maximum of the base priority of `node` and the priorities of
its direct waiters. -/
structure IsEffective
    (next : ν → Option ν) (base priority : ν → Nat) (node : ν) (value : Nat) : Prop where
  base_le : base node ≤ value
  waiter_le : ∀ waiter, next waiter = some node → priority waiter ≤ value
  attained : value = base node ∨
    ∃ waiter, next waiter = some node ∧ priority waiter = value

/-- No node has less than its base priority or than one of its waiters. -/
structure Bounded (next : ν → Option ν) (base priority : ν → Nat) : Prop where
  base_le : ∀ node, base node ≤ priority node
  waiter_le : ∀ waiter owner, next waiter = some owner → priority waiter ≤ priority owner

/-- Every node carries exactly its effective priority. -/
def Consistent (next : ν → Option ν) (base priority : ν → Nat) : Prop :=
  ∀ node, IsEffective next base priority node (priority node)

/-- Consistent priorities are bounded by those of the tasks that wait. -/
theorem Consistent.bounded
    {next : ν → Option ν} {base priority : ν → Nat}
    (consistent : Consistent next base priority) : Bounded next base priority where
  base_le node := (consistent node).base_le
  waiter_le waiter owner edge := (consistent owner).waiter_le waiter edge

namespace Bounded

variable {next : ν → Option ν} {base priority : ν → Nat}

/-- Priorities never decrease along a chain. -/
theorem le_of_reaches
    (bounded : Bounded next base priority) {start finish : ν}
    (reaches : Relation.ReflTransGen (Edge next) start finish) :
    priority start ≤ priority finish := by
  induction reaches with
  | refl => exact le_rfl
  | tail _ edge inductionHypothesis =>
      exact inductionHypothesis.trans (bounded.waiter_le _ _ edge)

/-- A node on a cycle has a direct waiter of equal priority on the same cycle. -/
theorem exists_equal_waiter
    (bounded : Bounded next base priority) {node : ν}
    (cycle : Relation.TransGen (Edge next) node node) :
    ∃ waiter, next waiter = some node ∧
      Relation.TransGen (Edge next) waiter waiter ∧ priority waiter = priority node := by
  obtain ⟨waiter, toWaiter, edge⟩ := Relation.TransGen.tail'_iff.mp cycle
  refine ⟨waiter, edge, ?_, ?_⟩
  · exact Relation.TransGen.head' edge toWaiter
  · exact le_antisymm (bounded.waiter_le _ _ edge) (bounded.le_of_reaches toWaiter)

end Bounded

/-! ## Donation -/

section Loops

variable [DecidableEq ν]

/-- Push a donated priority up the chain that starts at `node`. -/
def donate (next : ν → Option ν) : Nat → ν → Nat → (ν → Nat) → ν → Nat
  | 0, _, _, priority => priority
  | fuel + 1, node, donated, priority =>
      let raised := Function.update priority node (max (priority node) donated)
      match next node with
      | none => raised
      | some owner => donate next fuel owner (raised node) raised

/-- Chain prefixes walked by the two loops: every visited node leads to the
current one, only the last edge leaves the visited set, and the fuel covers the
nodes not visited yet unless the walk has closed a cycle. -/
structure Walk
    (next : ν → Option ν) (nodes visited : Finset ν) (node : ν) (fuel : Nat) : Prop where
  node_mem : node ∈ nodes
  closed : ∀ waiter owner, next waiter = some owner → owner ∈ nodes
  leads : ∀ prior ∈ visited, Relation.TransGen (Edge next) prior node
  leaves : ∀ prior ∈ visited, ∀ owner, next prior = some owner →
    owner ∈ visited ∨ owner = node
  enough : (nodes \ visited).card ≤ fuel ∨ node ∈ visited

namespace Walk

variable {next : ν → Option ν} {nodes visited : Finset ν} {node : ν} {fuel : Nat}

/-- A walk starts with no visited node and fuel for all of them. -/
theorem start
    (node_mem : node ∈ nodes)
    (closed : ∀ waiter owner, next waiter = some owner → owner ∈ nodes)
    (enough : nodes.card ≤ fuel) : Walk next nodes ∅ node fuel where
  node_mem := node_mem
  closed := closed
  leads prior present := absurd present (Finset.notMem_empty prior)
  leaves prior present := absurd present (Finset.notMem_empty prior)
  enough := Or.inl (by simpa using enough)

/-- Out of fuel, the walk stands on a visited node. -/
theorem mem_visited_of_zero (walk : Walk next nodes visited node 0) : node ∈ visited := by
  rcases walk.enough with covered | present
  · have covers : nodes \ visited = ∅ := Finset.card_eq_zero.mp (Nat.le_zero.mp covered)
    exact Finset.sdiff_eq_empty_iff_subset.mp covers walk.node_mem
  · exact present

/-- Moving along the next edge keeps the walk invariant. -/
theorem advance
    (walk : Walk next nodes visited node (fuel + 1)) {owner : ν}
    (edge : next node = some owner) :
    Walk next nodes (insert node visited) owner fuel where
  node_mem := walk.closed _ _ edge
  closed := walk.closed
  leads prior present := by
    rcases Finset.mem_insert.mp present with rfl | present
    · exact Relation.TransGen.single edge
    · exact (walk.leads prior present).tail edge
  leaves prior present successor step := by
    rcases Finset.mem_insert.mp present with rfl | present
    · exact Or.inr (Option.some.inj (step.symm.trans edge))
    · rcases walk.leaves prior present successor step with inside | rfl
      · exact Or.inl (Finset.mem_insert_of_mem inside)
      · exact Or.inl (Finset.mem_insert_self _ _)
  enough := by
    by_cases seen : node ∈ visited
    · right
      rcases walk.leaves node seen owner edge with inside | rfl
      · exact Finset.mem_insert_of_mem inside
      · exact Finset.mem_insert_self _ _
    · left
      have covered := walk.enough.resolve_right seen
      rw [Finset.sdiff_insert, Finset.card_erase_of_mem
        (Finset.mem_sdiff.mpr ⟨walk.node_mem, seen⟩)]
      omega

/-- Once the walk has closed a cycle, everything reachable from the current
node has been visited. -/
theorem reaches_mem_visited
    (walk : Walk next nodes visited node fuel) (seen : node ∈ visited) {target : ν}
    (reaches : Relation.ReflTransGen (Edge next) node target) : target ∈ visited := by
  induction reaches with
  | refl => exact seen
  | tail _ edge inductionHypothesis =>
      rcases walk.leaves _ inductionHypothesis _ edge with inside | rfl
      · exact inside
      · exact seen

end Walk

section Donate

variable {next : ν → Option ν} {nodes : Finset ν} {priority : ν → Nat} {gift : Nat}

/-- Result of a donation of `gift`: exactly the nodes on the chain from `start`
are raised to at least the gift. -/
def Donated
    (next : ν → Option ν) (start : ν) (gift : Nat) (priority raised : ν → Nat) : Prop :=
  ∀ node,
    (Relation.ReflTransGen (Edge next) start node → raised node = max (priority node) gift) ∧
    (¬Relation.ReflTransGen (Edge next) start node → raised node = priority node)

private theorem donate_walk
    (monotone : ∀ waiter owner, next waiter = some owner →
      max (priority waiter) gift ≤ max (priority owner) gift)
    {start : ν} (fuel : Nat) (node : ν) (donated : Nat) (current : ν → Nat)
    (visited : Finset ν)
    (walk : Walk next nodes visited node fuel)
    (reached : Relation.ReflTransGen (Edge next) start node)
    (visitedReached : ∀ prior ∈ visited, Relation.ReflTransGen (Edge next) start prior)
    (remaining : ∀ target, Relation.ReflTransGen (Edge next) start target →
      target ∈ visited ∨ Relation.ReflTransGen (Edge next) node target)
    (giftLe : gift ≤ donated) (donatedLe : donated ≤ max (priority node) gift)
    (done : ∀ prior ∈ visited, current prior = max (priority prior) gift)
    (untouched : ∀ other, other ∉ visited → current other = priority other) :
    Donated next start gift priority (donate next fuel node donated current) := by
  induction fuel generalizing node donated current visited with
  | zero =>
      have seen := walk.mem_visited_of_zero
      intro target
      refine ⟨fun reaches => ?_, fun unreached => ?_⟩
      · rcases remaining target reaches with inside | further
        · exact done target inside
        · exact done target (walk.reaches_mem_visited seen further)
      · exact untouched target fun inside => unreached (visitedReached target inside)
  | succ fuel inductionHypothesis =>
      -- Both a fresh node and a node met again end at its final value.
      have raisedNode : max (current node) donated = max (priority node) gift := by
        by_cases seen : node ∈ visited
        · rw [done node seen]
          exact max_eq_left donatedLe
        · rw [untouched node seen]
          omega
      have doneAfter : ∀ prior ∈ insert node visited,
          Function.update current node (max (current node) donated) prior =
            max (priority prior) gift := by
        intro prior present
        by_cases same : prior = node
        · subst same
          simpa using raisedNode
        · rw [Function.update_of_ne same]
          exact done prior ((Finset.mem_insert.mp present).resolve_left same)
      have untouchedAfter : ∀ other, other ∉ insert node visited →
          Function.update current node (max (current node) donated) other =
            priority other := by
        intro other absent
        rw [Finset.mem_insert, not_or] at absent
        rw [Function.update_of_ne absent.1]
        exact untouched other absent.2
      have reachedAfter : ∀ prior ∈ insert node visited,
          Relation.ReflTransGen (Edge next) start prior := by
        intro prior present
        rcases Finset.mem_insert.mp present with rfl | present
        · exact reached
        · exact visitedReached prior present
      cases edge : next node with
      | none =>
          simp only [donate, edge]
          intro target
          refine ⟨fun reaches => doneAfter target ?_, fun unreached =>
            untouchedAfter target fun inside => unreached (reachedAfter target inside)⟩
          rcases remaining target reaches with inside | further
          · exact Finset.mem_insert_of_mem inside
          · rcases Relation.ReflTransGen.cases_head further with rfl | ⟨owner, step, _⟩
            · exact Finset.mem_insert_self _ _
            · exact absurd (edge.symm.trans step) (by simp)
      | some owner =>
          simp only [donate, edge, Function.update_self]
          refine inductionHypothesis owner _ _ (insert node visited) (walk.advance edge)
            (reached.tail edge) reachedAfter ?_ ?_ ?_ doneAfter untouchedAfter
          · intro target reaches
            rcases remaining target reaches with inside | further
            · exact Or.inl (Finset.mem_insert_of_mem inside)
            · rcases Relation.ReflTransGen.cases_head further with rfl | ⟨other, step, rest⟩
              · exact Or.inl (Finset.mem_insert_self _ _)
              · have same : other = owner := Option.some.inj (step.symm.trans edge)
                exact Or.inr (same ▸ rest)
          · rw [raisedNode]
            exact le_max_right _ _
          · rw [raisedNode]
            exact monotone node owner edge

/-- With enough fuel, donation raises exactly the chain of its start. -/
theorem donate_donated
    (monotone : ∀ waiter owner, next waiter = some owner →
      max (priority waiter) gift ≤ max (priority owner) gift)
    {start : ν} {fuel : Nat}
    (start_mem : start ∈ nodes)
    (closed : ∀ waiter owner, next waiter = some owner → owner ∈ nodes)
    (enough : nodes.card ≤ fuel) :
    Donated next start gift priority (donate next fuel start gift priority) :=
  donate_walk monotone fuel start gift priority ∅ (Walk.start start_mem closed enough)
    .refl (fun _ present => absurd present (Finset.notMem_empty _))
    (fun _ reaches => Or.inr reaches) le_rfl (le_max_right _ _)
    (fun _ present => absurd present (Finset.notMem_empty _)) (fun _ _ => rfl)

section NewEdge

variable {base : ν → Nat} {before : ν → Option ν} {waiter owner : ν}

/-- With one more edge, an edge is the new one or an old one. -/
theorem edge_cases_of_added
    (added : next = Function.update before waiter (some owner)) {node successor : ν}
    (edge : next node = some successor) :
    (node = waiter ∧ successor = owner) ∨ before node = some successor := by
  by_cases same : node = waiter
  · subst same
    rw [added, Function.update_self] at edge
    exact Or.inl ⟨rfl, (Option.some.inj edge).symm⟩
  · rw [added, Function.update_of_ne same] at edge
    exact Or.inr edge

/-- Old edges stay when an idle node starts to wait. -/
theorem edge_of_added
    (idle : before waiter = none) (added : next = Function.update before waiter (some owner))
    {node successor : ν} (edge : before node = some successor) :
    next node = some successor := by
  rw [added, Function.update_of_ne]
  · exact edge
  · rintro rfl
    simp [idle] at edge

/-- Capped by the priority of the new waiter, priorities still do not decrease along the edges. -/
theorem Bounded.monotone_of_added
    (bounded : Bounded before base priority)
    (added : next = Function.update before waiter (some owner)) (node successor : ν)
    (edge : next node = some successor) :
    max (priority node) (priority waiter) ≤ max (priority successor) (priority waiter) := by
  rcases edge_cases_of_added added edge with ⟨rfl, rfl⟩ | edge
  · exact max_le (le_max_right _ _) (le_max_right _ _)
  · exact max_le_max_right _ (bounded.waiter_le _ _ edge)

/-- Adding the edge `waiter → owner` to a bounded graph and donating the priority of
the new waiter raises exactly the chain of the owner. -/
theorem donate_added
    {fuel : Nat}
    (bounded : Bounded before base priority)
    (added : next = Function.update before waiter (some owner))
    (owner_mem : owner ∈ nodes)
    (closed : ∀ node successor, before node = some successor → successor ∈ nodes)
    (enough : nodes.card ≤ fuel) :
    Donated next owner (priority waiter) priority
      (donate next fuel owner (priority waiter) priority) := by
  refine donate_donated (bounded.monotone_of_added added) owner_mem ?_ enough
  intro node successor edge
  rcases edge_cases_of_added added edge with ⟨rfl, rfl⟩ | edge
  · exact owner_mem
  · exact closed node successor edge

/-- A new edge and its donation keep a graph consistent, also when the new edge
closes a cycle. -/
theorem donate_consistent
    {fuel : Nat}
    (consistent : Consistent before base priority)
    (idle : before waiter = none)
    (added : next = Function.update before waiter (some owner))
    (owner_mem : owner ∈ nodes)
    (closed : ∀ node successor, before node = some successor → successor ∈ nodes)
    (enough : nodes.card ≤ fuel) :
    Consistent next base (donate next fuel owner (priority waiter) priority) := by
  have bounded := consistent.bounded
  have newEdge : next waiter = some owner := by simp [added]
  have monotone := bounded.monotone_of_added added
  have donated := donate_added bounded added owner_mem closed enough
  generalize donate next fuel owner (priority waiter) priority = raised at donated
  have raisedLe : ∀ node, raised node ≤ max (priority node) (priority waiter) := by
    intro node
    by_cases reaches : Relation.ReflTransGen (Edge next) owner node
    · exact ((donated node).1 reaches).le
    · exact ((donated node).2 reaches).le.trans (le_max_left _ _)
  have leRaised : ∀ node, priority node ≤ raised node := by
    intro node
    by_cases reaches : Relation.ReflTransGen (Edge next) owner node
    · exact (le_max_left _ _).trans ((donated node).1 reaches).ge
    · exact ((donated node).2 reaches).ge
  intro node
  refine ⟨(bounded.base_le node).trans (leRaised node), ?_, ?_⟩
  · intro prior edge
    by_cases reaches : Relation.ReflTransGen (Edge next) owner node
    · rw [(donated node).1 reaches]
      exact (raisedLe prior).trans (monotone prior node edge)
    · -- The edge is an old one and its waiter is off the raised chain.
      have priorOff : ¬Relation.ReflTransGen (Edge next) owner prior :=
        fun further => reaches (further.tail edge)
      rw [(donated node).2 reaches, (donated prior).2 priorOff]
      rcases edge_cases_of_added added edge with ⟨rfl, rfl⟩ | edge
      · exact absurd .refl reaches
      · exact bounded.waiter_le _ _ edge
  · by_cases reaches : Relation.ReflTransGen (Edge next) owner node
    · rw [(donated node).1 reaches]
      rcases le_or_gt (priority waiter) (priority node) with small | large
      · -- The old justification survives the donation.
        rw [max_eq_left small]
        rcases (consistent node).attained with own | ⟨prior, edge, equal⟩
        · exact Or.inl own
        · refine Or.inr ⟨prior, edge_of_added idle added edge, ?_⟩
          have upper := raisedLe prior
          have lower := leRaised prior
          omega
      · -- The predecessor on the donated chain carries the gift.
        rw [max_eq_right large.le]
        right
        rcases Relation.ReflTransGen.cases_tail reaches with rfl | ⟨prior, further, edge⟩
        · refine ⟨waiter, newEdge, ?_⟩
          have upper := raisedLe waiter
          have lower := leRaised waiter
          omega
        · refine ⟨prior, edge, ?_⟩
          rw [(donated prior).1 further]
          have step := monotone prior node edge
          omega
    · rw [(donated node).2 reaches]
      rcases (consistent node).attained with own | ⟨prior, edge, equal⟩
      · exact Or.inl own
      · refine Or.inr ⟨prior, edge_of_added idle added edge, ?_⟩
        have priorOff : ¬Relation.ReflTransGen (Edge next) owner prior :=
          fun further => reaches (further.tail (edge_of_added idle added edge))
        rw [(donated prior).2 priorOff, equal]

end NewEdge

/-- Donation never exceeds a common bound of the priorities involved. -/
theorem donate_le
    {bound fuel : Nat} {node : ν} {donated : Nat}
    (priorities : ∀ other, priority other ≤ bound) (small : donated ≤ bound) :
    ∀ other, donate next fuel node donated priority other ≤ bound := by
  induction fuel generalizing node donated priority with
  | zero => exact priorities
  | succ fuel inductionHypothesis =>
      have raised : ∀ other,
          Function.update priority node (max (priority node) donated) other ≤ bound := by
        intro other
        by_cases same : other = node
        · subst same
          simpa using ⟨priorities other, small⟩
        · simpa [same] using priorities other
      simp only [donate]
      cases next node with
      | none => exact raised
      | some owner => exact inductionHypothesis raised (raised node)

end Donate

/-! ## Recomputation -/

/-- Re-evaluate the nodes of the chain that starts at `node`, one after another. -/
def recompute (next : ν → Option ν) (effective : (ν → Nat) → ν → Nat) :
    Nat → ν → (ν → Nat) → ν → Nat
  | 0, _, priority => priority
  | fuel + 1, node, priority =>
      let updated := Function.update priority node (effective priority node)
      match next node with
      | none => updated
      | some owner => recompute next effective fuel owner updated

section Recompute

variable {next : ν → Option ν} {effective : (ν → Nat) → ν → Nat}
  {base : ν → Nat} {nodes : Finset ν} {priority : ν → Nat}

/-- Priorities on their way down from bounded ones: none has risen, and those on a
cycle have not moved, because the nodes of a cycle support one another. -/
structure Settling
    (next : ν → Option ν) (priority current : ν → Nat) : Prop where
  lower : ∀ other, current other ≤ priority other
  onCycle : ∀ other, Relation.TransGen (Edge next) other other →
    current other = priority other

omit [DecidableEq ν] in
theorem Settling.refl (priority : ν → Nat) : Settling next priority priority :=
  ⟨fun _ => le_rfl, fun _ _ => rfl⟩

omit [DecidableEq ν] in
/-- Priorities go on settling when edges are lost. -/
theorem Settling.trans
    {later : ν → Option ν} {middle last : ν → Nat}
    (left : Settling next priority middle) (right : Settling later middle last)
    (fewer : ∀ waiter owner, later waiter = some owner → next waiter = some owner) :
    Settling later priority last where
  lower other := (right.lower other).trans (left.lower other)
  onCycle other cycle := by
    rw [right.onCycle other cycle]
    exact left.onCycle other (Relation.TransGen.mono fewer _ _ cycle)

/-- One re-evaluation. -/
theorem Settling.update
    {current : ν → Nat} {node : ν} {result : Nat}
    (settling : Settling next priority current)
    (bounded : Bounded next base priority)
    (evaluated : IsEffective next base current node result) :
    Settling next priority (Function.update current node result) := by
  have resultLe : result ≤ priority node := by
    rcases evaluated.attained with own | ⟨prior, edge, equal⟩
    · exact own.le.trans (bounded.base_le node)
    · exact equal.ge.trans ((settling.lower prior).trans (bounded.waiter_le _ _ edge))
  refine ⟨?_, ?_⟩
  · intro other
    by_cases same : other = node
    · subst same
      simpa using resultLe
    · simpa [same] using settling.lower other
  · intro other cycle
    by_cases same : other = node
    · subst same
      obtain ⟨waiter, edge, waiterCycle, equal⟩ := bounded.exists_equal_waiter cycle
      have waiterLe := evaluated.waiter_le waiter edge
      rw [settling.onCycle waiter waiterCycle, equal] at waiterLe
      simpa using le_antisymm resultLe waiterLe
    · simpa [same] using settling.onCycle other cycle

/-- Recomputation lowers priorities and leaves those on a cycle as they are. -/
theorem recompute_settling
    (evaluates : ∀ current node, IsEffective next base current node (effective current node))
    (bounded : Bounded next base priority) (fuel : Nat) (node : ν) {current : ν → Nat}
    (settling : Settling next priority current) :
    Settling next priority (recompute next effective fuel node current) := by
  induction fuel generalizing node current with
  | zero => exact settling
  | succ fuel inductionHypothesis =>
      have updated := settling.update bounded (evaluates current node)
      simp only [recompute]
      cases next node with
      | none => exact updated
      | some owner => exact inductionHypothesis owner updated

private theorem recompute_walk
    (evaluates : ∀ current node, IsEffective next base current node (effective current node))
    (irreflexive : ∀ node, next node ≠ some node)
    (bounded : Bounded next base priority)
    (fuel : Nat) (node : ν) (current : ν → Nat) (visited : Finset ν)
    (walk : Walk next nodes visited node fuel)
    (settling : Settling next priority current)
    (settled : ∀ other, other ≠ node →
      IsEffective next base current other (current other)) :
    Consistent next base (recompute next effective fuel node current) := by
  induction fuel generalizing node current visited with
  | zero =>
      -- The walk has closed a cycle, whose nodes kept their old priority.
      have cycle := walk.leads node walk.mem_visited_of_zero
      intro other
      by_cases same : other = node
      · subst same
        obtain ⟨waiter, edge, waiterCycle, equal⟩ := bounded.exists_equal_waiter cycle
        refine ⟨?_, ?_, Or.inr ⟨waiter, edge, ?_⟩⟩
        · exact (bounded.base_le other).trans (settling.onCycle other cycle).ge
        · intro prior priorEdge
          exact (settling.lower prior).trans
            ((bounded.waiter_le _ _ priorEdge).trans (settling.onCycle other cycle).ge)
        · exact (settling.onCycle waiter waiterCycle).trans
            (equal.trans (settling.onCycle other cycle).symm)
      · exact settled other same
  | succ fuel inductionHypothesis =>
      have evaluated := evaluates current node
      generalize value : effective current node = result at evaluated
      have settlingAfter := settling.update bounded evaluated
      have settledNode :
          IsEffective next base (Function.update current node result) node
            (Function.update current node result node) := by
        have away : ∀ waiter, next waiter = some node →
            Function.update current node result waiter = current waiter := by
          intro waiter edge
          apply Function.update_of_ne
          rintro rfl
          exact irreflexive _ edge
        rw [Function.update_self]
        refine ⟨evaluated.base_le, fun waiter edge => ?_, ?_⟩
        · rw [away waiter edge]
          exact evaluated.waiter_le waiter edge
        · rcases evaluated.attained with own | ⟨waiter, edge, equal⟩
          · exact Or.inl own
          · exact Or.inr ⟨waiter, edge, (away waiter edge).trans equal⟩
      have settledOther : ∀ other, other ≠ node → next node ≠ some other →
          IsEffective next base (Function.update current node result) other
            (Function.update current node result other) := by
        intro other different noEdge
        have away : ∀ waiter, next waiter = some other →
            Function.update current node result waiter = current waiter := by
          intro waiter edge
          apply Function.update_of_ne
          rintro rfl
          exact noEdge edge
        have old := settled other different
        rw [Function.update_of_ne different]
        refine ⟨old.base_le, fun waiter edge => ?_, ?_⟩
        · rw [away waiter edge]
          exact old.waiter_le waiter edge
        · rcases old.attained with own | ⟨waiter, edge, equal⟩
          · exact Or.inl own
          · exact Or.inr ⟨waiter, edge, (away waiter edge).trans equal⟩
      cases edge : next node with
      | none =>
          simp only [recompute, value, edge]
          intro other
          by_cases same : other = node
          · subst same
            exact settledNode
          · exact settledOther other same (by simp [edge])
      | some owner =>
          simp only [recompute, value, edge]
          refine inductionHypothesis owner _ _ (walk.advance edge) settlingAfter ?_
          intro other different
          by_cases same : other = node
          · subst same
            exact settledNode
          · refine settledOther other same ?_
            rw [edge]
            exact fun equal => different (Option.some.inj equal).symm

/-- Recomputing the chain from the only node that may carry too much restores
consistency. -/
theorem recompute_consistent
    (evaluates : ∀ current node, IsEffective next base current node (effective current node))
    (irreflexive : ∀ node, next node ≠ some node)
    (bounded : Bounded next base priority)
    {start : ν} {fuel : Nat}
    (settled : ∀ other, other ≠ start →
      IsEffective next base priority other (priority other))
    (start_mem : start ∈ nodes)
    (closed : ∀ waiter owner, next waiter = some owner → owner ∈ nodes)
    (enough : nodes.card ≤ fuel) :
    Consistent next base (recompute next effective fuel start priority) :=
  recompute_walk evaluates irreflexive bounded fuel start priority ∅
    (Walk.start start_mem closed enough) (.refl priority) settled

omit [DecidableEq ν] in
/-- The effective priority of a node is determined by the priorities of its waiters. -/
theorem IsEffective.unique
    {node : ν} {first second : Nat}
    (left : IsEffective next base priority node first)
    (right : IsEffective next base priority node second) : first = second := by
  have bounded : ∀ {low high : Nat}, IsEffective next base priority node low →
      IsEffective next base priority node high → low ≤ high := by
    intro low high effective other
    rcases effective.attained with own | ⟨waiter, edge, equal⟩
    · exact own.le.trans other.base_le
    · exact equal.ge.trans (other.waiter_le waiter edge)
  exact le_antisymm (bounded left right) (bounded right left)

/-- Recomputing consistent priorities changes nothing. -/
theorem recompute_of_consistent
    (evaluates : ∀ current node, IsEffective next base current node (effective current node))
    (consistent : Consistent next base priority) (fuel : Nat) (node : ν) :
    recompute next effective fuel node priority = priority := by
  induction fuel generalizing node with
  | zero => rfl
  | succ fuel inductionHypothesis =>
      have same : effective priority node = priority node :=
        (evaluates priority node).unique (consistent node)
      simp only [recompute, same, Function.update_eq_self]
      cases next node with
      | none => rfl
      | some owner => exact inductionHypothesis owner

end Recompute

end Loops

/-! ## Donors -/

/-- Every priority is the base priority of the node itself or of a transitive
waiter. -/
def Justified (next : ν → Option ν) (base priority : ν → Nat) : Prop :=
  ∀ node, ∃ donor, Relation.ReflTransGen (Edge next) donor node ∧ base donor = priority node

/-- A consistent priority is lent by somebody as soon as those on the cycles that lead to it
are. -/
theorem Consistent.exists_donor
    {next : ν → Option ν} {base priority : ν → Nat} (nodes : Finset ν)
    (consistent : Consistent next base priority)
    (waiters : ∀ waiter owner, next waiter = some owner → waiter ∈ nodes) {node : ν}
    (cycles : ∀ other, Relation.ReflTransGen (Edge next) other node →
      Relation.TransGen (Edge next) other other →
        ∃ donor, Relation.ReflTransGen (Edge next) donor other ∧ base donor = priority other) :
    ∃ donor, Relation.ReflTransGen (Edge next) donor node ∧ base donor = priority node := by
  classical
  -- Induction on the number of transitive waiters, which drops at each waiter off a cycle.
  generalize bound :
    (nodes.filter fun waiter => Relation.TransGen (Edge next) waiter node).card = size
  induction size using Nat.strong_induction_on generalizing node with
  | _ size inductionHypothesis =>
      rcases (consistent node).attained with own | ⟨waiter, edge, equal⟩
      · exact ⟨node, .refl, own.symm⟩
      · by_cases cycle : Relation.TransGen (Edge next) waiter waiter
        · obtain ⟨donor, reaches, value⟩ := cycles waiter (.single edge) cycle
          exact ⟨donor, reaches.tail edge, value.trans equal⟩
        · have smaller :
              (nodes.filter fun other => Relation.TransGen (Edge next) other waiter).card <
                size := by
            rw [← bound]
            apply Finset.card_lt_card
            refine Finset.ssubset_iff_subset_ne.mpr ⟨?_, ?_⟩
            · intro other present
              rw [Finset.mem_filter] at present ⊢
              exact ⟨present.1, present.2.tail edge⟩
            · intro same
              have member : waiter ∈ nodes.filter fun other =>
                  Relation.TransGen (Edge next) other node :=
                Finset.mem_filter.mpr ⟨waiters _ _ edge, .single edge⟩
              rw [← same, Finset.mem_filter] at member
              exact cycle member.2
          obtain ⟨donor, reaches, value⟩ := inductionHypothesis _ smaller
            (fun other reaches => cycles other (reaches.tail edge)) rfl
          exact ⟨donor, reaches.tail edge, value.trans equal⟩

/-- Consistent priorities are justified as soon as those on cycles are. -/
theorem Consistent.justified
    {next : ν → Option ν} {base priority : ν → Nat} (nodes : Finset ν)
    (consistent : Consistent next base priority)
    (waiters : ∀ waiter owner, next waiter = some owner → waiter ∈ nodes)
    (cycles : ∀ node, Relation.TransGen (Edge next) node node →
      ∃ donor, Relation.ReflTransGen (Edge next) donor node ∧ base donor = priority node) :
    Justified next base priority :=
  fun _ => consistent.exists_donor nodes waiters fun other _ cycle => cycles other cycle

/-- No cycle leads to a node that waits for nobody. -/
theorem not_cycle_of_reaches
    {next : ν → Option ν} {start finish : ν} (idle : next finish = none)
    (reaches : Relation.ReflTransGen (Edge next) start finish) :
    ¬Relation.TransGen (Edge next) start start := by
  induction reaches using Relation.ReflTransGen.head_induction_on with
  | refl =>
      intro cycle
      obtain ⟨_, edge, _⟩ := Relation.TransGen.head'_iff.mp cycle
      rw [Edge, idle] at edge
      cases edge
  | @head node owner edge _ inductionHypothesis =>
      intro cycle
      obtain ⟨successor, first, back⟩ := Relation.TransGen.head'_iff.mp cycle
      obtain rfl : successor = owner := Option.some.inj (first.symm.trans edge)
      exact inductionHypothesis (.tail' back edge)

/-- The consistent priority of a node that waits for nobody is lent by somebody. -/
theorem Consistent.exists_donor_of_idle
    {next : ν → Option ν} {base priority : ν → Nat} (nodes : Finset ν)
    (consistent : Consistent next base priority)
    (waiters : ∀ waiter owner, next waiter = some owner → waiter ∈ nodes) {node : ν}
    (idle : next node = none) :
    ∃ donor, Relation.ReflTransGen (Edge next) donor node ∧ base donor = priority node :=
  consistent.exists_donor nodes waiters fun _ reaches cycle =>
    absurd cycle (not_cycle_of_reaches idle reaches)

/-- Priorities that settle consistently are justified exactly when those on cycles were
lent by a waiter that is left. -/
theorem Consistent.justified_iff
    {next : ν → Option ν} {base priority current : ν → Nat} (nodes : Finset ν)
    (consistent : Consistent next base current)
    (settling : Settling next priority current)
    (waiters : ∀ waiter owner, next waiter = some owner → waiter ∈ nodes) :
    Justified next base current ↔
      ∀ node, Relation.TransGen (Edge next) node node →
        ∃ donor, Relation.ReflTransGen (Edge next) donor node ∧ base donor = priority node := by
  refine ⟨fun justified node cycle => ?_, fun cycles => ?_⟩
  · rw [← settling.onCycle node cycle]
    exact justified node
  · refine consistent.justified nodes waiters fun node cycle => ?_
    rw [settling.onCycle node cycle]
    exact cycles node cycle

/-- A donation along a new edge passes on a justified priority. -/
theorem Justified.donated
    [DecidableEq ν] {before next : ν → Option ν} {base priority raised : ν → Nat}
    {waiter owner : ν}
    (justified : Justified before base priority)
    (idle : before waiter = none)
    (added : next = Function.update before waiter (some owner))
    (donated : Donated next owner (priority waiter) priority raised) :
    Justified next base raised := by
  have keeps : ∀ {donor node : ν}, Relation.ReflTransGen (Edge before) donor node →
      Relation.ReflTransGen (Edge next) donor node :=
    fun reaches => Relation.ReflTransGen.mono (fun _ _ => edge_of_added idle added) _ _ reaches
  have newEdge : Edge next waiter owner := by simp [Edge, added]
  intro node
  obtain ⟨donor, toNode, value⟩ := justified node
  by_cases onChain : Relation.ReflTransGen (Edge next) owner node
  · rw [(donated node).1 onChain]
    rcases le_total (priority waiter) (priority node) with small | large
    · exact ⟨donor, keeps toNode, by rw [value, max_eq_left small]⟩
    · obtain ⟨lender, toWaiter, lent⟩ := justified waiter
      refine ⟨lender, (keeps toWaiter).trans (.head newEdge onChain), ?_⟩
      rw [lent, max_eq_right large]
  · rw [(donated node).2 onChain]
    exact ⟨donor, keeps toNode, value⟩

/-- Priorities settle justified when the only edges lost led into a node that waits
for nobody: no such edge is on the way to a cycle. -/
theorem Justified.settled
    {before next : ν → Option ν} {base priority current : ν → Nat} (nodes : Finset ν)
    (justified : Justified before base priority)
    (consistent : Consistent next base current)
    (settling : Settling next priority current)
    (waiters : ∀ waiter owner, next waiter = some owner → waiter ∈ nodes)
    {start : ν} (idle : next start = none)
    (keeps : ∀ waiter owner, owner ≠ start → before waiter = some owner →
      next waiter = some owner) :
    Justified next base current := by
  refine (consistent.justified_iff nodes settling waiters).mpr fun node cycle => ?_
  obtain ⟨donor, toNode, value⟩ := justified node
  refine ⟨donor, ?_, value⟩
  clear value
  induction toNode using Relation.ReflTransGen.head_induction_on with
  | refl => exact .refl
  | @head waiter owner edge _ inductionHypothesis =>
      refine .head (keeps waiter owner ?_ edge) inductionHypothesis
      rintro rfl
      obtain ⟨_, first, _⟩ :=
        Relation.TransGen.head'_iff.mp (Relation.TransGen.trans_right inductionHypothesis cycle)
      rw [Edge, idle] at first
      cases first

/-- Without cycles a consistent priority is the largest base priority of a transitive
waiter. -/
theorem Consistent.isGreatest_of_acyclic
    {next : ν → Option ν} {base priority : ν → Nat} (nodes : Finset ν)
    (consistent : Consistent next base priority)
    (waiters : ∀ waiter owner, next waiter = some owner → waiter ∈ nodes)
    (acyclic : ∀ node, ¬Relation.TransGen (Edge next) node node) (node : ν) :
    IsGreatest
      {value | ∃ waiter, Relation.ReflTransGen (Edge next) waiter node ∧
        base waiter = value} (priority node) := by
  refine ⟨?_, ?_⟩
  · exact consistent.justified nodes waiters
      (fun other cycle => absurd cycle (acyclic other)) node
  · rintro value ⟨waiter, reaches, rfl⟩
    exact (consistent.bounded.base_le waiter).trans
      (consistent.bounded.le_of_reaches reaches)

end Inheritance
