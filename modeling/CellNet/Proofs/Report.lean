import CellNet.TreeReport
import CellNet.Proofs.Closure
import CellNet.Proofs.Cycles
import Mathlib.Data.Set.Card

/-!
# A report is exact

**Theorem (`treeReport_exact`).** The report on a tree says of the graph of its members
(`Leads`) what it is meant to say: how many members there are, which of them have no parent port,
in cell order, how many can be reached from the first of these, and whether there is a cycle.

An edge has two halves, a child port of its upper end and a parent port of its lower end, and
either is enough. The list of edges is gathered member by member, so an edge that both halves
describe stands in it twice, and one that leads out of the tree stands in it as well; neither adds
to the edges of the graph (`edge_treeGraph_iff`). What the searches on that graph find is known
from `Digraph.mem_reach_iff` and `Digraph.isCyclic_iff`.
-/

namespace CellNet

namespace Topology

variable {topo : Topology} {kind : TreeKind} {tree : TreeId} {id root upper lower : CellId}

/-! ## Edges described by either side -/

/-- A member leads to a member when a child port of the upper one or a parent port of the lower one
says so. -/
def Leads (topo : Topology) (kind : TreeKind) (tree : TreeId) (upper lower : CellId) : Prop :=
  topo.carries kind tree upper ∧ topo.carries kind tree lower ∧
    ((∃ port, topo.HasRole kind tree upper port .child ∧
        topo.cellBehind? upper port = some lower) ∨
      ∃ port, topo.HasRole kind tree lower port .parent ∧
        topo.cellBehind? lower port = some upper)

theorem mem_treeEdges : (upper, lower) ∈ topo.treeEdges kind tree ↔
    (∃ port, topo.HasRole kind tree upper port .child ∧
      topo.cellBehind? upper port = some lower) ∨
    ∃ port, topo.HasRole kind tree lower port .parent ∧
      topo.cellBehind? lower port = some upper := by
  simp only [treeEdges, List.mem_flatMap, mem_members]
  constructor
  · rintro ⟨id, -, hedge⟩
    cases hroles : topo.roles? kind tree id with
    | none => simp [hroles] at hedge
    | some roles =>
      simp only [hroles, List.mem_append, List.mem_map, List.mem_filterMap, PortTree.childPorts,
        PortTree.parentPorts, PortTree.mem_portsWith, ← hasRole_iff hroles] at hedge
      rcases hedge with ⟨_, ⟨port, hrole, hbehind⟩, heq⟩ | ⟨_, ⟨port, hrole, hbehind⟩, heq⟩
      · obtain ⟨rfl, rfl⟩ := Prod.mk.inj heq
        exact Or.inl ⟨port, hrole, hbehind⟩
      · obtain ⟨rfl, rfl⟩ := Prod.mk.inj heq
        exact Or.inr ⟨port, hrole, hbehind⟩
  · rintro (⟨port, hrole, hbehind⟩ | ⟨port, hrole, hbehind⟩)
    · obtain ⟨roles, hroles, hport⟩ := hrole
      refine ⟨upper, carries_iff.2 ⟨roles, hroles⟩, ?_⟩
      simp only [hroles]
      exact List.mem_append_left _ <| List.mem_map_of_mem <|
        List.mem_filterMap.2 ⟨port, PortTree.mem_portsWith.2 hport, hbehind⟩
    · obtain ⟨roles, hroles, hport⟩ := hrole
      refine ⟨lower, carries_iff.2 ⟨roles, hroles⟩, ?_⟩
      simp only [hroles]
      exact List.mem_append_right _ <| List.mem_map_of_mem <|
        List.mem_filterMap.2 ⟨port, PortTree.mem_portsWith.2 hport, hbehind⟩

theorem leads_iff : topo.Leads kind tree upper lower ↔ upper ∈ topo.members kind tree ∧
    lower ∈ topo.members kind tree ∧ (upper, lower) ∈ topo.treeEdges kind tree := by
  rw [mem_members, mem_members, mem_treeEdges, Leads]

instance (topo : Topology) (kind : TreeKind) (tree : TreeId) (upper lower : CellId) :
    Decidable (topo.Leads kind tree upper lower) :=
  decidable_of_iff _ leads_iff.symm

theorem mem_next_treeGraph :
    lower ∈ (topo.treeGraph kind tree).next upper ↔ (upper, lower) ∈ topo.treeEdges kind tree := by
  simp only [treeGraph, List.mem_filterMap, Prod.exists, Option.ite_none_right_eq_some,
    Option.some.injEq]
  constructor
  · rintro ⟨_, _, hedge, rfl, rfl⟩
    exact hedge
  · exact fun hedge => ⟨upper, lower, hedge, rfl, rfl⟩

/-- The edges between members are those that either side describes. -/
theorem edge_treeGraph_iff :
    (topo.treeGraph kind tree).Edge upper lower ↔ topo.Leads kind tree upper lower := by
  rw [leads_iff, Digraph.Edge, mem_next_treeGraph, treeGraph]
  exact and_congr_right fun _ => and_comm

theorem edge_treeGraph_eq : (topo.treeGraph kind tree).Edge = topo.Leads kind tree := by
  funext upper lower
  exact propext edge_treeGraph_iff

theorem Descends.leads (h : topo.Descends kind tree upper lower) :
    topo.Leads kind tree upper lower :=
  ⟨h.1, h.2.1, Or.inl h.2.2⟩

/-- The search on the graph enters what its start leads to. -/
theorem mem_reach_treeGraph (hroot : topo.carries kind tree root) :
    id ∈ (topo.treeGraph kind tree).reach root ↔
      Relation.ReflTransGen (topo.Leads kind tree) root id := by
  rw [Digraph.mem_reach_iff, Digraph.Reaches, edge_treeGraph_eq, treeGraph, mem_members]
  exact and_iff_right hroot

theorem isCyclic_treeGraph_iff : (topo.treeGraph kind tree).isCyclic ↔
    ∃ id, Relation.TransGen (topo.Leads kind tree) id id := by
  rw [Digraph.isCyclic_iff, edge_treeGraph_eq]

/-! ## Counting -/

theorem nodup_members (topo : Topology) (kind : TreeKind) (tree : TreeId) :
    (topo.members kind tree).Nodup :=
  topo.cells.nodup_keys.filter _

theorem encard_members (topo : Topology) (kind : TreeKind) (tree : TreeId) :
    {id | topo.carries kind tree id}.encard = (topo.treeReport kind tree).members := by
  have hmembers : {id | topo.carries kind tree id} = {id | id ∈ topo.members kind tree} :=
    Set.ext fun _ => mem_members.symm
  rw [hmembers, encard_setOf_mem (topo.nodup_members kind tree)]
  rfl

/-- The report counts what is led to from the first root. -/
theorem IsFirstRoot.encard_led (h : topo.IsFirstRoot kind tree root) :
    {id | Relation.ReflTransGen (topo.Leads kind tree) root id}.encard =
      (topo.treeReport kind tree).reachable := by
  have hled : {id | Relation.ReflTransGen (topo.Leads kind tree) root id} =
      {id | id ∈ (topo.treeGraph kind tree).reach root} :=
    Set.ext fun _ => (mem_reach_treeGraph h.1.1).symm
  obtain ⟨others, hroots⟩ := isFirstRoot_iff.1 h
  rw [hled, encard_setOf_mem (Digraph.nodup_reach _ _), treeReport, hroots]

end Topology

/-! ## The report -/

/-- A report says of the members of a tree and the edges that either side describes what it is
meant to say. -/
structure TreeReport.Exact (r : TreeReport) (topo : Topology) (kind : TreeKind) (tree : TreeId) :
    Prop where
  tree_eq : r.tree = tree
  kind_eq : r.kind = kind
  members : {id | topo.carries kind tree id}.encard = r.members
  roots : ∀ id, id ∈ r.roots ↔ topo.IsRoot kind tree id
  sorted : r.roots.Pairwise fun a b => compare a b = .lt
  reachable : ∀ root others, r.roots = root :: others →
    {id | Relation.ReflTransGen (topo.Leads kind tree) root id}.encard = r.reachable
  unreached : r.roots = [] → r.reachable = 0
  cyclic : r.cyclic ↔ ∃ id, Relation.TransGen (topo.Leads kind tree) id id

namespace Topology

/-- **A report is exact.** -/
theorem treeReport_exact (topo : Topology) (kind : TreeKind) (tree : TreeId) :
    (topo.treeReport kind tree).Exact topo kind tree where
  tree_eq := rfl
  kind_eq := rfl
  members := topo.encard_members kind tree
  roots _ := mem_roots
  sorted := topo.pairwise_roots kind tree
  reachable root others hroots := by
    have hfirst : topo.IsFirstRoot kind tree root := isFirstRoot_iff.2 ⟨others, hroots⟩
    exact hfirst.encard_led
  unreached hroots := by
    have hroots : topo.roots kind tree = [] := hroots
    rw [treeReport, hroots]
  cyclic := isCyclic_treeGraph_iff

end Topology

end CellNet
