import CellNet.Highlight
import CellNet.Proofs.Exploration
import CellNet.Proofs.Membership
import Mathlib.Tactic.Common

/-!
# A highlight is a closure

**Theorem (`highlight_closure`).** A black highlight marks exactly the members that can be reached
from its cell by steps down the tree, and exactly the links behind their connected parent ports. A
stacked highlight marks the same closure of the first root of the tree, but a link only if the cell
on its far side is a member; there is no stacked highlight exactly when the tree has no root.

A step down (`Descends`) leads from a member through a child port to another member. Nothing is
asked of the other side: the topology may hold cycles, ports reported by one side only, and ports
that lead to unplaced cells. The walk is that of `Digraph.explore` on the graph of these steps, so
the nodes come from `Digraph.mem_reach_iff`, and the links are read off the nodes.
-/

namespace CellNet

namespace Topology

variable {topo : Topology} {kind : TreeKind} {tree : TreeId} {keep : CellId → Bool}
  {id start upper lower : CellId} {link : LinkId}

/-! ## Steps down a tree -/

/-- A step down a tree, through a child port of a member to a member. -/
def Descends (topo : Topology) (kind : TreeKind) (tree : TreeId) (upper lower : CellId) : Prop :=
  topo.carries kind tree upper ∧ topo.carries kind tree lower ∧
    ∃ port, topo.HasRole kind tree upper port .child ∧ topo.cellBehind? upper port = some lower

/-- A cell is reached from a member by steps down. -/
def ReachedFrom (topo : Topology) (kind : TreeKind) (tree : TreeId) (start id : CellId) : Prop :=
  topo.carries kind tree start ∧ Relation.ReflTransGen (topo.Descends kind tree) start id

theorem childCells_eq {roles : PortTree} (h : topo.roles? kind tree id = some roles) :
    topo.childCells kind tree id = roles.childPorts.filterMap (topo.cellBehind? id) := by
  rw [childCells, h]

theorem mem_childCells : lower ∈ topo.childCells kind tree upper ↔
    ∃ port, topo.HasRole kind tree upper port .child ∧
      topo.cellBehind? upper port = some lower := by
  cases hroles : topo.roles? kind tree upper with
  | none => simp [childCells, HasRole, hroles]
  | some roles => simp [childCells_eq hroles, hasRole_iff hroles, PortTree.childPorts]

/-- The edges the walk follows are the steps down. -/
theorem edge_descent_iff :
    (topo.descent kind tree).Edge upper lower ↔ topo.Descends kind tree upper lower := by
  simp only [Digraph.Edge, descent, mem_members, mem_childCells, Descends]
  tauto

theorem reaches_descent_iff :
    (topo.descent kind tree).Reaches start id ↔ topo.ReachedFrom kind tree start id := by
  have hedge : (topo.descent kind tree).Edge = topo.Descends kind tree := by
    funext upper lower
    exact propext edge_descent_iff
  rw [Digraph.Reaches, hedge, ReachedFrom, descent, mem_members]

theorem ReachedFrom.carries (h : topo.ReachedFrom kind tree start id) :
    topo.carries kind tree id := by
  have hmem := (reaches_descent_iff.2 h).mem_vertices
  rwa [descent, mem_members] at hmem

/-! ## Links behind parent ports -/

theorem mem_parentLinks : link ∈ topo.parentLinks kind tree keep id ↔
    ∃ port far, topo.HasRole kind tree id port .parent ∧ topo.neighbor? id port = some far ∧
      keep far.cell ∧ topo.linkThrough? id port = some link := by
  cases hroles : topo.roles? kind tree id with
  | none => simp [parentLinks, HasRole, hroles]
  | some roles =>
    simp only [parentLinks, hroles, List.mem_filterMap, PortTree.parentPorts,
      PortTree.mem_portsWith, hasRole_iff hroles, cellBehind?_eq]
    refine exists_congr fun port => ?_
    cases hfar : topo.neighbor? id port with
    | none => simp
    | some far => simp

/-! ## The walk -/

theorem mem_nodes_highlightFrom :
    id ∈ (topo.highlightFrom kind tree start keep).nodes ↔ topo.ReachedFrom kind tree start id := by
  rw [← reaches_descent_iff, ← Digraph.mem_reach_iff, highlightFrom, Std.ExtTreeSet.mem_ofList,
    List.contains_iff_mem, Digraph.reach]

theorem mem_links_highlightFrom : link ∈ (topo.highlightFrom kind tree start keep).links ↔
    ∃ id, topo.ReachedFrom kind tree start id ∧ link ∈ topo.parentLinks kind tree keep id := by
  simp only [← reaches_descent_iff, ← Digraph.mem_reach_iff]
  rw [highlightFrom, Std.ExtTreeSet.mem_ofList, List.contains_iff_mem, List.mem_flatMap,
    Digraph.reach]

end Topology

/-! ## The closure of a start cell -/

/-- A highlight marks what can be reached from a start cell, and the links behind the connected
parent ports of what it marks, of those whose far side `keep` admits. -/
structure Highlight.MarksClosure (h : Highlight) (topo : Topology) (kind : TreeKind)
    (tree : TreeId) (start : CellId) (keep : CellId → Prop) : Prop where
  tree_eq : h.tree = tree
  root_eq : h.root = start
  nodes : ∀ id, id ∈ h.nodes ↔ topo.ReachedFrom kind tree start id
  links : ∀ link, link ∈ h.links ↔ ∃ id ∈ h.nodes, ∃ port far,
    topo.HasRole kind tree id port .parent ∧ topo.neighbor? id port = some far ∧
      keep far.cell ∧ topo.linkThrough? id port = some link

namespace Topology

variable {topo : Topology} {tree : TreeId} {start : CellId}

theorem marksClosure_highlightFrom (topo : Topology) (kind : TreeKind) (tree : TreeId)
    (start : CellId) (keep : CellId → Bool) :
    (topo.highlightFrom kind tree start keep).MarksClosure topo kind tree start
      (fun id => keep id) where
  tree_eq := rfl
  root_eq := rfl
  nodes _ := mem_nodes_highlightFrom
  links link := by
    simp only [mem_links_highlightFrom, mem_nodes_highlightFrom, mem_parentLinks]

theorem stackedHighlight_eq_error_iff : topo.stackedHighlight tree = .error (.noRoot tree) ↔
    ¬ ∃ id, topo.IsRoot .stacked tree id := by
  rw [← roots_eq_nil_iff, stackedHighlight]
  split
  · simp [*]
  · split_ifs <;> simp [*]

/-- The warning that a tree has several roots, if it has. -/
def rootWarnings (topo : Topology) (tree : TreeId) : List Warning :=
  let roots := topo.roots .stacked tree
  if roots.length ≤ 1 then [] else [.severalRoots roots]

/-- From the first root, the stacked highlight is the walk's, with the warning about roots in
front. -/
theorem stackedHighlight_of_isFirstRoot (h : topo.IsFirstRoot .stacked tree start) :
    let found := topo.highlightFrom .stacked tree start (topo.carries .stacked tree)
    topo.stackedHighlight tree =
      .ok { found with warnings := topo.rootWarnings tree ++ found.warnings } := by
  intro found
  have hhead := head?_roots_eq_some_iff.2 h
  rw [stackedHighlight, rootWarnings]
  cases hroots : topo.roots .stacked tree with
  | nil => simp [hroots] at hhead
  | cons first others =>
    rw [hroots, List.head?_cons, Option.some.injEq] at hhead
    subst hhead
    cases others with
    | nil => rfl
    | cons other others => simp [found]

theorem exists_marksClosure_of_eq_ok {found : Highlight}
    (h : topo.stackedHighlight tree = .ok found) :
    ∃ start, topo.IsFirstRoot .stacked tree start ∧
      found.MarksClosure topo .stacked tree start fun id => topo.carries .stacked tree id := by
  have hsome : ∃ id, topo.IsRoot .stacked tree id := by
    by_contra hnone
    rw [stackedHighlight_eq_error_iff.2 hnone] at h
    cases h
  obtain ⟨id, hid⟩ := hsome
  obtain ⟨start, hstart⟩ := hid.exists_isFirstRoot
  have hclosure := topo.marksClosure_highlightFrom .stacked tree start (topo.carries .stacked tree)
  rw [stackedHighlight_of_isFirstRoot hstart, Except.ok.injEq] at h
  subst h
  exact ⟨start, hstart, hclosure.tree_eq, hclosure.root_eq, hclosure.nodes, hclosure.links⟩

/-- **Highlights are closures**, of the cell a black tree is named after and of the first root of a
stacked tree. -/
theorem highlight_closure (topo : Topology) :
    (∀ root, (topo.blackHighlight root).MarksClosure topo .black (.blackOf root) root
      fun _ => True) ∧
    (∀ tree, topo.stackedHighlight tree = .error (.noRoot tree) ↔
      ¬ ∃ id, topo.IsRoot .stacked tree id) ∧
    ∀ tree start, topo.IsFirstRoot .stacked tree start ↔
      ∃ h, topo.stackedHighlight tree = .ok h ∧ h.MarksClosure topo .stacked tree start
        fun id => topo.carries .stacked tree id := by
  refine ⟨fun root => ?_, fun tree => stackedHighlight_eq_error_iff, fun tree start => ?_⟩
  · simpa [blackHighlight] using
      topo.marksClosure_highlightFrom .black (.blackOf root) root fun _ => true
  · constructor
    · intro hstart
      have hok := stackedHighlight_of_isFirstRoot hstart
      obtain ⟨first, hfirst, hclosure⟩ := exists_marksClosure_of_eq_ok hok
      exact ⟨_, hok, hfirst.unique hstart ▸ hclosure⟩
    · rintro ⟨h, hok, hclosure⟩
      obtain ⟨first, hfirst, hclosure'⟩ := exists_marksClosure_of_eq_ok hok
      have hroot : first = start := hclosure'.root_eq.symm.trans hclosure.root_eq
      exact hroot ▸ hfirst

end Topology

end CellNet
