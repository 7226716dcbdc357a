import CellNet.Proofs.Report
import CellNet.Proofs.TwoSided
import Std.Data.TreeMap.Iterator

/-!
# Is a consistent tree a rooted tree?

**Theorem (`isRootedTree_iff_of_isConsistent`).** If a report calls a tree consistent, then nothing
leads to its one root, every other member is led to by some member, and every member is reached
from the root. That each of the others is led to by *one* member only is not among the tests: it
holds exactly when the tree has one edge fewer than members.

The root has no way in because a way in, taken from the root, would close a cycle. The others have
one because the last edge of their way from the root is one. So the lower ends of the edges are all
members but the root, and they are met once each exactly when there are no more edges than that.

**Counterexample (`diamond_isConsistent`).** Where two children of the root share a child, the tree
is consistent, and the shared child is led to twice.
-/

namespace CellNet.Topology

variable {topo : Topology} {kind : TreeKind} {tree : TreeId} {id root upper lower : CellId}

/-! ## The three tests -/

theorem carries_of_led (hroot : topo.carries kind tree root)
    (h : Relation.ReflTransGen (topo.Leads kind tree) root id) : topo.carries kind tree id := by
  cases h with
  | refl => exact hroot
  | tail _ hedge => exact hedge.2.1

theorem finite_members (topo : Topology) (kind : TreeKind) (tree : TreeId) :
    {id | topo.carries kind tree id}.Finite :=
  Set.finite_of_encard_eq_coe (topo.encard_members kind tree)

/-- Every member is reached from the root. -/
def Spans (topo : Topology) (kind : TreeKind) (tree : TreeId) (root : CellId) : Prop :=
  ∀ id, topo.carries kind tree id → Relation.ReflTransGen (topo.Leads kind tree) root id

/-- As many members are reachable as there are exactly when all of them are. -/
theorem IsFirstRoot.reachable_eq_members_iff (h : topo.IsFirstRoot kind tree root) :
    (topo.treeReport kind tree).reachable = (topo.treeReport kind tree).members ↔
      topo.Spans kind tree root := by
  have hsub : {id | Relation.ReflTransGen (topo.Leads kind tree) root id} ⊆
      {id | topo.carries kind tree id} := fun id hid => carries_of_led h.1.1 hid
  rw [← Nat.cast_inj (R := ℕ∞), ← h.encard_led, ← encard_members]
  constructor
  · intro hcard id hid
    have heq := ((topo.finite_members kind tree).subset hsub).eq_of_subset_of_encard_le hsub
      hcard.ge
    exact heq.ge hid
  · intro hall
    rw [hsub.antisymm fun id hid => hall id hid]

/-- A tree is consistent when it has one root, no cycle, and every member is reached from the
root. -/
theorem isConsistent_iff : (topo.treeReport kind tree).isConsistent ↔
    ∃ root, topo.roots kind tree = [root] ∧
      (¬ ∃ id, Relation.TransGen (topo.Leads kind tree) id id) ∧ topo.Spans kind tree root := by
  have htests : (topo.treeReport kind tree).isConsistent ↔
      (∃ root, topo.roots kind tree = [root]) ∧
      (¬ ∃ id, Relation.TransGen (topo.Leads kind tree) id id) ∧
      (topo.treeReport kind tree).reachable = (topo.treeReport kind tree).members := by
    rw [← isCyclic_treeGraph_iff, ← List.length_eq_one_iff]
    simp only [TreeReport.isConsistent, Bool.and_eq_true, beq_iff_eq, Bool.not_eq_true',
      Bool.not_eq_true, and_assoc]
    rfl
  rw [htests, ← exists_and_right]
  refine exists_congr fun root => and_congr_right fun hroots => and_congr_right fun _ => ?_
  exact (isFirstRoot_iff.2 ⟨[], hroots⟩).reachable_eq_members_iff

/-! ## Ways in -/

/-- Nothing leads to the root, and exactly one member leads to each of the others. -/
structure IsRootedTree (topo : Topology) (kind : TreeKind) (tree : TreeId) (root : CellId) :
    Prop where
  noWayIn : ∀ upper, ¬ topo.Leads kind tree upper root
  oneWayIn : ∀ lower, topo.carries kind tree lower → lower ≠ root →
    ∃! upper, topo.Leads kind tree upper lower

/-- What leads to the root is on a cycle. -/
theorem Spans.not_leads_root (hspans : topo.Spans kind tree root)
    (hacyclic : ¬ ∃ id, Relation.TransGen (topo.Leads kind tree) id id) (upper : CellId) :
    ¬ topo.Leads kind tree upper root :=
  fun hedge => hacyclic ⟨root, .tail' (hspans upper hedge.1) hedge⟩

/-- The way from the root to another member ends with an edge. -/
theorem Spans.exists_leads (hspans : topo.Spans kind tree root) (lower : CellId)
    (hlower : topo.carries kind tree lower) (hne : lower ≠ root) :
    ∃ upper, topo.Leads kind tree upper lower := by
  cases hspans lower hlower with
  | refl => exact absurd rfl hne
  | tail _ hedge => exact ⟨_, hedge⟩

/-! ## Counting edges -/

/-- The edges of a tree, each once, whichever side describes it. -/
def edges (topo : Topology) (kind : TreeKind) (tree : TreeId) : Set (CellId × CellId) :=
  {edge | topo.Leads kind tree edge.1 edge.2}

/-- The edges in a list, each once. -/
def edgeList (topo : Topology) (kind : TreeKind) (tree : TreeId) : List (CellId × CellId) :=
  ((topo.treeEdges kind tree).filter fun (upper, lower) =>
    upper ∈ topo.members kind tree ∧ lower ∈ topo.members kind tree).dedup

theorem mem_edgeList :
    (upper, lower) ∈ topo.edgeList kind tree ↔ topo.Leads kind tree upper lower := by
  simp only [edgeList, List.mem_dedup, List.mem_filter, decide_eq_true_eq, leads_iff]
  tauto

theorem nodup_edgeList (topo : Topology) (kind : TreeKind) (tree : TreeId) :
    (topo.edgeList kind tree).Nodup :=
  List.nodup_dedup _

theorem encard_edges (topo : Topology) (kind : TreeKind) (tree : TreeId) :
    (topo.edges kind tree).encard = (topo.edgeList kind tree).length := by
  have hedges : topo.edges kind tree = {edge | edge ∈ topo.edgeList kind tree} :=
    Set.ext fun _ => mem_edgeList.symm
  rw [hedges, encard_setOf_mem (topo.nodup_edgeList kind tree)]

theorem finite_edges (topo : Topology) (kind : TreeKind) (tree : TreeId) :
    (topo.edges kind tree).Finite :=
  Set.finite_of_encard_eq_coe (topo.encard_edges kind tree)

section WaysIn

variable (hnone : ∀ upper, ¬ topo.Leads kind tree upper root)
  (hsome : ∀ lower, topo.carries kind tree lower → lower ≠ root →
    ∃ upper, topo.Leads kind tree upper lower)

include hnone hsome

/-- The lower ends of the edges are the members but the root. -/
theorem image_snd_edges :
    Prod.snd '' topo.edges kind tree = {id | topo.carries kind tree id} \ {root} := by
  ext lower
  constructor
  · rintro ⟨⟨upper, _⟩, hedge, rfl⟩
    exact ⟨hedge.2.1, fun heq => hnone upper (heq ▸ hedge)⟩
  · rintro ⟨hlower, hne⟩
    obtain ⟨upper, hedge⟩ := hsome lower hlower hne
    exact ⟨(upper, lower), hedge, rfl⟩

/-- Edges that never share a lower end are one way in for each of the lower ends. -/
theorem isRootedTree_iff_injOn :
    topo.IsRootedTree kind tree root ↔ Set.InjOn Prod.snd (topo.edges kind tree) := by
  constructor
  · rintro ⟨-, hone⟩ ⟨upper, lower⟩ hedge ⟨upper', _⟩ hedge' rfl
    have hne : lower ≠ root := fun heq => hnone upper (heq ▸ hedge)
    exact Prod.ext ((hone lower hedge.2.1 hne).unique hedge hedge') rfl
  · intro hinj
    refine ⟨hnone, fun lower hlower hne => ?_⟩
    obtain ⟨upper, hedge⟩ := hsome lower hlower hne
    refine ⟨upper, hedge, fun upper' hedge' => ?_⟩
    have hmem : (upper, lower) ∈ topo.edges kind tree := hedge
    have hmem' : (upper', lower) ∈ topo.edges kind tree := hedge'
    exact congrArg Prod.fst (hinj hmem' hmem rfl)

/-- With a way in for every member but the root, one each means one edge fewer than members. -/
theorem isRootedTree_iff_encard_edges (hroot : topo.carries kind tree root) :
    topo.IsRootedTree kind tree root ↔
      (topo.edges kind tree).encard + 1 = (topo.treeReport kind tree).members := by
  have hends : (Prod.snd '' topo.edges kind tree).encard + 1 =
      (topo.treeReport kind tree).members := by
    have hmem : root ∈ {id | topo.carries kind tree id} := hroot
    rw [image_snd_edges hnone hsome, Set.encard_sdiff_singleton_add_one hmem, encard_members]
  rw [isRootedTree_iff_injOn hnone hsome, ← hends]
  constructor
  · intro hinj
    rw [hinj.encard_image]
  · intro hcard
    have hcard := ENat.add_left_injective_of_ne_top ENat.one_ne_top hcard
    exact (topo.finite_edges kind tree).injOn_of_encard_image_eq hcard.symm

end WaysIn

/-- **A consistent tree is a rooted tree exactly when it has one edge fewer than members**; the
root has no way in, and the others have at least one, in any case. -/
theorem isRootedTree_iff_of_isConsistent (h : (topo.treeReport kind tree).isConsistent) :
    ∃ root, (topo.treeReport kind tree).roots = [root] ∧ topo.Spans kind tree root ∧
      (∀ upper, ¬ topo.Leads kind tree upper root) ∧
      (∀ lower, topo.carries kind tree lower → lower ≠ root →
        ∃ upper, topo.Leads kind tree upper lower) ∧
      (topo.IsRootedTree kind tree root ↔
        (topo.edges kind tree).encard + 1 = (topo.treeReport kind tree).members) := by
  obtain ⟨root, hroots, hacyclic, hspans⟩ := isConsistent_iff.1 h
  have hroot : topo.carries kind tree root := (isFirstRoot_iff.2 ⟨[], hroots⟩).1.1
  have hnone := hspans.not_leads_root hacyclic
  have hsome := hspans.exists_leads
  exact ⟨root, hroots, hspans, hnone, hsome, isRootedTree_iff_encard_edges hnone hsome hroot⟩

/-- The fork is consistent, and its two edges make it a rooted tree. -/
theorem isRootedTree_fork :
    (fork.treeReport .stacked ⟨"S"⟩).isConsistent ∧
      ∃ root, (fork.treeReport .stacked ⟨"S"⟩).roots = [root] ∧
        fork.IsRootedTree .stacked ⟨"S"⟩ root := by
  have hconsistent : (fork.treeReport .stacked ⟨"S"⟩).isConsistent := by cbv
  obtain ⟨root, hroots, -, -, -, hcount⟩ := isRootedTree_iff_of_isConsistent hconsistent
  refine ⟨hconsistent, root, hroots, hcount.2 ?_⟩
  have hmembers : (fork.treeReport .stacked ⟨"S"⟩).members = 3 := by decide +kernel
  have hedges : (fork.edgeList .stacked ⟨"S"⟩).length = 2 := by decide +kernel
  rw [encard_edges, hedges, hmembers]
  rfl

/-! ## A child of two members -/

/-- A stacked tree `S` with root `A`, whose children `B` and `C` share the child `D`. -/
def diamond : Topology :=
  empty
    |>.place (.inTree ⟨"A"⟩ .stacked ⟨"S"⟩
      [(⟨1⟩, ⟨⟨"B"⟩, ⟨0⟩⟩), (⟨2⟩, ⟨⟨"C"⟩, ⟨0⟩⟩)] [(⟨1⟩, .child), (⟨2⟩, .child)])
    |>.place (.inTree ⟨"B"⟩ .stacked ⟨"S"⟩
      [(⟨0⟩, ⟨⟨"A"⟩, ⟨1⟩⟩), (⟨1⟩, ⟨⟨"D"⟩, ⟨0⟩⟩)] [(⟨0⟩, .parent), (⟨1⟩, .child)])
    |>.place (.inTree ⟨"C"⟩ .stacked ⟨"S"⟩
      [(⟨0⟩, ⟨⟨"A"⟩, ⟨2⟩⟩), (⟨1⟩, ⟨⟨"D"⟩, ⟨1⟩⟩)] [(⟨0⟩, .parent), (⟨1⟩, .child)])
    |>.place (.inTree ⟨"D"⟩ .stacked ⟨"S"⟩
      [(⟨0⟩, ⟨⟨"B"⟩, ⟨1⟩⟩), (⟨1⟩, ⟨⟨"C"⟩, ⟨1⟩⟩)] [(⟨0⟩, .parent), (⟨1⟩, .parent)])

/-- The diamond is called consistent and is no rooted tree: `B` and `C` both lead to `D`. -/
theorem diamond_isConsistent :
    (diamond.treeReport .stacked ⟨"S"⟩).isConsistent ∧
      ¬ ∃ root, (diamond.treeReport .stacked ⟨"S"⟩).roots = [root] ∧
        diamond.IsRootedTree .stacked ⟨"S"⟩ root := by
  refine ⟨by cbv, ?_⟩
  rintro ⟨root, hroots, htree⟩
  have hroots' : (diamond.treeReport .stacked ⟨"S"⟩).roots = [⟨"A"⟩] := by decide +kernel
  have hroot : root = ⟨"A"⟩ := List.singleton_inj.1 (hroots.symm.trans hroots')
  have hleft : diamond.Leads .stacked ⟨"S"⟩ ⟨"B"⟩ ⟨"D"⟩ := by decide +kernel
  have hright : diamond.Leads .stacked ⟨"S"⟩ ⟨"C"⟩ ⟨"D"⟩ := by decide +kernel
  have hne : (⟨"D"⟩ : CellId) ≠ root := by rw [hroot]; decide
  have hsame := (htree.oneWayIn ⟨"D"⟩ hleft.2.1 hne).unique hleft hright
  exact absurd hsame (by decide)

end CellNet.Topology
