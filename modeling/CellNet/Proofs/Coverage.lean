import CellNet.Proofs.RootedTree

/-!
# How far a highlight and a report reach

**Theorem (`highlight_within_report`).** A highlight of a tree and the report on it start at the
same cell, and the highlight marks at most as many cells as the report calls reachable, which are
at most the members. It marks as many when every parent port that leads to a member is answered by
a child port that leads back.

Both walk the members from the first root. The highlight follows child ports only, the report
either half of an edge, so what the one reaches the other reaches too; and where parent ports are
answered, an edge described from below is also described from above.
-/

namespace CellNet

theorem encard_mem_treeSet {α : Type u} [Ord α] [Std.TransOrd α] [Std.LawfulEqOrd α]
    [DecidableEq α] (s : Std.ExtTreeSet α) : {a | a ∈ s}.encard = s.size := by
  rw [← Std.ExtTreeSet.length_toList, ← encard_setOf_mem (nodup_of_sorted s.ordered_toList)]
  exact congrArg Set.encard (Set.ext fun _ => Std.ExtTreeSet.mem_toList.symm)

namespace Topology

variable {topo : Topology} {kind : TreeKind} {tree : TreeId} {id root upper lower : CellId}

/-! ## Answered parent ports -/

/-- Every parent port that leads to a member is answered by a child port of that member. -/
def ParentsAnswered (topo : Topology) (kind : TreeKind) (tree : TreeId) : Prop :=
  ∀ lower port upper, topo.HasRole kind tree lower port .parent →
    topo.cellBehind? lower port = some upper → topo.carries kind tree upper →
      ∃ port, topo.HasRole kind tree upper port .child ∧ topo.cellBehind? upper port = some lower

/-- Answers can be checked port by port. -/
theorem parentsAnswered_iff : topo.ParentsAnswered kind tree ↔
    ∀ lower ∈ topo.members kind tree, ∀ port ∈ topo.rolePorts kind tree lower .parent,
      ∀ upper ∈ topo.cellBehind? lower port, topo.carries kind tree upper →
        lower ∈ topo.childCells kind tree upper := by
  simp only [mem_rolePorts, mem_childCells, Option.mem_def]
  constructor
  · intro h lower _ port hrole upper
    exact h lower port upper hrole
  · intro h lower port upper hrole
    exact h lower (mem_members.2 hrole.carries) port hrole upper

instance (topo : Topology) (kind : TreeKind) (tree : TreeId) :
    Decidable (topo.ParentsAnswered kind tree) :=
  decidable_of_iff _ parentsAnswered_iff.symm

/-- Where parent ports are answered, every edge is a step down. -/
theorem ParentsAnswered.descends (h : topo.ParentsAnswered kind tree)
    (hedge : topo.Leads kind tree upper lower) : topo.Descends kind tree upper lower := by
  obtain ⟨hupper, hlower, hchild | ⟨port, hrole, hbehind⟩⟩ := hedge
  · exact ⟨hupper, hlower, hchild⟩
  · exact ⟨hupper, hlower, h lower port upper hrole hbehind hupper⟩

/-! ## What both reach -/

theorem ReachedFrom.led (h : topo.ReachedFrom kind tree root id) :
    Relation.ReflTransGen (topo.Leads kind tree) root id :=
  Relation.ReflTransGen.mono (fun _ _ => Descends.leads) _ _ h.2

theorem ParentsAnswered.reachedFrom_iff (h : topo.ParentsAnswered kind tree)
    (hroot : topo.carries kind tree root) : topo.ReachedFrom kind tree root id ↔
      Relation.ReflTransGen (topo.Leads kind tree) root id :=
  ⟨ReachedFrom.led, fun hled => ⟨hroot, .mono (fun _ _ => h.descends) _ _ hled⟩⟩

theorem IsFirstRoot.reachable_le_members (h : topo.IsFirstRoot kind tree root) :
    (topo.treeReport kind tree).reachable ≤ (topo.treeReport kind tree).members := by
  rw [← Nat.cast_le (α := ℕ∞), ← h.encard_led, ← encard_members]
  exact Set.encard_le_encard fun id hid => carries_of_led h.1.1 hid

end Topology

/-! ## Highlight and report -/

/-- A highlight starts where a report does, and marks no more than the report calls reachable. -/
structure Highlight.Within (h : Highlight) (r : TreeReport) : Prop where
  start : r.roots.head? = some h.root
  size_le : h.nodes.size ≤ r.reachable
  reachable_le : r.reachable ≤ r.members

namespace Highlight.MarksClosure

variable {h : Highlight} {topo : Topology} {kind : TreeKind} {tree : TreeId} {root : CellId}
  {keep : CellId → Prop}

theorem within (hmarks : h.MarksClosure topo kind tree root keep)
    (hroot : topo.IsFirstRoot kind tree root) : h.Within (topo.treeReport kind tree) where
  start := by
    rw [hmarks.root_eq]
    exact Topology.head?_roots_eq_some_iff.2 hroot
  size_le := by
    rw [← Nat.cast_le (α := ℕ∞), ← encard_mem_treeSet, ← hroot.encard_led]
    exact Set.encard_le_encard fun id hid => ((hmarks.nodes id).1 hid).led
  reachable_le := hroot.reachable_le_members

/-- Where parent ports are answered, the closure of the first root is what the report calls
reachable. -/
theorem size_eq_reachable (hmarks : h.MarksClosure topo kind tree root keep)
    (hroot : topo.IsFirstRoot kind tree root) (hanswered : topo.ParentsAnswered kind tree) :
    h.nodes.size = (topo.treeReport kind tree).reachable := by
  rw [← Nat.cast_inj (R := ℕ∞), ← encard_mem_treeSet, ← hroot.encard_led]
  exact congrArg Set.encard <| Set.ext fun id =>
    (hmarks.nodes id).trans (hanswered.reachedFrom_iff hroot.1.1)

end Highlight.MarksClosure

namespace Topology

/-- **Highlights stay within reports**, of stacked trees that have a root, and of the black trees
whose first root is the cell they are named after. -/
theorem highlight_within_report (topo : Topology) :
    (∀ tree, (∃ id, topo.IsRoot .stacked tree id) →
      ∃ h, topo.stackedHighlight tree = .ok h ∧ h.Within (topo.treeReport .stacked tree) ∧
        (topo.ParentsAnswered .stacked tree →
          h.nodes.size = (topo.treeReport .stacked tree).reachable)) ∧
    ∀ root, (topo.treeReport .black (.blackOf root)).roots.head? = some root →
      (topo.blackHighlight root).Within (topo.treeReport .black (.blackOf root)) ∧
        (topo.ParentsAnswered .black (.blackOf root) →
          (topo.blackHighlight root).nodes.size =
            (topo.treeReport .black (.blackOf root)).reachable) := by
  constructor
  · rintro tree ⟨id, hid⟩
    obtain ⟨first, hfirst⟩ := hid.exists_isFirstRoot
    have hok := stackedHighlight_of_isFirstRoot hfirst
    obtain ⟨root, hroot, hmarks⟩ := exists_marksClosure_of_eq_ok hok
    exact ⟨_, hok, hmarks.within hroot, hmarks.size_eq_reachable hroot⟩
  · intro root hhead
    have hroot : topo.IsFirstRoot .black (.blackOf root) root := head?_roots_eq_some_iff.1 hhead
    have hmarks := topo.marksClosure_highlightFrom .black (.blackOf root) root fun _ => true
    exact ⟨hmarks.within hroot, hmarks.size_eq_reachable hroot⟩

/-- The parent ports of the fork are answered, so both of its trees are marked as far as they are
reachable. -/
theorem highlight_within_report_fork :
    ((∃ id, fork.IsRoot .stacked ⟨"S"⟩ id) ∧ fork.ParentsAnswered .stacked ⟨"S"⟩ ∧
      ∃ h, fork.stackedHighlight ⟨"S"⟩ = .ok h ∧ h.Within (fork.treeReport .stacked ⟨"S"⟩) ∧
        h.nodes.size = (fork.treeReport .stacked ⟨"S"⟩).reachable) ∧
    (fork.treeReport .black (.blackOf ⟨"A"⟩)).roots.head? = some ⟨"A"⟩ ∧
      fork.ParentsAnswered .black (.blackOf ⟨"A"⟩) ∧
      (fork.blackHighlight ⟨"A"⟩).Within (fork.treeReport .black (.blackOf ⟨"A"⟩)) ∧
      (fork.blackHighlight ⟨"A"⟩).nodes.size =
        (fork.treeReport .black (.blackOf ⟨"A"⟩)).reachable := by
  have hroot : ∃ id, fork.IsRoot .stacked ⟨"S"⟩ id := ⟨⟨"A"⟩, mem_roots.1 (by decide +kernel)⟩
  have hstacked : fork.ParentsAnswered .stacked ⟨"S"⟩ := by decide +kernel
  have hhead : (fork.treeReport .black (.blackOf ⟨"A"⟩)).roots.head? = some ⟨"A"⟩ := by
    decide +kernel
  have hblack : fork.ParentsAnswered .black (.blackOf ⟨"A"⟩) := by decide +kernel
  obtain ⟨h, hok, hwithin, hsize⟩ := (highlight_within_report fork).1 ⟨"S"⟩ hroot
  obtain ⟨hwithin', hsize'⟩ := (highlight_within_report fork).2 ⟨"A"⟩ hhead
  exact ⟨⟨hroot, hstacked, h, hok, hwithin, hsize hstacked⟩, hhead, hblack, hwithin',
    hsize' hblack⟩

end Topology

end CellNet
