import CellNet.TreeReport
import CellNet.Proofs.TwoSided

/-!
# What a tree's highlight and report depend on

**Theorem (`results_of_tree_only`).** Two topologies have the same report on a tree, and the same
highlight of it with the same warnings, when they agree on the tree (`SameTree`): the same placed
cells take part in it, and each gives the same ports the roles of parent and child and has the same
neighbours behind them. Nothing else is looked at. In particular a topology can be cut down to the
tree (`onlyTree`): other cells and other trees are dropped, and so are other ports with their roles
and their neighbours; positions are set to zero and borders forgotten.

The walk and the report look up cells far from the one they are at, to see whether these take part
in the tree, and a cell's list of ports is gathered from a map that holds other ports as well. So
the lists they go through are compared first. They are sorted, and so they are equal as soon as they
have the same elements (`eq_of_sorted`): the members, the roots, and the ports of a role. Behind
such a port both topologies have the same cell, and so the two graphs that are searched are equal,
and the searches as well.
-/

namespace CellNet

namespace Topology

variable {topo other : Topology} {kind : TreeKind} {tree : TreeId} {id root : CellId} {port : Port}
  {role : Role} {keep : CellId → Bool}

/-! ## Everything is read off members, role ports and neighbours -/

theorem childCells_eq_filterMap (topo : Topology) (kind : TreeKind) (tree : TreeId) (id : CellId) :
    topo.childCells kind tree id =
      (topo.rolePorts kind tree id .child).filterMap (topo.cellBehind? id) := by
  rw [childCells, rolePorts]
  cases topo.roles? kind tree id <;> rfl

theorem parentLinks_eq_filterMap (topo : Topology) (kind : TreeKind) (tree : TreeId)
    (keep : CellId → Bool) (id : CellId) : topo.parentLinks kind tree keep id =
      (topo.rolePorts kind tree id .parent).filterMap fun port =>
        (topo.cellBehind? id port).bind fun cell =>
          if keep cell then topo.linkThrough? id port else none := by
  rw [parentLinks, rolePorts]
  cases topo.roles? kind tree id <;> rfl

theorem unconnectedPorts_eq_filter (topo : Topology) (kind : TreeKind) (tree : TreeId)
    (id : CellId) : topo.unconnectedPorts kind tree id =
      (topo.rolePorts kind tree id .parent ++ (topo.rolePorts kind tree id .child).reverse).filter
        fun port => (topo.cellBehind? id port).isNone := by
  rw [unconnectedPorts, rolePorts, rolePorts]
  cases topo.roles? kind tree id <;> rfl

theorem treeEdges_eq_flatMap (topo : Topology) (kind : TreeKind) (tree : TreeId) :
    topo.treeEdges kind tree = (topo.members kind tree).flatMap fun id =>
      ((topo.rolePorts kind tree id .child).filterMap (topo.cellBehind? id)).map (id, ·) ++
        ((topo.rolePorts kind tree id .parent).filterMap (topo.cellBehind? id)).map (·, id) := by
  rw [treeEdges]
  refine congrArg (List.flatMap · _) (funext fun id => ?_)
  rw [rolePorts, rolePorts]
  cases topo.roles? kind tree id <;> rfl

/-! ## Agreeing on a tree -/

/-- Two topologies agree on a tree: on who takes part in it, on the ports that lead up and down, and
on what is behind these. -/
structure SameTree (topo other : Topology) (kind : TreeKind) (tree : TreeId) : Prop where
  members : ∀ id, topo.carries kind tree id ↔ other.carries kind tree id
  parents : ∀ id port,
    topo.HasRole kind tree id port .parent ↔ other.HasRole kind tree id port .parent
  children : ∀ id port,
    topo.HasRole kind tree id port .child ↔ other.HasRole kind tree id port .child
  neighbors : ∀ id port,
    topo.HasRole kind tree id port .parent ∨ topo.HasRole kind tree id port .child →
      topo.neighbor? id port = other.neighbor? id port

namespace SameTree

variable (h : SameTree topo other kind tree)

include h

theorem carries_eq : topo.carries kind tree = other.carries kind tree :=
  funext fun id => Bool.eq_iff_iff.2 (h.members id)

theorem members_eq : topo.members kind tree = other.members kind tree := by
  refine eq_of_sorted (topo.cells.ordered_keys.filter _) (other.cells.ordered_keys.filter _) ?_
  intro id
  exact mem_members.trans ((h.members id).trans mem_members.symm)

theorem roots_eq : topo.roots kind tree = other.roots kind tree := by
  refine eq_of_sorted (topo.pairwise_roots kind tree) (other.pairwise_roots kind tree) ?_
  intro id
  rw [mem_roots, mem_roots, IsRoot, IsRoot, h.members id]
  exact and_congr_right fun _ => forall_congr' fun port => not_congr (h.parents id port)

end SameTree

theorem rolePorts_congr
    (h : ∀ port, topo.HasRole kind tree id port role ↔ other.HasRole kind tree id port role) :
    topo.rolePorts kind tree id role = other.rolePorts kind tree id role := by
  refine eq_of_sorted (pairwise_rolePorts ..) (pairwise_rolePorts ..) fun port => ?_
  rw [mem_rolePorts, mem_rolePorts, h port]

namespace SameTree

variable (h : SameTree topo other kind tree)

include h

theorem parentPorts_eq (id : CellId) :
    topo.rolePorts kind tree id .parent = other.rolePorts kind tree id .parent :=
  rolePorts_congr (h.parents id)

theorem childPorts_eq (id : CellId) :
    topo.rolePorts kind tree id .child = other.rolePorts kind tree id .child :=
  rolePorts_congr (h.children id)

theorem neighbor?_eq (hport : port ∈ topo.rolePorts kind tree id .parent ∨
    port ∈ topo.rolePorts kind tree id .child) :
    topo.neighbor? id port = other.neighbor? id port :=
  h.neighbors id port (by simpa using hport)

theorem cellBehind?_eq (hport : port ∈ topo.rolePorts kind tree id .parent ∨
    port ∈ topo.rolePorts kind tree id .child) :
    topo.cellBehind? id port = other.cellBehind? id port := by
  rw [Topology.cellBehind?_eq, Topology.cellBehind?_eq, h.neighbor?_eq hport]

theorem linkThrough?_eq (hport : port ∈ topo.rolePorts kind tree id .parent) :
    topo.linkThrough? id port = other.linkThrough? id port := by
  rw [Topology.linkThrough?_eq, Topology.linkThrough?_eq, h.neighbor?_eq (.inl hport)]

theorem childCells_eq : topo.childCells kind tree = other.childCells kind tree := by
  funext id
  rw [childCells_eq_filterMap, childCells_eq_filterMap, ← h.childPorts_eq]
  exact List.filterMap_congr fun port hport => h.cellBehind?_eq (.inr hport)

theorem descent_eq : topo.descent kind tree = other.descent kind tree := by
  rw [descent, descent, h.members_eq, h.childCells_eq]

theorem parentLinks_eq :
    topo.parentLinks kind tree keep = other.parentLinks kind tree keep := by
  funext id
  rw [parentLinks_eq_filterMap, parentLinks_eq_filterMap, ← h.parentPorts_eq]
  refine List.filterMap_congr fun port hport => ?_
  rw [h.cellBehind?_eq (.inl hport), h.linkThrough?_eq hport]

theorem unconnectedPorts_eq :
    topo.unconnectedPorts kind tree = other.unconnectedPorts kind tree := by
  funext id
  rw [unconnectedPorts_eq_filter, unconnectedPorts_eq_filter, ← h.parentPorts_eq,
    ← h.childPorts_eq]
  refine List.filter_congr fun port hport => ?_
  rw [h.cellBehind?_eq (by simpa using hport)]

theorem stepWarnings_eq : topo.stepWarnings kind tree = other.stepWarnings kind tree := by
  funext step
  cases step with
  | enter id => rw [stepWarnings, stepWarnings, h.unconnectedPorts_eq]
  | again id => rfl

theorem highlightFrom_eq (root : CellId) (keep : CellId → Bool) :
    topo.highlightFrom kind tree root keep = other.highlightFrom kind tree root keep := by
  simp only [highlightFrom, h.descent_eq, h.parentLinks_eq, h.stepWarnings_eq]

theorem treeEdges_eq : topo.treeEdges kind tree = other.treeEdges kind tree := by
  rw [treeEdges_eq_flatMap, treeEdges_eq_flatMap, ← h.members_eq]
  refine congrArg (List.flatMap · _) (funext fun id => ?_)
  rw [← h.childPorts_eq, ← h.parentPorts_eq,
    List.filterMap_congr fun port hport => h.cellBehind?_eq (.inr hport),
    List.filterMap_congr fun port hport => h.cellBehind?_eq (.inl hport)]

theorem treeGraph_eq : topo.treeGraph kind tree = other.treeGraph kind tree := by
  rw [treeGraph, treeGraph, h.members_eq, h.treeEdges_eq]

end SameTree

/-- Whether two topologies agree on a tree is seen from the lists of members and of ports. -/
theorem sameTree_iff : SameTree topo other kind tree ↔
    topo.members kind tree = other.members kind tree ∧ ∀ id ∈ topo.members kind tree,
      topo.rolePorts kind tree id .parent = other.rolePorts kind tree id .parent ∧
      topo.rolePorts kind tree id .child = other.rolePorts kind tree id .child ∧
      ∀ port ∈ topo.rolePorts kind tree id .parent ++ topo.rolePorts kind tree id .child,
        topo.neighbor? id port = other.neighbor? id port := by
  constructor
  · intro h
    exact ⟨h.members_eq, fun id _ => ⟨h.parentPorts_eq id, h.childPorts_eq id,
      fun port hport => h.neighbor?_eq (List.mem_append.1 hport)⟩⟩
  · rintro ⟨hmembers, hports⟩
    have hcarries : ∀ id, topo.carries kind tree id ↔ other.carries kind tree id := by
      intro id
      rw [← mem_members, hmembers, mem_members]
    -- A cell that takes part in neither tree has no ports in either.
    have hroles : ∀ id port role, (topo.carries kind tree id →
        topo.rolePorts kind tree id role = other.rolePorts kind tree id role) →
          (topo.HasRole kind tree id port role ↔ other.HasRole kind tree id port role) := by
      intro id port role heq
      constructor
      · intro hrole
        rwa [← mem_rolePorts, ← heq hrole.carries, mem_rolePorts]
      · intro hrole
        rwa [← mem_rolePorts, heq ((hcarries id).2 hrole.carries), mem_rolePorts]
    refine ⟨hcarries, fun id port => ?_, fun id port => ?_, fun id port hport => ?_⟩
    · exact hroles id port .parent fun hid => (hports id (mem_members.2 hid)).1
    · exact hroles id port .child fun hid => (hports id (mem_members.2 hid)).2.1
    · have hid : topo.carries kind tree id := hport.elim HasRole.carries HasRole.carries
      exact (hports id (mem_members.2 hid)).2.2 port (by simpa using hport)

instance (topo other : Topology) (kind : TreeKind) (tree : TreeId) :
    Decidable (SameTree topo other kind tree) :=
  decidable_of_iff _ sameTree_iff.symm

/-- Two topologies have the same report on a tree and the same highlight of it. -/
structure SameResults (topo other : Topology) (kind : TreeKind) (tree : TreeId) : Prop where
  report : topo.treeReport kind tree = other.treeReport kind tree
  black : kind = .black → ∀ root, tree = .blackOf root →
    topo.blackHighlight root = other.blackHighlight root
  stacked : kind = .stacked → topo.stackedHighlight tree = other.stackedHighlight tree

theorem SameTree.sameResults (h : SameTree topo other kind tree) :
    SameResults topo other kind tree where
  report := by
    rw [treeReport, treeReport, h.treeGraph_eq, h.roots_eq]
  black := by
    rintro rfl root rfl
    exact h.highlightFrom_eq root _
  stacked := by
    rintro rfl
    rw [stackedHighlight, stackedHighlight, h.roots_eq, h.carries_eq]
    simp only [h.highlightFrom_eq]

end Topology

/-! ## Cutting down to a tree -/

/-- Whether ports of a role lead along the tree. -/
def Role.leads : Role → Bool
  | .parent | .child => true
  | .other _ => false

/-- What a cell has to do with one tree, if it takes part in it: the ports that lead along the tree,
and what is behind these. -/
def Cell.onlyTree? (cell : Cell) (kind : TreeKind) (tree : TreeId) : Option Cell :=
  (cell.tree? kind tree).map fun roles =>
    let ports := roles.filter fun _ role => role.leads
    let bare : Cell :=
      { id := cell.id, row := 0, col := 0, isBorder := false
        neighbors := cell.neighbors.filter fun port _ => ports.contains port }
    bare.withTrees ((∅ : Std.ExtTreeMap TreeId PortTree).insert tree ports) kind

namespace Topology

variable {topo : Topology} {kind : TreeKind} {tree : TreeId} {id : CellId} {port : Port}
  {role : Role}

/-- A topology cut down to one tree. -/
def onlyTree (topo : Topology) (kind : TreeKind) (tree : TreeId) : Topology where
  cells := topo.cells.filterMap fun _ cell => cell.onlyTree? kind tree

theorem cell?_onlyTree (topo : Topology) (kind : TreeKind) (tree : TreeId) (id : CellId) :
    (topo.onlyTree kind tree).cell? id =
      (topo.cell? id).bind fun cell => cell.onlyTree? kind tree :=
  Std.ExtTreeMap.getElem?_filterMap'

theorem roles?_onlyTree (topo : Topology) (kind : TreeKind) (tree : TreeId) (id : CellId) :
    (topo.onlyTree kind tree).roles? kind tree id =
      (topo.roles? kind tree id).map (·.filter fun _ role => role.leads) := by
  rw [roles?, roles?, cell?_onlyTree]
  cases topo.cell? id with
  | none => rfl
  | some cell =>
    simp only [Option.bind_some, Cell.onlyTree?]
    cases cell.tree? kind tree with
    | none => rfl
    | some roles => simp

theorem hasRole_onlyTree_iff : (topo.onlyTree kind tree).HasRole kind tree id port role ↔
    topo.HasRole kind tree id port role ∧ role.leads := by
  simp only [HasRole, roles?_onlyTree]
  cases topo.roles? kind tree id with
  | none => simp
  | some roles => simp [Option.filter_eq_some_iff]

/-- A topology agrees on a tree with what it is when cut down to it. -/
theorem sameTree_onlyTree (topo : Topology) (kind : TreeKind) (tree : TreeId) :
    SameTree topo (topo.onlyTree kind tree) kind tree where
  members id := by simp [carries, roles?_onlyTree]
  parents id port := by simp [hasRole_onlyTree_iff, Role.leads]
  children id port := by simp [hasRole_onlyTree_iff, Role.leads]
  neighbors id port hport := by
    obtain ⟨role, hleads, roles, hroles, hrole⟩ :
        ∃ role, role.leads ∧ topo.HasRole kind tree id port role := by
      rcases hport with hport | hport
      · exact ⟨_, rfl, hport⟩
      · exact ⟨_, rfl, hport⟩
    rw [neighbor?, neighbor?, cell?_onlyTree]
    rw [roles?] at hroles
    cases hcell : topo.cell? id with
    | none => rfl
    | some cell =>
      rw [hcell, Option.bind_some] at hroles
      have hkept : (roles.filter fun _ role => role.leads).contains port := by
        simp [Std.ExtTreeMap.mem_iff_isSome_getElem?, hrole, hleads]
      simp only [Option.bind_some, Cell.onlyTree?, hroles, Option.map_some]
      rw [Cell.neighbor?_withTrees, Cell.neighbor?, Cell.neighbor?, Std.ExtTreeMap.getElem?_filter']
      cases cell.neighbors[port]? with
      | none => rfl
      | some far =>
        symm
        apply Option.filter_some_pos
        exact hkept

/-- **A report and a highlight depend on the tree alone**: they are the same in topologies that
agree on it, and in the topology cut down to it. -/
theorem results_of_tree_only :
    (∀ (topo other : Topology) (kind : TreeKind) (tree : TreeId),
      SameTree topo other kind tree → SameResults topo other kind tree) ∧
    ∀ (topo : Topology) (kind : TreeKind) (tree : TreeId),
      SameResults topo (topo.onlyTree kind tree) kind tree :=
  ⟨fun _ _ _ _ => SameTree.sameResults,
    fun topo kind tree => (topo.sameTree_onlyTree kind tree).sameResults⟩

/-- The fork, moved to another place with its border, with a third tree and other words for further
ports, a further connection that is no part of the trees, and a further cell. -/
def movedFork : Topology :=
  let cell (id : CellId) (row : Nat) (neighbors : List (Port × Neighbor))
      (roles : List (Port × Role)) : Cell :=
    { id, row, col := 7, isBorder := true
      neighbors := Std.ExtTreeMap.ofList neighbors compare
      blackTrees := Std.ExtTreeMap.ofList [(.blackOf ⟨"A"⟩, Std.ExtTreeMap.ofList roles compare),
        (.blackOf ⟨"B"⟩, Std.ExtTreeMap.ofList [(⟨1⟩, .parent)] compare)] compare
      stackedTrees := (∅ : Std.ExtTreeMap TreeId PortTree).insert ⟨"S"⟩
        (Std.ExtTreeMap.ofList roles compare) }
  empty
    |>.place (cell ⟨"A"⟩ 1 [(⟨1⟩, ⟨⟨"B"⟩, ⟨0⟩⟩), (⟨2⟩, ⟨⟨"C"⟩, ⟨5⟩⟩), (⟨3⟩, ⟨⟨"D"⟩, ⟨0⟩⟩)]
      [(⟨1⟩, .child), (⟨2⟩, .child), (⟨3⟩, .other "Spare")])
    |>.place (cell ⟨"B"⟩ 2 [(⟨0⟩, ⟨⟨"A"⟩, ⟨1⟩⟩), (⟨1⟩, ⟨⟨"C"⟩, ⟨1⟩⟩)]
      [(⟨0⟩, .parent), (⟨4⟩, .other "Spare")])
    |>.place (cell ⟨"C"⟩ 3 [(⟨5⟩, ⟨⟨"A"⟩, ⟨2⟩⟩)] [(⟨5⟩, .parent)])
    |>.place (.inTree ⟨"D"⟩ .black (.blackOf ⟨"D"⟩) [(⟨0⟩, ⟨⟨"A"⟩, ⟨3⟩⟩)] [])

/-- All that has been changed in the fork is not looked at. -/
theorem results_of_tree_only_movedFork :
    (SameTree fork movedFork .black (.blackOf ⟨"A"⟩) ∧
      fork.treeReport .black (.blackOf ⟨"A"⟩) = movedFork.treeReport .black (.blackOf ⟨"A"⟩) ∧
      fork.blackHighlight ⟨"A"⟩ = movedFork.blackHighlight ⟨"A"⟩) ∧
    SameTree fork movedFork .stacked ⟨"S"⟩ ∧
      fork.treeReport .stacked ⟨"S"⟩ = movedFork.treeReport .stacked ⟨"S"⟩ ∧
      fork.stackedHighlight ⟨"S"⟩ = movedFork.stackedHighlight ⟨"S"⟩ := by
  have hblack : SameTree fork movedFork .black (.blackOf ⟨"A"⟩) := by decide +kernel
  have hstacked : SameTree fork movedFork .stacked ⟨"S"⟩ := by decide +kernel
  have hsame := results_of_tree_only.1 _ _ _ _ hblack
  have hsame' := results_of_tree_only.1 _ _ _ _ hstacked
  exact ⟨⟨hblack, hsame.report, hsame.black rfl _ rfl⟩, hstacked, hsame'.report,
    hsame'.stacked rfl⟩

end Topology

end CellNet
