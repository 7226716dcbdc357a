import CellNet.Highlight

/-!
# Is a tree one tree?

A report looks at one tree across the whole topology, as a graph on its members. An edge leads from
a member to another when either side says so: the upper one with a child port, or the lower one with
a parent port. A tree is called consistent when it has one root, no cycle, and every member can be
reached from the root.
-/

namespace CellNet

/-- What is found when a tree is checked. -/
structure TreeReport where
  tree : TreeId
  kind : TreeKind
  /-- How many placed cells carry the tree. -/
  members : Nat
  /-- The members without a parent port, in cell order. -/
  roots : List CellId
  /-- How many members can be reached from the first root. -/
  reachable : Nat
  cyclic : Bool
deriving DecidableEq, Repr

namespace TreeReport

/-- One root, no cycle, all members reachable. -/
def isConsistent (r : TreeReport) : Bool :=
  r.roots.length == 1 && !r.cyclic && r.reachable == r.members

/-- What keeps a tree from being one, in words. -/
def problems (r : TreeReport) : List String :=
  let roots := match r.roots.length with
    | 0 => ["no root"]
    | 1 => []
    | n => [toString n ++ " roots"]
  let cycle := if r.cyclic then ["cycle"] else []
  let lost :=
    if r.roots ≠ [] ∧ r.reachable < r.members then
      [toString (r.members - r.reachable) ++ " unreachable"]
    else []
  roots ++ cycle ++ lost

end TreeReport

namespace Topology

/-- The edges of a tree as its members describe them, from the upper end to the lower. An end that
is no member counts for nothing. -/
def treeEdges (topo : Topology) (kind : TreeKind) (tree : TreeId) : List (CellId × CellId) :=
  (topo.members kind tree).flatMap fun id =>
    match topo.roles? kind tree id with
    | none => []
    | some roles =>
      (roles.childPorts.filterMap (topo.cellBehind? id)).map (id, ·) ++
        (roles.parentPorts.filterMap (topo.cellBehind? id)).map (·, id)

/-- The members of a tree and the edges either side describes. -/
def treeGraph (topo : Topology) (kind : TreeKind) (tree : TreeId) : Digraph CellId :=
  let edges := topo.treeEdges kind tree
  { vertices := topo.members kind tree
    next := fun id => edges.filterMap fun (upper, lower) =>
      if upper = id then some lower else none }

/-- Checks one tree across the topology. -/
def treeReport (topo : Topology) (kind : TreeKind) (tree : TreeId) : TreeReport :=
  let graph := topo.treeGraph kind tree
  let roots := topo.roots kind tree
  { tree, kind, roots
    members := graph.vertices.length
    reachable := match roots with
      | [] => 0
      | root :: _ => (graph.reach root).length
    cyclic := graph.isCyclic }

end Topology

end CellNet
