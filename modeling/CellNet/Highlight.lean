import CellNet.Topology
import CellNet.Digraph

/-!
# Highlighting a spanning tree

A tree is highlighted by walking from its root along child ports. Every member the walk enters is
marked, and so is the link behind each of its parent ports; the walk needs the child ports only to
get around. Whatever does not fit is reported as a warning and otherwise passed over: a port with a
role but no connection, a cell that is reached twice, a stacked tree with several roots.

A black tree is walked from the cell it is named after. A stacked tree is walked from its first
root, and only links to other members are marked.
-/

namespace CellNet

/-- Something odd met while highlighting. -/
inductive Warning where
  /-- Several members of a stacked tree have no parent port; the first is taken. -/
  | severalRoots (roots : List CellId)
  /-- The walk comes upon a cell it has entered before. -/
  | reachedAgain (cell : CellId)
  /-- A parent or child port has no neighbour. -/
  | unconnected (port : Port) (cell : CellId)
deriving DecidableEq, Repr

def Warning.message (tree : TreeId) : Warning → String
  | .severalRoots roots =>
    let names := roots.map CellId.name
    tree.name ++ " has " ++ toString roots.length ++ " roots (" ++ ", ".intercalate names
      ++ "), using " ++ names.headD ""
  | .reachedAgain cell => tree.name ++ " reaches " ++ cell.name ++ " more than once"
  | .unconnected port cell =>
    tree.name ++ " uses unconnected port " ++ toString port ++ " on " ++ cell.name

/-- The marked part of one tree. -/
structure Highlight where
  tree : TreeId
  root : CellId
  nodes : Std.ExtTreeSet CellId
  links : Std.ExtTreeSet LinkId
  warnings : List Warning
deriving DecidableEq

namespace Highlight

def isEmpty (h : Highlight) : Bool := h.nodes.isEmpty && h.links.isEmpty

def messages (h : Highlight) : List String := h.warnings.map (·.message h.tree)

end Highlight

/-- A stacked tree without a root cannot be highlighted. -/
inductive HighlightError where
  | noRoot (tree : TreeId)
deriving DecidableEq, Repr

def HighlightError.message : HighlightError → String
  | .noRoot tree => "No root cell found for " ++ tree.name

namespace Topology

/-- The cells behind the child ports of a member, lowest port first. -/
def childCells (topo : Topology) (kind : TreeKind) (tree : TreeId) (id : CellId) : List CellId :=
  match topo.roles? kind tree id with
  | none => []
  | some roles => roles.childPorts.filterMap (topo.cellBehind? id)

/-- The members of a tree, each leading to the cells behind its child ports. -/
def descent (topo : Topology) (kind : TreeKind) (tree : TreeId) : Digraph CellId where
  vertices := topo.members kind tree
  next := topo.childCells kind tree

/-- The links behind the parent ports of a member, of those whose far side `keep` accepts. -/
def parentLinks (topo : Topology) (kind : TreeKind) (tree : TreeId) (keep : CellId → Bool)
    (id : CellId) : List LinkId :=
  match topo.roles? kind tree id with
  | none => []
  | some roles => roles.parentPorts.filterMap fun port =>
      (topo.cellBehind? id port).bind fun cell =>
        if keep cell then topo.linkThrough? id port else none

/-- The parent and child ports of a member that have no neighbour: parent ports from the lowest
up, then child ports from the highest down. -/
def unconnectedPorts (topo : Topology) (kind : TreeKind) (tree : TreeId) (id : CellId) :
    List Port :=
  match topo.roles? kind tree id with
  | none => []
  | some roles =>
    (roles.parentPorts ++ roles.childPorts.reverse).filter fun port =>
      (topo.cellBehind? id port).isNone

/-- The warnings a step of the walk gives rise to. -/
def stepWarnings (topo : Topology) (kind : TreeKind) (tree : TreeId) :
    Digraph.Step CellId → List Warning
  | .enter id => (topo.unconnectedPorts kind tree id).map (.unconnected · id)
  | .again id => [.reachedAgain id]

/-- Highlights a tree from a given cell. -/
def highlightFrom (topo : Topology) (kind : TreeKind) (tree : TreeId) (root : CellId)
    (keep : CellId → Bool) : Highlight :=
  let steps := (topo.descent kind tree).explore [] [root]
  let entered := steps.filterMap Digraph.Step.entered?
  { tree, root
    nodes := .ofList entered
    links := .ofList (entered.flatMap (topo.parentLinks kind tree keep))
    warnings := steps.flatMap (topo.stepWarnings kind tree) }

/-- Highlights the black tree a cell roots; it is empty if the cell is not placed or carries no
such tree. -/
def blackHighlight (topo : Topology) (root : CellId) : Highlight :=
  topo.highlightFrom .black (.blackOf root) root fun _ => true

/-- Highlights a stacked tree from its first root. -/
def stackedHighlight (topo : Topology) (tree : TreeId) : Except HighlightError Highlight :=
  match topo.roots .stacked tree with
  | [] => .error (.noRoot tree)
  | root :: others =>
    let found := topo.highlightFrom .stacked tree root (topo.carries .stacked tree)
    if others.isEmpty then .ok found
    else .ok { found with warnings := .severalRoots (root :: others) :: found.warnings }

/-- The root a stacked tree is highlighted from. -/
def stackedRoot (topo : Topology) (tree : TreeId) : Except HighlightError CellId :=
  match topo.roots .stacked tree with
  | [] => .error (.noRoot tree)
  | root :: _ => .ok root

end Topology

end CellNet
