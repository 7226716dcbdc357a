import CellNet.Link

/-!
# The topology

A topology places cells on a grid. A placed cell knows its neighbours, port by port, and the roles
of its ports in the trees it takes part in; those maps start empty and are filled by later updates,
so an empty map means that nothing is known yet. An update tells whether its cell was ever placed;
if not, it is refused and changes nothing.

Each link is listed once (`links`), whichever side reports it, and only between placed cells.
-/

namespace CellNet

/-- What is known about a cell: its name, its place, its neighbours and its trees. -/
structure Cell where
  id : CellId
  row : Nat
  col : Nat
  isBorder : Bool
  neighbors : Std.ExtTreeMap Port Neighbor := ∅
  blackTrees : Std.ExtTreeMap TreeId PortTree := ∅
  stackedTrees : Std.ExtTreeMap TreeId PortTree := ∅

namespace Cell

/-- The trees of one family a cell takes part in. -/
def trees (cell : Cell) : TreeKind → Std.ExtTreeMap TreeId PortTree
  | .black => cell.blackTrees
  | .stacked => cell.stackedTrees

/-- Replaces the trees of one family. -/
def withTrees (cell : Cell) (trees : Std.ExtTreeMap TreeId PortTree) : TreeKind → Cell
  | .black => { cell with blackTrees := trees }
  | .stacked => { cell with stackedTrees := trees }

/-- The roles a cell gives its ports in a tree, if it takes part in it. -/
def tree? (cell : Cell) (kind : TreeKind) (tree : TreeId) : Option PortTree :=
  (cell.trees kind)[tree]?

/-- The far side of a port, if the port is connected. -/
def neighbor? (cell : Cell) (port : Port) : Option Neighbor := cell.neighbors[port]?

@[simp] theorem neighbor?_withTrees (cell : Cell) (trees : Std.ExtTreeMap TreeId PortTree)
    (kind : TreeKind) (port : Port) :
    (cell.withTrees trees kind).neighbor? port = cell.neighbor? port := by
  cases kind <;> rfl

@[simp] theorem tree?_withTrees (cell : Cell) (trees : Std.ExtTreeMap TreeId PortTree)
    (kind : TreeKind) (tree : TreeId) :
    (cell.withTrees trees kind).tree? kind tree = trees[tree]? := by
  cases kind <;> rfl

end Cell

/-- The placed cells, and the grid extent the backend reported, if any. -/
structure Topology where
  cells : Std.ExtTreeMap CellId Cell := ∅
  reportedRow : Option Nat := none
  reportedCol : Option Nat := none

namespace Topology

def empty : Topology := {}

/-! ## Updates -/

/-- Records the reported grid extent. -/
def reportLimits (topo : Topology) (row col : Option Nat) : Topology :=
  { topo with reportedRow := row, reportedCol := col }

/-- Places a cell; a cell placed under the same name before is replaced with all its maps. -/
def place (topo : Topology) (cell : Cell) : Topology :=
  { topo with cells := topo.cells.insert cell.id cell }

/-- Changes a placed cell, and tells whether there was one to change. -/
def update (topo : Topology) (id : CellId) (change : Cell → Cell) : Bool × Topology :=
  match topo.cells[id]? with
  | some cell => (true, { topo with cells := topo.cells.insert id (change cell) })
  | none => (false, topo)

def setNeighbors (topo : Topology) (id : CellId)
    (neighbors : Std.ExtTreeMap Port Neighbor) : Bool × Topology :=
  topo.update id fun cell => { cell with neighbors }

def setTrees (topo : Topology) (kind : TreeKind) (id : CellId)
    (trees : Std.ExtTreeMap TreeId PortTree) : Bool × Topology :=
  topo.update id fun cell => cell.withTrees trees kind

/-! ## Queries -/

/-- What is known about a cell, if it is placed. -/
def cell? (topo : Topology) (id : CellId) : Option Cell := topo.cells[id]?

def contains (topo : Topology) (id : CellId) : Bool := topo.cells.contains id

def size (topo : Topology) : Nat := topo.cells.size

def borderCount (topo : Topology) : Nat :=
  topo.cells.values.countP Cell.isBorder

/-- The largest row and column in use or reported. -/
def limits (topo : Topology) : Nat × Nat :=
  topo.cells.values.foldl (fun (row, col) cell => (max row cell.row, max col cell.col))
    (topo.reportedRow.getD 0, topo.reportedCol.getD 0)

/-- The link a cell reports on a port. -/
def linkAt (id : CellId) (port : Port) (neighbor : Neighbor) : Link :=
  .between ⟨id, port⟩ ⟨neighbor.cell, neighbor.port⟩

/-- Every report of a link between placed cells, by cell and then by port. -/
def reportedLinks (topo : Topology) : List Link :=
  topo.cells.toList.flatMap fun (id, cell) =>
    cell.neighbors.toList.filterMap fun (port, neighbor) =>
      if topo.contains neighbor.cell then some (linkAt id port neighbor) else none

/-- The links between placed cells, by name; of reports under one name the first is kept. -/
def linkMap (topo : Topology) : Std.ExtTreeMap LinkId Link :=
  topo.reportedLinks.foldl (fun links link => links.insertIfNew link.id link) ∅

/-- The links between placed cells, in the order of their names. -/
def links (topo : Topology) : List Link := topo.linkMap.values

/-- The name of the link behind a port, if the port is connected. -/
def linkThrough? (topo : Topology) (id : CellId) (port : Port) : Option LinkId :=
  (topo.cell? id).bind fun cell =>
    (cell.neighbor? port).map fun neighbor => (linkAt id port neighbor).id

/-! ## Trees -/

/-- The roles a placed cell gives its ports in a tree. -/
def roles? (topo : Topology) (kind : TreeKind) (tree : TreeId) (id : CellId) : Option PortTree :=
  (topo.cell? id).bind fun cell => cell.tree? kind tree

/-- Whether a cell is placed and takes part in a tree. -/
def carries (topo : Topology) (kind : TreeKind) (tree : TreeId) (id : CellId) : Bool :=
  (topo.roles? kind tree id).isSome

/-- The placed cells that take part in a tree, in cell order. -/
def members (topo : Topology) (kind : TreeKind) (tree : TreeId) : List CellId :=
  topo.cells.keys.filter (topo.carries kind tree)

/-- The members of a tree from which no port leads toward the root, in cell order. -/
def roots (topo : Topology) (kind : TreeKind) (tree : TreeId) : List CellId :=
  topo.cells.keys.filter fun id =>
    match topo.roles? kind tree id with
    | some roles => roles.isRoot
    | none => false

/-- The trees of one family that some placed cell takes part in, in text order. -/
def treeIds (topo : Topology) (kind : TreeKind) : Std.ExtTreeSet TreeId :=
  .ofList (topo.cells.values.flatMap fun cell => (cell.trees kind).keys)

/-- The cell behind a port, if the port is connected. -/
def cellBehind? (topo : Topology) (id : CellId) (port : Port) : Option CellId :=
  (topo.cell? id).bind fun cell => (cell.neighbor? port).map Neighbor.cell

end Topology

end CellNet
