import CellNet.Topology
import CellNet.Layout

/-!
# The scene

A scene lists what is drawn for a topology, whatever its visual state: one circle per cell, one line
per link, and the stacked trees one can choose from. Each shape names the tooltip that belongs to
it; names that differ only in separators share one.
-/

namespace CellNet

/-- The element name of a tooltip: the separators `:` and `-` are left out. -/
def tooltipId (name : String) : String :=
  "tooltip" ++ String.ofList (name.toList.filter fun c => c ≠ ':' ∧ c ≠ '-')

/-- The circle of a cell. -/
structure NodeShape where
  id : CellId
  center : Point
  isBorder : Bool
  tooltip : String

/-- The line of a link. -/
structure LineShape where
  id : LinkId
  start : Point
  stop : Point
  tooltip : String

/-- What is drawn for a topology. -/
structure Scene where
  width : Float
  height : Float
  radius : Float
  nodes : List NodeShape
  lines : List LineShape
  stackedTrees : List TreeId

namespace Scene

/-- The circle of a cell. -/
def nodeShape (layout : Layout) (id : CellId) (cell : Cell) : NodeShape where
  id
  center := layout.position cell.row cell.col
  isBorder := cell.isBorder
  tooltip := tooltipId id.name

/-- The line of a link, if both its ends are placed. -/
def lineShape? (topo : Topology) (layout : Layout) (link : Link) : Option LineShape :=
  match topo.cell? link.first.cell, topo.cell? link.second.cell with
  | some a, some b => some {
      id := link.id
      start := layout.position a.row a.col
      stop := layout.position b.row b.col
      tooltip := tooltipId link.id.text }
  | _, _ => none

/-- The scene of a topology: cells in cell order, links in the order of their names. -/
def ofTopology (topo : Topology) (layout : Layout) : Scene :=
  let (maxRow, maxCol) := topo.limits
  let size := layout.canvas maxRow maxCol
  { width := size.x
    height := size.y
    radius := layout.radius
    nodes := topo.cells.toList.map fun (id, cell) => nodeShape layout id cell
    lines := topo.links.filterMap (lineShape? topo layout)
    stackedTrees := (topo.treeIds .stacked).toList }

end Scene

end CellNet
