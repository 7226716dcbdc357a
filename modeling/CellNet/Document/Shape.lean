import CellNet.Document
import CellNet.Json.Record
import CellNet.Tree

/-!
# What the documents say

The geometry document is a record with one field, the geometry: the grid extent, if it is known, and
the place of each cell. The other three documents all have one shape, a map from cells to what is
known about them, and each is read for one part of it: neighbours, black trees or stacked trees.
Maps that are left out are empty. A document whose shape is not this one is not read at all.
-/

namespace CellNet

/-- Where a cell lies. -/
structure Placement where
  row : Nat
  col : Nat
  isBorder : Bool
deriving DecidableEq, Repr

structure Geometry where
  maxRow : Option Nat
  maxCol : Option Nat
  cells : Std.ExtTreeMap CellId Placement
deriving DecidableEq

/-- What a document knows about a cell. -/
structure CellRecord where
  neighbors : Std.ExtTreeMap Port Neighbor := ∅
  blackTrees : Std.ExtTreeMap TreeId PortTree := ∅
  stackedTrees : Std.ExtTreeMap TreeId PortTree := ∅
deriving DecidableEq

/-- A document about cells. -/
abbrev CellRecords := Std.ExtTreeMap CellId CellRecord

/-! ## Names in documents -/

/-- Any text is the name of a cell. -/
def CellId.ofLiteral? (literal : Json.Literal) : Option CellId := literal.text?.map CellId.mk

/-- Any text is the name of a tree. -/
def TreeId.ofLiteral? (literal : Json.Literal) : Option TreeId := literal.text?.map TreeId.mk

/-- A port used as a key. -/
def Port.ofLiteral? (literal : Json.Literal) : Option Port := literal.nat?.map Port.mk

/-! ## Records in documents -/

/-- A place on the grid; a cell does not lie on the border unless it is said to. -/
def Placement.ofJson? (value : Json) : Option Placement := do
  let [row, col, border] ← value.fields? ["row", "col", "is_border"] | none
  return ⟨← Json.required Json.nat? row, ← Json.required Json.nat? col,
    ← Json.optional false Json.bool? border⟩

def Geometry.ofGrid? (value : Json) : Option Geometry := do
  let [maxRow, maxCol, cells] ← value.fields? ["maxrow", "maxcol", "rowcol"] | none
  return ⟨← Json.optional none (Json.nullable Json.nat?) maxRow,
    ← Json.optional none (Json.nullable Json.nat?) maxCol,
    ← Json.optional ∅ (Json.map? CellId.ofLiteral? Placement.ofJson?) cells⟩

def Geometry.ofJson? (value : Json) : Option Geometry := do
  let [geometry] ← value.fields? ["geometry"] | none
  Json.required Geometry.ofGrid? geometry

def Neighbor.ofJson? (value : Json) : Option Neighbor := do
  let [cell, port] ← value.fields? ["cell_name", "port"] | none
  return ⟨⟨← Json.required Json.text? cell⟩, ⟨← Json.required Json.nat? port⟩⟩

def PortTree.ofJson? : Json → Option PortTree :=
  Json.map? Port.ofLiteral? fun value => value.text?.map Role.ofWord

/-- A record with a single field, a map that may be left out. -/
def mapField? {κ α : Type} [Ord κ] [Std.TransOrd κ] (name : String)
    (read : Json → Option (Std.ExtTreeMap κ α)) (value : Json) : Option (Std.ExtTreeMap κ α) := do
  let [field] ← value.fields? [name] | none
  Json.optional ∅ read field

def CellRecord.neighbors? : Json → Option (Std.ExtTreeMap Port Neighbor) :=
  mapField? "neighbors" (Json.map? Port.ofLiteral? Neighbor.ofJson?)

def CellRecord.trees? : Json → Option (Std.ExtTreeMap TreeId PortTree) :=
  mapField? "trees" (Json.map? TreeId.ofLiteral? (mapField? "tree" PortTree.ofJson?))

def CellRecord.ofJson? (value : Json) : Option CellRecord := do
  let [neighbors, black, stacked] ←
    value.fields? ["neighbors", "black_trees", "stacked_trees"] | none
  return ⟨← Json.optional ∅ neighbors? neighbors, ← Json.optional ∅ trees? black,
    ← Json.optional ∅ trees? stacked⟩

def CellRecords.ofJson? : Json → Option CellRecords :=
  mapField? "appcells" (Json.map? CellId.ofLiteral? CellRecord.ofJson?)

/-! ## Reading documents -/

def Geometry.read? (text : String) : Option Geometry := (Json.read? text).bind ofJson?

def CellRecords.read? (text : String) : Option CellRecords :=
  (Json.read? text).bind CellRecords.ofJson?

def PortTree.read? (text : String) : Option PortTree := (Json.read? text).bind PortTree.ofJson?

end CellNet
