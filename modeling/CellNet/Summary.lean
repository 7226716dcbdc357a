import CellNet.TreeReport
import CellNet.Json.Printer
import CellNet.Text.Unsigned

/-!
# The summary

A summary counts what a topology holds and reports on every tree some cell carries, black trees and
stacked trees apart and each family in text order. It is written as Markdown, for reading, or as
JSON. Markdown names only the black trees that have problems, and has a table of all stacked trees.
It also tells how many rows and columns the grid has, and cannot be written if such a count does not
fit in a word.
-/

namespace CellNet

/-- Counts and tree reports of a topology. -/
structure Summary where
  cells : Nat
  borderCells : Nat
  links : Nat
  maxRow : Nat
  maxCol : Nat
  blackTrees : List TreeReport
  stackedTrees : List TreeReport
deriving DecidableEq, Repr

namespace Summary

def reports (topo : Topology) (kind : TreeKind) : List TreeReport :=
  (topo.treeIds kind).toList.map (topo.treeReport kind)

def ofTopology (topo : Topology) : Summary where
  cells := topo.size
  borderCells := topo.borderCount
  links := topo.links.length
  maxRow := topo.limits.1
  maxCol := topo.limits.2
  blackTrees := reports topo .black
  stackedTrees := reports topo .stacked

/-- The reports of some that are not consistent. -/
def faulty (reports : List TreeReport) : List TreeReport :=
  reports.filter fun report => !report.isConsistent

/-- The reports that are not consistent, black trees first. -/
def inconsistent (summary : Summary) : List TreeReport :=
  faulty (summary.blackTrees ++ summary.stackedTrees)

/-! ## Markdown -/

/-- The problems of a tree in one phrase. -/
def problemText (report : TreeReport) : String := ", ".intercalate report.problems

/-- How many rows or columns there are when the last one has this number, counted from zero; a word
has to hold the count. -/
def countThrough? (last : Nat) : Option Nat :=
  if last + 1 < Text.Unsigned.limit then some (last + 1) else none

theorem countThrough?_eq_some_iff {last count : Nat} :
    countThrough? last = some count ↔ count = last + 1 ∧ last + 1 < Text.Unsigned.limit := by
  unfold countThrough?
  split
  · next hfits =>
    rw [Option.some.injEq]
    exact ⟨fun h => ⟨h.symm, hfits⟩, fun h => h.1.symm⟩
  · next hfits => exact ⟨nofun, fun h => absurd h.2 hfits⟩

/-- The part about cells, links and the grid. -/
def countsText (summary : Summary) (rows columns : Nat) : String :=
  "# Topology Summary\n\n"
    ++ "- **Cells:** " ++ toString summary.cells ++ "\n"
    ++ "- **Border cells:** " ++ toString summary.borderCells ++ "\n"
    ++ "- **Links:** " ++ toString summary.links ++ "\n"
    ++ "- **Grid:** " ++ toString rows ++ " rows x " ++ toString columns ++ " columns\n"

/-- The line of a black tree that has problems. -/
def blackLine (report : TreeReport) : String :=
  "- *" ++ report.tree.name ++ "*: " ++ problemText report ++ "\n"

def blackText (reports : List TreeReport) : String :=
  let bad := faulty reports
  "\n## Black Trees\n\n" ++ toString reports.length ++ " trees, " ++ toString bad.length
    ++ " inconsistent\n"
    ++ (if bad.isEmpty then "" else "\n" ++ String.join (bad.map blackLine))

/-- The root of a tree, and how many more it has. -/
def rootText : List CellId → String
  | [] => "-"
  | [root] => root.name
  | root :: others => root.name ++ " (+" ++ toString others.length ++ ")"

/-- The state of a tree in one phrase. -/
def statusText (report : TreeReport) : String :=
  if report.isConsistent then "ok" else problemText report

def stackedRow (report : TreeReport) : String :=
  "| " ++ report.tree.name ++ " | " ++ rootText report.roots ++ " | " ++ toString report.members
    ++ " | " ++ statusText report ++ " |\n"

def tableHead : String := "| Tree | Root | Members | Status |\n|------|------|---------|--------|\n"

def stackedText (reports : List TreeReport) : String :=
  "\n## Stacked Trees\n\n"
    ++ if reports.isEmpty then "No stacked trees loaded.\n"
      else tableHead ++ String.join (reports.map stackedRow)

/-- Where there are stacked trees, there is a table of them. -/
theorem stackedText_of_ne_nil {reports : List TreeReport} (h : reports ≠ []) :
    stackedText reports =
      "\n## Stacked Trees\n\n" ++ (tableHead ++ String.join (reports.map stackedRow)) := by
  cases reports with
  | nil => exact absurd rfl h
  | cons first others => rfl

/-- The summary as Markdown, if the grid can be counted. -/
def markdown? (summary : Summary) : Option String := do
  let rows ← countThrough? summary.maxRow
  let columns ← countThrough? summary.maxCol
  return summary.countsText rows columns ++ blackText summary.blackTrees
    ++ stackedText summary.stackedTrees

/-- A summary is written in three parts. -/
theorem markdown?_eq_some_iff {summary : Summary} {text : String} :
    summary.markdown? = some text ↔
      ∃ rows columns, countThrough? summary.maxRow = some rows ∧
        countThrough? summary.maxCol = some columns ∧
        text = summary.countsText rows columns ++ blackText summary.blackTrees
          ++ stackedText summary.stackedTrees := by
  simp only [markdown?, bind, Option.bind_eq_some_iff, pure, Option.some.injEq, exists_and_left,
    eq_comm (b := text)]

/-! ## JSON -/

def reportJson (report : TreeReport) : Json :=
  .ofFields [
    ("tree", .ofText report.tree.name),
    ("kind", .ofText (toString report.kind)),
    ("members", .ofNat report.members),
    ("roots", .array (report.roots.map fun root => .ofText root.name)),
    ("reachable", .ofNat report.reachable),
    ("cyclic", .bool report.cyclic)]

def toJson (summary : Summary) : Json :=
  .ofFields [
    ("cells", .ofNat summary.cells),
    ("border_cells", .ofNat summary.borderCells),
    ("links", .ofNat summary.links),
    ("max_row", .ofNat summary.maxRow),
    ("max_col", .ofNat summary.maxCol),
    ("black_trees", .array (summary.blackTrees.map reportJson)),
    ("stacked_trees", .array (summary.stackedTrees.map reportJson))]

def json (summary : Summary) : String := summary.toJson.pretty ++ "\n"

end Summary

end CellNet
