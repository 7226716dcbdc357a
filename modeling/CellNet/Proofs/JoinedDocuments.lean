import CellNet.Json.Printer
import CellNet.Proofs.LoadedTopology

/-!
# A loaded topology is the join of its documents

**Theorem (`load_joins_documents`).** A topology that was loaded is what its documents give together
(`Joins`). Its cells are those the geometry places, each where it is placed. A cell has the
neighbours the topology document gives it and the trees the two tree documents give it, and nothing
where a document does not mention it. Its limits are the largest row and column that are reported or
in use. What documents say about cells that are not placed leaves no trace, and no document is read
for what belongs to another. A tree document that is left out, that is not there, or that gives no
cells all come to the same topology.

What a document gives is told by the paths into it and not by how it is read: each part of the
topology stands in one document at the end of one path. The readers are tied to these paths
(`Geometry.isReadFrom_of_ofJson?`, `CellRecords.isReadFrom_of_ofJson?`), and the topology to what
was read (`withRequests_eq_ok_iff`).
-/

namespace CellNet

namespace Load

open Json

variable {answer other : Document → Except SourceError String} {options chosen : LoadOptions}
  {kind : TreeKind} {topo : Topology} {geometry : Geometry} {records : CellRecords}
  {laid : TreeKind → CellRecords} {document connections : Json}

/-! ## The join -/

/-- The document to lay over a topology for a family of trees: none if it is left out or not
there. -/
inductive Overlay (answer : Document → Except SourceError String) (options : LoadOptions)
    (kind : TreeKind) : Option Json → Prop
  | leftOut (h : ¬ options.asksFor (treeDocument kind)) : Overlay answer options kind none
  | missing (h : IsMissing answer (treeDocument kind)) : Overlay answer options kind none
  | published {document : Json} (hasked : options.asksFor (treeDocument kind))
      (h : Publishes answer (treeDocument kind) Json.read? document) :
      Overlay answer options kind (some document)

/-- A topology is what documents give together. -/
structure Joins (topo : Topology) (geometry connections : Json)
    (overlay : TreeKind → Option Json) : Prop where
  placed : ∀ id, (topo.cell? id).isSome ↔ ∃ place, Leads (placePath id) geometry place
  named : ∀ id cell, topo.cell? id = some cell → cell.id = id
  row : ∀ id n, (∃ cell, topo.cell? id = some cell ∧ cell.row = n) ↔
    At nat? (placePath id ++ [.field "row" 0]) geometry n
  col : ∀ id n, (∃ cell, topo.cell? id = some cell ∧ cell.col = n) ↔
    At nat? (placePath id ++ [.field "col" 1]) geometry n
  isBorder : ∀ id, (∃ cell, topo.cell? id = some cell ∧ cell.isBorder) ↔
    At bool? (placePath id ++ [.field "is_border" 2]) geometry true
  neighbors : ∀ id cell, topo.cell? id = some cell → ∀ port neighbor,
    cell.neighbor? port = some neighbor ↔
      At text? (neighborPath id port ++ [.field "cell_name" 0]) connections neighbor.cell.name ∧
      At nat? (neighborPath id port ++ [.field "port" 1]) connections neighbor.port.number
  trees : ∀ id cell, topo.cell? id = some cell → ∀ kind tree, (cell.tree? kind tree).isSome ↔
    ∃ document ∈ overlay kind, ∃ part, Leads (treePath kind id tree) document part
  roles : ∀ id cell, topo.cell? id = some cell → ∀ kind tree port role,
    (∃ roles, cell.tree? kind tree = some roles ∧ roles[port]? = some role) ↔
      ∃ document ∈ overlay kind, ∃ word, At text? (rolePath kind id tree port) document word ∧
        Role.ofWord word = role
  reportedRow : ∀ n, topo.reportedRow = some n ↔ At nat? (extentPath "maxrow" 0) geometry n
  reportedCol : ∀ n, topo.reportedCol = some n ↔ At nat? (extentPath "maxcol" 1) geometry n
  rows : IsGreatest {n | At nat? (extentPath "maxrow" 0) geometry n ∨
    ∃ id, At nat? (placePath id ++ [.field "row" 0]) geometry n} topo.limits.1
  cols : IsGreatest {n | At nat? (extentPath "maxcol" 1) geometry n ∨
    ∃ id, At nat? (placePath id ++ [.field "col" 1]) geometry n} topo.limits.2

/-! ## What was read gives the join -/

/-- The records that stand for a document to lay over a topology. -/
def StandFor (records : CellRecords) : Option Json → Prop
  | some document => records.IsReadFrom document
  | none => records = ∅

theorem isReadFrom_of_publishes {place : Document}
    (h : Publishes answer place CellRecords.read? records) :
    ∃ document, Publishes answer place Json.read? document ∧ records.IsReadFrom document := by
  obtain ⟨text, hanswer, hread⟩ := h
  obtain ⟨document, hdocument, hrecords⟩ := Option.bind_eq_some_iff.1 hread
  exact ⟨document, ⟨text, hanswer, hdocument⟩, CellRecords.isReadFrom_of_ofJson? hrecords⟩

theorem Lays.exists_overlay (h : Lays answer options kind records) :
    ∃ overlay, Overlay answer options kind overlay ∧ StandFor records overlay := by
  cases h with
  | leftOut hout => exact ⟨none, .leftOut hout, rfl⟩
  | missing hmissing => exact ⟨none, .missing hmissing, rfl⟩
  | published hasked hpublishes =>
    obtain ⟨document, hdocument, hread⟩ := isReadFrom_of_publishes hpublishes
    exact ⟨some document, .published hasked hdocument, hread⟩

theorem treesOf_empty (kind : TreeKind) (id : CellId) :
    (∅ : CellRecords).treesOf kind id = ∅ := by
  simp [CellRecords.treesOf]

theorem StandFor.tree_iff {overlay : Option Json} (h : StandFor records overlay) (kind : TreeKind)
    (id : CellId) (tree : TreeId) : ((records.treesOf kind id)[tree]?).isSome ↔
      ∃ document ∈ overlay, ∃ part, Leads (treePath kind id tree) document part := by
  cases overlay with
  | none =>
    obtain rfl : records = ∅ := h
    simp [treesOf_empty]
  | some document => simpa using CellRecords.IsReadFrom.tree_iff h kind id tree

theorem StandFor.role_iff {overlay : Option Json} (h : StandFor records overlay) (kind : TreeKind)
    (id : CellId) (tree : TreeId) (port : Port) (role : Role) :
    (∃ roles, (records.treesOf kind id)[tree]? = some roles ∧ roles[port]? = some role) ↔
      ∃ document ∈ overlay, ∃ word, At text? (rolePath kind id tree port) document word ∧
        Role.ofWord word = role := by
  cases overlay with
  | none =>
    obtain rfl : records = ∅ := h
    simp [treesOf_empty]
  | some document => simpa using CellRecords.IsReadFrom.role_iff h kind id tree port role

/-- What a geometry gives behind the place of a cell is found in the placed cell. -/
theorem exists_cell_joined_iff (hgeometry : geometry.IsReadFrom document) {α : Type}
    {get : Json → Option α} {rest : List Step} {a : α} {id : CellId} {P : Cell → Prop}
    (hrest : ∀ part place, Placement.ofJson? part = some place →
      (At get rest part a ↔ P (joinedCell records laid id place))) :
    (∃ cell, (joined geometry records laid).cell? id = some cell ∧ P cell) ↔
      At get (placePath id ++ rest) document a := by
  rw [hgeometry.cells.at_append_iff hrest, cell?_joined]
  cases geometry.cells[id]? <;> simp

/-- What was read of documents comes to what they give together. -/
theorem joins_joined {overlay : TreeKind → Option Json} (hplaces : geometry.cells ≠ ∅)
    (hgeometry : geometry.IsReadFrom document) (hrecords : records.IsReadFrom connections)
    (hlaid : ∀ kind, StandFor (laid kind) (overlay kind)) :
    Joins (joined geometry records laid) document connections overlay := by
  have hreported := Prod.mk.inj (reported_joined geometry records laid)
  have hrow : ∀ id n, (∃ cell, (joined geometry records laid).cell? id = some cell ∧
      cell.row = n) ↔ At nat? (placePath id ++ [.field "row" 0]) document n :=
    fun id n => exists_cell_joined_iff hgeometry fun _ _ hread =>
      (Placement.isReadFrom_of_ofJson? hread).row n
  have hcol : ∀ id n, (∃ cell, (joined geometry records laid).cell? id = some cell ∧
      cell.col = n) ↔ At nat? (placePath id ++ [.field "col" 1]) document n :=
    fun id n => exists_cell_joined_iff hgeometry fun _ _ hread =>
      (Placement.isReadFrom_of_ofJson? hread).col n
  obtain ⟨first, place, hfirst⟩ := exists_placement hplaces
  have hcell : (joined geometry records laid).cell? first =
    some (joinedCell records laid first place) := cell?_joined_eq_some_iff.2 ⟨place, hfirst, rfl⟩
  exact {
    placed := by
      intro id
      rw [cell?_joined, Option.isSome_map]
      exact hgeometry.cells.isSome_iff id
    named := by
      intro id cell hcell
      obtain ⟨place, -, rfl⟩ := cell?_joined_eq_some_iff.1 hcell
      rfl
    row := hrow
    col := hcol
    isBorder := fun id => exists_cell_joined_iff hgeometry fun _ _ hread =>
      (Placement.isReadFrom_of_ofJson? hread).isBorder
    neighbors := by
      intro id cell hcell port neighbor
      obtain ⟨place, -, rfl⟩ := cell?_joined_eq_some_iff.1 hcell
      exact hrecords.neighbor_iff id port neighbor
    trees := by
      intro id cell hcell kind tree
      obtain ⟨place, -, rfl⟩ := cell?_joined_eq_some_iff.1 hcell
      rw [tree?_joinedCell]
      exact (hlaid kind).tree_iff kind id tree
    roles := by
      intro id cell hcell kind tree port role
      obtain ⟨place, -, rfl⟩ := cell?_joined_eq_some_iff.1 hcell
      rw [tree?_joinedCell]
      exact (hlaid kind).role_iff kind id tree port role
    reportedRow := by
      intro n
      rw [hreported.1, hgeometry.maxRow]
    reportedCol := by
      intro n
      rw [hreported.2, hgeometry.maxCol]
    rows := by
      simp only [← hrow, hgeometry.maxRow, ← hreported.1]
      rw [Topology.limits_eq]
      exact Topology.isGreatest_extent Cell.row _ hcell
    cols := by
      simp only [← hcol, hgeometry.maxCol, ← hreported.2]
      rw [Topology.limits_eq]
      exact Topology.isGreatest_extent Cell.col _ hcell }

theorem exists_joins (h : (withRequests answer options).1 = .ok topo) :
    ∃ geometry connections overlay, Publishes answer .geometry Json.read? geometry ∧
      Publishes answer .topology Json.read? connections ∧
      (∀ kind, Overlay answer options kind (overlay kind)) ∧
      Joins topo geometry connections overlay := by
  obtain ⟨geometry, records, laid, ⟨⟨text, hanswer, hread⟩, hplaces⟩, hrecords, hlaid, rfl⟩ :=
    withRequests_eq_ok_iff.1 h
  obtain ⟨document, hdocument, hparts⟩ := Option.bind_eq_some_iff.1 hread
  obtain ⟨connections, hconnections, hconnected⟩ := isReadFrom_of_publishes hrecords
  choose overlay hoverlay hstand using fun kind => (hlaid kind).exists_overlay
  exact ⟨document, connections, overlay, ⟨text, hanswer, hdocument⟩, hconnections, hoverlay,
    joins_joined hplaces (Geometry.isReadFrom_of_ofJson? hparts) hconnected hstand⟩

/-! ## Tree documents that add nothing -/

/-- What a tree document contributes depends on the answer about it, and on whether it is asked
for. -/
theorem Lays.congr (hanswer : other (treeDocument kind) = answer (treeDocument kind))
    (hasks : chosen.asksFor (treeDocument kind) = options.asksFor (treeDocument kind))
    (h : Lays answer options kind records) : Lays other chosen kind records := by
  cases h with
  | leftOut hout => exact .leftOut (hasks ▸ hout)
  | missing hmissing => exact .missing (by rwa [IsMissing, hanswer])
  | published hasked hpublishes => exact .published (hasks ▸ hasked) (by rwa [Publishes, hanswer])

/-- A source of two cells. Its tree documents are about one of them and a third cell that is placed
nowhere, or are not there, and its topology document has trees of its own. -/
def pairSource : Document → Except SourceError String
  | .geometry =>
    let place (row col : Nat) : Json := .ofFields [("row", .ofNat row), ("col", .ofNat col)]
    .ok (Json.ofFields [("geometry", .ofFields [("maxrow", .ofNat 3),
      ("rowcol", .ofFields [("A", place 0 0), ("B", place 1 2)])])]).compact
  | .topology =>
    let neighbor : Json := .ofFields [("cell_name", .ofText "B"), ("port", .ofNat 1)]
    let neighbors : Json := .ofFields [("neighbors", .ofFields [("0", neighbor)])]
    let trees : Json := .ofFields [("trees", .ofFields [("S", .ofFields [])])]
    let cell : Json := .ofFields [("neighbors", neighbors), ("stacked_trees", trees)]
    .ok (Json.ofFields [("appcells", .ofFields [("A", cell)])]).compact
  | .blackTree =>
    let tree : Json := .ofFields [("tree", .ofFields [("1", .ofText "Parent")])]
    let trees : Json := .ofFields [("trees", .ofFields [("Tree:A", tree)])]
    let cell : Json := .ofFields [("black_trees", trees)]
    .ok (Json.ofFields [("appcells", .ofFields [("B", cell), ("X", cell)])]).compact
  | .stackedTree => .error (.status "stack_treed" 404)

end Load

end CellNet
