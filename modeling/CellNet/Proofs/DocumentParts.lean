import CellNet.Document.Shape
import CellNet.Proofs.JsonParts

/-!
# What is read of the documents

A geometry document has the place of a cell at the end of a path (`placePath`), and the extent
beside the places. In a document about cells, paths lead to what lies behind a port of a cell
(`neighborPath`) and to its trees (`treePath`); the role of a port lies behind its tree.

Each reader is tied to these paths. A record that was read has what its value gives in its fields,
and a map what its value gives under the keys, so a document that was read has what it gives at the
end of the paths. The lemmas go through the readers from the inside out.
-/

namespace CellNet

open Json

variable {value : Json} {field : Option Json} {name : String} {index : Nat}

/-! ## What documents say about cells -/

/-- The trees of one family a document knows of a cell. -/
def CellRecord.trees (record : CellRecord) : TreeKind → Std.ExtTreeMap TreeId PortTree
  | .black => record.blackTrees
  | .stacked => record.stackedTrees

namespace CellRecords

/-- The neighbours a document gives a cell; none if it does not mention the cell. -/
def neighborsOf (records : CellRecords) (id : CellId) : Std.ExtTreeMap Port Neighbor :=
  (records[id]?.map CellRecord.neighbors).getD ∅

/-- The trees of one family a document gives a cell; none if it does not mention the cell. -/
def treesOf (records : CellRecords) (kind : TreeKind) (id : CellId) :
    Std.ExtTreeMap TreeId PortTree :=
  (records[id]?.map (CellRecord.trees · kind)).getD ∅

end CellRecords

/-! ## Paths in documents -/

def placePath (id : CellId) : List Step :=
  [.field "geometry" 0, .field "rowcol" 2, .text id.name]

/-- The way to an extent that is reported. -/
def extentPath (name : String) (index : Nat) : List Step :=
  [.field "geometry" 0, .field name index]

/-- The way to what lies behind a port of a cell. -/
def neighborPath (id : CellId) (port : Port) : List Step :=
  [.field "appcells" 0, .text id.name, .field "neighbors" 0, .field "neighbors" 0,
    .number port.number]

/-- The field of a cell with its trees of one family. -/
def treesField : TreeKind → Step
  | .black => .field "black_trees" 1
  | .stacked => .field "stacked_trees" 2

def treePath (kind : TreeKind) (id : CellId) (tree : TreeId) : List Step :=
  [.field "appcells" 0, .text id.name, treesField kind, .field "trees" 0, .text tree.name]

def rolePath (kind : TreeKind) (id : CellId) (tree : TreeId) (port : Port) : List Step :=
  treePath kind id tree ++ [.field "tree" 0, .number port.number]

/-! ## Fields that hold no maps -/

namespace Json

variable {α : Type} {read : Json → Option α} {a b : α}

theorem at_required (hfield : ∀ part, field = some part ↔ Field name index value part)
    (h : required read field = some a) : At read [.field name index] value b ↔ a = b := by
  obtain ⟨part, rfl, hread⟩ := Option.bind_eq_some_iff.1 h
  simp [at_field, ← hfield, hread]

theorem at_optional_bool (hfield : ∀ part, field = some part ↔ Field name index value part)
    {b : Bool} (h : optional false bool? field = some b) :
    At bool? [.field name index] value true ↔ b = true := by
  simp only [at_field, ← hfield]
  cases field with
  | none =>
    obtain rfl := Option.some.inj h
    simp
  | some part =>
    have hread : bool? part = some b := h
    simp [hread]

/-- A number that may be left out or be `null`. -/
theorem at_optional_nat (hfield : ∀ part, field = some part ↔ Field name index value part)
    {reported : Option Nat} {n : Nat} (h : optional none (nullable nat?) field = some reported) :
    At nat? [.field name index] value n ↔ reported = some n := by
  simp only [at_field, ← hfield]
  cases field with
  | none =>
    obtain rfl := Option.some.inj h
    simp
  | some part =>
    have hread : nat? part = reported := by
      cases part with
      | null => exact Option.some.inj h
      | number literal =>
        obtain ⟨m, hm, rfl⟩ := Option.map_eq_some_iff.1 h
        exact hm
      | _ => cases h
    simp [hread]

/-- A path that goes on behind a field. -/
theorem at_behind {part : Json} {path : List Step}
    (hfield : ∀ next, some part = some next ↔ Field name index value next) :
    At read (.field name index :: path) value a ↔ At read path part a := by
  simp [At, Leads, Step.Leads, ← hfield]

theorem at_map {f : α → β} {path : List Step} {b : β} :
    At (fun part => (read part).map f) path value b ↔ ∃ a, At read path value a ∧ f a = b := by
  simp only [At, Option.map_eq_some_iff]
  constructor
  · rintro ⟨part, hleads, a, ha, hb⟩
    exact ⟨a, ⟨part, hleads, ha⟩, hb⟩
  · rintro ⟨a, ⟨part, hleads, ha⟩, hb⟩
    exact ⟨part, hleads, a, ha, hb⟩

end Json

/-! ## The geometry -/

theorem leads_cellText (id : CellId) :
    (Step.text id.name).Leads = Entry fun literal => CellId.ofLiteral? literal = some id := by
  cases id
  simp [Step.Leads, CellId.ofLiteral?]

/-- A placement says where a value places a cell. -/
structure Placement.IsReadFrom (place : Placement) (value : Json) : Prop where
  row : ∀ n, At nat? [.field "row" 0] value n ↔ place.row = n
  col : ∀ n, At nat? [.field "col" 1] value n ↔ place.col = n
  isBorder : At bool? [.field "is_border" 2] value true ↔ place.isBorder = true

theorem Placement.isReadFrom_of_ofJson? {place : Placement} (h : ofJson? value = some place) :
    place.IsReadFrom value := by
  obtain ⟨fields, hfields, h⟩ := Option.bind_eq_some_iff.1 h
  split at h
  · obtain ⟨row, hrow, h⟩ := Option.bind_eq_some_iff.1 h
    obtain ⟨col, hcol, h⟩ := Option.bind_eq_some_iff.1 h
    obtain ⟨border, hborder, h⟩ := Option.bind_eq_some_iff.1 h
    obtain rfl := Option.some.inj h
    exact ⟨fun n => at_required (fun _ => field_iff hfields rfl rfl) hrow,
      fun n => at_required (fun _ => field_iff hfields rfl rfl) hcol,
      at_optional_bool (fun _ => field_iff hfields rfl rfl) hborder⟩
  · cases h

/-- A geometry says what a value says about the grid. -/
structure Geometry.IsGrid (geometry : Geometry) (value : Json) : Prop where
  maxRow : ∀ n, At nat? [.field "maxrow" 0] value n ↔ geometry.maxRow = some n
  maxCol : ∀ n, At nat? [.field "maxcol" 1] value n ↔ geometry.maxCol = some n
  cells : Tabulates geometry.cells (fun id => [.field "rowcol" 2, .text id.name])
    Placement.ofJson? value

theorem Geometry.isGrid_of_ofGrid? {geometry : Geometry} (h : ofGrid? value = some geometry) :
    geometry.IsGrid value := by
  obtain ⟨fields, hfields, h⟩ := Option.bind_eq_some_iff.1 h
  split at h
  · obtain ⟨maxRow, hrow, h⟩ := Option.bind_eq_some_iff.1 h
    obtain ⟨maxCol, hcol, h⟩ := Option.bind_eq_some_iff.1 h
    obtain ⟨cells, hcells, h⟩ := Option.bind_eq_some_iff.1 h
    obtain rfl := Option.some.inj h
    exact ⟨fun n => at_optional_nat (fun _ => field_iff hfields rfl rfl) hrow,
      fun n => at_optional_nat (fun _ => field_iff hfields rfl rfl) hcol,
      .of_optional hcells (fun _ => field_iff hfields rfl rfl) fun _ =>
        tabulates_of_map? leads_cellText⟩
  · cases h

/-- A geometry says what a geometry document gives. -/
structure Geometry.IsReadFrom (geometry : Geometry) (document : Json) : Prop where
  maxRow : ∀ n, At nat? (extentPath "maxrow" 0) document n ↔ geometry.maxRow = some n
  maxCol : ∀ n, At nat? (extentPath "maxcol" 1) document n ↔ geometry.maxCol = some n
  cells : Tabulates geometry.cells placePath Placement.ofJson? document

theorem Geometry.isReadFrom_of_ofJson? {geometry : Geometry} (h : ofJson? value = some geometry) :
    geometry.IsReadFrom value := by
  obtain ⟨fields, hfields, h⟩ := Option.bind_eq_some_iff.1 h
  split at h
  · obtain ⟨grid, rfl, hgrid⟩ := Option.bind_eq_some_iff.1 h
    have hfield : ∀ part, some grid = some part ↔ Field "geometry" 0 value part :=
      fun _ => field_iff hfields rfl rfl
    have hread := isGrid_of_ofGrid? hgrid
    exact ⟨fun n => (at_behind hfield).trans (hread.maxRow n),
      fun n => (at_behind hfield).trans (hread.maxCol n), hread.cells.of_field hfield⟩
  · cases h

/-! ## Documents about cells -/

theorem leads_treeText (tree : TreeId) :
    (Step.text tree.name).Leads = Entry fun literal => TreeId.ofLiteral? literal = some tree := by
  cases tree
  simp [Step.Leads, TreeId.ofLiteral?]

theorem leads_portNumber (port : Port) :
    (Step.number port.number).Leads = Entry fun literal => Port.ofLiteral? literal = some port := by
  cases port
  simp [Step.Leads, Port.ofLiteral?]

theorem Neighbor.at_of_ofJson? {neighbor : Neighbor} (h : ofJson? value = some neighbor) :
    (∀ name, At text? [.field "cell_name" 0] value name ↔ neighbor.cell.name = name) ∧
      ∀ n, At nat? [.field "port" 1] value n ↔ neighbor.port.number = n := by
  obtain ⟨fields, hfields, h⟩ := Option.bind_eq_some_iff.1 h
  split at h
  · obtain ⟨cell, hcell, h⟩ := Option.bind_eq_some_iff.1 h
    obtain ⟨port, hport, h⟩ := Option.bind_eq_some_iff.1 h
    obtain rfl := Option.some.inj h
    exact ⟨fun name => at_required (fun _ => field_iff hfields rfl rfl) hcell,
      fun n => at_required (fun _ => field_iff hfields rfl rfl) hport⟩
  · cases h

theorem tabulates_of_mapField? {κ α : Type} [Ord κ] [Std.TransOrd κ] {path : κ → List Step}
    {read : Json → Option α} {readAll : Json → Option (Std.ExtTreeMap κ α)}
    {entries : Std.ExtTreeMap κ α} (h : mapField? name readAll value = some entries)
    (hall : ∀ part, readAll part = some entries → Tabulates entries path read part) :
    Tabulates entries (fun k => .field name 0 :: path k) read value := by
  obtain ⟨fields, hfields, h⟩ := Option.bind_eq_some_iff.1 h
  split at h
  · exact .of_optional h (fun _ => field_iff hfields rfl rfl) hall
  · cases h

abbrev readRole (value : Json) : Option Role := value.text?.map Role.ofWord

theorem PortTree.tabulates_of_mapField? {roles : PortTree}
    (h : mapField? "tree" PortTree.ofJson? value = some roles) :
    Tabulates roles (fun port => [.field "tree" 0, .number port.number]) readRole value :=
  CellNet.tabulates_of_mapField? h fun _ => tabulates_of_map? leads_portNumber

/-- A record says what a value says about a cell. -/
structure CellRecord.IsReadFrom (record : CellRecord) (value : Json) : Prop where
  neighbors : Tabulates record.neighbors
    (fun port => [.field "neighbors" 0, .field "neighbors" 0, .number port.number])
    Neighbor.ofJson? value
  trees : ∀ kind, Tabulates (record.trees kind)
    (fun tree => [treesField kind, .field "trees" 0, .text tree.name])
    (mapField? "tree" PortTree.ofJson?) value

theorem CellRecord.isReadFrom_of_ofJson? {record : CellRecord} (h : ofJson? value = some record) :
    record.IsReadFrom value := by
  obtain ⟨fields, hfields, h⟩ := Option.bind_eq_some_iff.1 h
  split at h
  · obtain ⟨neighbors, hneighbors, h⟩ := Option.bind_eq_some_iff.1 h
    obtain ⟨black, hblack, h⟩ := Option.bind_eq_some_iff.1 h
    obtain ⟨stacked, hstacked, h⟩ := Option.bind_eq_some_iff.1 h
    obtain rfl := Option.some.inj h
    refine ⟨.of_optional hneighbors (fun _ => field_iff hfields rfl rfl) fun _ hpart =>
      tabulates_of_mapField? hpart fun _ => tabulates_of_map? leads_portNumber, fun kind => ?_⟩
    cases kind with
    | black => exact .of_optional hblack (fun _ => field_iff hfields rfl rfl) fun _ hpart =>
        tabulates_of_mapField? hpart fun _ => tabulates_of_map? leads_treeText
    | stacked => exact .of_optional hstacked (fun _ => field_iff hfields rfl rfl) fun _ hpart =>
        tabulates_of_mapField? hpart fun _ => tabulates_of_map? leads_treeText
  · cases h

/-- Records say what a document gives about cells. -/
structure CellRecords.IsReadFrom (records : CellRecords) (document : Json) : Prop where
  neighbors : ∀ id, Tabulates (records.neighborsOf id) (neighborPath id) Neighbor.ofJson? document
  trees : ∀ kind id, Tabulates (records.treesOf kind id) (treePath kind id)
    (mapField? "tree" PortTree.ofJson?) document

theorem CellRecords.isReadFrom_of_ofJson? {records : CellRecords}
    (h : ofJson? value = some records) : records.IsReadFrom value := by
  have hrecords := tabulates_of_mapField? h fun _ => tabulates_of_map? leads_cellText
  constructor
  · exact fun id => hrecords.nested (fun _ _ hread =>
      (CellRecord.isReadFrom_of_ofJson? hread).neighbors) id
  · exact fun kind id => hrecords.nested (fun _ _ hread =>
      (CellRecord.isReadFrom_of_ofJson? hread).trees kind) id

namespace CellRecords.IsReadFrom

variable {records : CellRecords} {document : Json}

theorem neighbor_iff (h : records.IsReadFrom document) (id : CellId) (port : Port)
    (neighbor : Neighbor) : (records.neighborsOf id)[port]? = some neighbor ↔
      At text? (neighborPath id port ++ [.field "cell_name" 0]) document neighbor.cell.name ∧
      At nat? (neighborPath id port ++ [.field "port" 1]) document neighbor.port.number := by
  have hname := (h.neighbors id).at_append_iff
    (fun _ _ hread => (Neighbor.at_of_ofJson? hread).1 neighbor.cell.name) port
  have hnumber := (h.neighbors id).at_append_iff
    (fun _ _ hread => (Neighbor.at_of_ofJson? hread).2 neighbor.port.number) port
  rw [hname, hnumber]
  constructor
  · exact fun hfar => ⟨⟨neighbor, hfar, rfl⟩, neighbor, hfar, rfl⟩
  · rintro ⟨⟨far, hfar, hcell⟩, other, hother, hport⟩
    obtain rfl := Option.some.inj (hfar.symm.trans hother)
    obtain ⟨⟨_⟩, ⟨_⟩⟩ := far
    obtain ⟨⟨_⟩, ⟨_⟩⟩ := neighbor
    cases hcell
    cases hport
    exact hfar

theorem tree_iff (h : records.IsReadFrom document) (kind : TreeKind) (id : CellId)
    (tree : TreeId) : ((records.treesOf kind id)[tree]?).isSome ↔
      ∃ part, Leads (treePath kind id tree) document part :=
  (h.trees kind id).isSome_iff tree

theorem role_iff (h : records.IsReadFrom document) (kind : TreeKind) (id : CellId) (tree : TreeId)
    (port : Port) (role : Role) :
    (∃ roles, (records.treesOf kind id)[tree]? = some roles ∧ roles[port]? = some role) ↔
      ∃ word, At text? (rolePath kind id tree port) document word ∧ Role.ofWord word = role := by
  rw [rolePath, ← at_map]
  exact ((h.trees kind id).at_append_iff (fun _ _ hread =>
    ((PortTree.tabulates_of_mapField? hread).found port role).symm) tree).symm

end CellRecords.IsReadFrom

end CellNet
