import CellNet.Proofs.LoadedTopology
import Mathlib.Logic.Relation

/-!
# Topologies that are built by updates

A topology is built from the empty one by updates, in any order and about any cells.

**Theorem (`after_records`).** After any updates, the cells are those that were placed, each listed
once under its own name and in the order of names. A cell is the one last placed under its name,
with the neighbours and trees that were set last behind that (`IsStored`). The next update about
neighbours or trees is accepted exactly when its cell was placed before. It then replaces these
neighbours or trees and leaves everything else as it was (`Follows`); an update that is refused
changes nothing. Updates of different cells, or of different maps of one cell, can be reordered
(`Swaps`).

An update does to each cell what it says about it, whatever other cells there are (`cell?_apply`),
and a topology is given by its cells one by one and the reported extent. So what a run makes of a
cell is read off the updates since it was last placed, and two updates can be swapped if no cell
sees which of them came first. No update of a map touches a cell's name, so a cell stays under the
name it was placed with.
-/

namespace CellNet

namespace Topology

inductive Update where
  | reportLimits (row col : Option Nat)
  | place (cell : Cell)
  | setNeighbors (id : CellId) (neighbors : Std.ExtTreeMap Port Neighbor)
  | setTrees (kind : TreeKind) (id : CellId) (trees : Std.ExtTreeMap TreeId PortTree)

variable {topo next : Topology} {us vs rest : List Update} {u v : Update} {id : CellId}
  {cell : Cell}

namespace Update

/-- Whether an update is accepted, and the topology after it. -/
def result (topo : Topology) : Update → Bool × Topology
  | .reportLimits row col => (true, topo.reportLimits row col)
  | .place cell => (true, topo.place cell)
  | .setNeighbors id neighbors => topo.setNeighbors id neighbors
  | .setTrees kind id trees => topo.setTrees kind id trees

def cellId? : Update → Option CellId
  | .reportLimits _ _ => none
  | .place cell => some cell.id
  | .setNeighbors id _ => some id
  | .setTrees _ id _ => some id

/-- The neighbours an update sets for a cell. -/
def neighborsFor? (id : CellId) : Update → Option (Std.ExtTreeMap Port Neighbor)
  | .setNeighbors name neighbors => if name = id then some neighbors else none
  | _ => none

/-- The trees of a family an update sets for a cell. -/
def treesFor? (kind : TreeKind) (id : CellId) : Update → Option (Std.ExtTreeMap TreeId PortTree)
  | .setTrees family name trees => if family = kind ∧ name = id then some trees else none
  | _ => none

end Update

def apply (topo : Topology) (u : Update) : Topology := (u.result topo).2

/-- The topology after updates of the empty one. -/
def after (us : List Update) : Topology := us.foldl apply empty

theorem after_snoc (us : List Update) (u : Update) : after (us ++ [u]) = (after us).apply u := by
  rw [after, List.foldl_append]
  rfl

/-! ## One cell -/

/-- What an update makes of a cell. -/
def Update.onCell (id : CellId) (stored : Option Cell) : Update → Option Cell
  | .reportLimits _ _ => stored
  | .place cell => if cell.id = id then some cell else stored
  | .setNeighbors name neighbors =>
    if name = id then stored.map fun cell => { cell with neighbors } else stored
  | .setTrees kind name trees =>
    if name = id then stored.map fun cell => cell.withTrees trees kind else stored

/-- An update does the same to a cell whatever other cells there are. -/
theorem cell?_apply (topo : Topology) (u : Update) (id : CellId) :
    (topo.apply u).cell? id = u.onCell id (topo.cell? id) := by
  cases u with
  | reportLimits row col => rfl
  | place cell => exact getElem?_place topo cell id
  | setNeighbors name neighbors => exact getElem?_update topo name id _
  | setTrees kind name trees => exact getElem?_update topo name id _

/-- The reported extent after an update. -/
def Update.onLimits (reported : Option Nat × Option Nat) : Update → Option Nat × Option Nat
  | .reportLimits row col => (row, col)
  | _ => reported

theorem reported_apply (topo : Topology) (u : Update) :
    (topo.apply u).reported = u.onLimits topo.reported := by
  cases u with
  | reportLimits row col => rfl
  | place cell => rfl
  | setNeighbors name neighbors => exact reported_update topo name _
  | setTrees kind name trees => exact reported_update topo name _

theorem onCell_of_ne (h : u.cellId? ≠ some id) (stored : Option Cell) :
    u.onCell id stored = stored := by
  cases u with
  | reportLimits row col => rfl
  | _ => exact if_neg fun heq => h (congrArg some heq)

/-! ## The history of a cell -/

/-- The last of what updates give, and the start if none gives anything. -/
def latest {α : Type} (gives? : Update → Option α) (us : List Update) (start : α) : α :=
  (us.filterMap gives?).getLast?.getD start

theorem latest_cons {α : Type} (gives? : Update → Option α) (u : Update) (us : List Update)
    (start : α) : latest gives? (u :: us) start = latest gives? us ((gives? u).getD start) := by
  rw [latest, latest, List.filterMap_cons]
  cases gives? u with
  | none => rfl
  | some value => rw [List.getLast?_cons, Option.getD_some, Option.getD_some]

/-- A cell with the neighbours and trees that were set last for it. -/
def amended (id : CellId) (us : List Update) (cell : Cell) : Cell :=
  { cell with
    neighbors := latest (Update.neighborsFor? id) us cell.neighbors
    blackTrees := latest (Update.treesFor? .black id) us cell.blackTrees
    stackedTrees := latest (Update.treesFor? .stacked id) us cell.stackedTrees }

theorem amended_cons (id : CellId) (u : Update) (us : List Update) (cell : Cell) :
    amended id (u :: us) cell = amended id us (amended id [u] cell) := by
  simp only [amended, latest_cons]
  rfl

/-- An update that does not place a cell sets some of its maps, or none. -/
theorem onCell_some (h : ∀ later, u = .place later → later.id ≠ id) (cell : Cell) :
    u.onCell id (some cell) = some (amended id [u] cell) := by
  cases u with
  | reportLimits row col => rfl
  | place later => exact if_neg (h later rfl)
  | setNeighbors name neighbors =>
    by_cases hname : name = id <;>
      simp [Update.onCell, amended, latest, Update.neighborsFor?, Update.treesFor?, hname]
  | setTrees kind name trees =>
    by_cases hname : name = id <;> cases kind <;>
      simp [Update.onCell, amended, latest, Update.neighborsFor?, Update.treesFor?, hname,
        Cell.withTrees]

/-- From where a cell was last placed on, its maps are set one after the other. -/
theorem cell?_foldl_apply (h : ∀ later, .place later ∈ rest → later.id ≠ id)
    (hcell : topo.cell? id = some cell) :
    (rest.foldl apply topo).cell? id = some (amended id rest cell) := by
  induction rest generalizing topo cell with
  | nil => exact hcell
  | cons u rest ih =>
    have hu : ∀ later, u = .place later → later.id ≠ id := fun later heq =>
      h later (heq ▸ List.mem_cons_self)
    have hnext : (topo.apply u).cell? id = some (amended id [u] cell) := by
      rw [cell?_apply, hcell, onCell_some hu]
    rw [List.foldl_cons, ih (fun later hmem => h later (List.mem_cons_of_mem _ hmem)) hnext,
      ← amended_cons]

/-- Some update places a cell under this name. -/
def Places (us : List Update) (id : CellId) : Prop := ∃ cell, .place cell ∈ us ∧ cell.id = id

/-- The cell is the one last placed under this name, with what was set for it since then. -/
def IsStored (us : List Update) (id : CellId) (cell : Cell) : Prop :=
  ∃ before placed rest, us = before ++ .place placed :: rest ∧ placed.id = id ∧
    (∀ later, .place later ∈ rest → later.id ≠ id) ∧ cell = amended id rest placed

theorem IsStored.id_eq (h : IsStored us id cell) : cell.id = id := by
  obtain ⟨before, placed, rest, -, hid, -, rfl⟩ := h
  exact hid

theorem cell?_after_of_isStored (h : IsStored us id cell) : (after us).cell? id = some cell := by
  obtain ⟨before, placed, rest, rfl, hid, hlast, rfl⟩ := h
  have hplaced : ((after before).apply (.place placed)).cell? id = some placed := by
    rw [cell?_apply]
    exact if_pos hid
  rw [after, List.foldl_append, List.foldl_cons]
  exact cell?_foldl_apply hlast hplaced

theorem places_nil : ¬ Places [] id := by
  rintro ⟨cell, hmem, -⟩
  cases hmem

theorem places_snoc : Places (us ++ [u]) id ↔
    Places us id ∨ ∃ cell, u = .place cell ∧ cell.id = id := by
  simp only [Places, List.mem_append, List.mem_singleton, or_and_right, exists_or, eq_comm]

theorem isSome_after_iff : ((after us).cell? id).isSome ↔ Places us id := by
  induction us using List.reverseRecOn with
  | nil => simpa [after, empty, cell?] using places_nil
  | append_singleton us u ih =>
    rw [after_snoc, cell?_apply, places_snoc]
    cases u with
    | reportLimits row col => simpa [Update.onCell] using ih
    | place cell =>
      by_cases hid : cell.id = id
      · simp [Update.onCell, hid]
      · simpa [Update.onCell, hid] using ih
    | setNeighbors name neighbors =>
      by_cases hname : name = id <;> simpa [Update.onCell, hname] using ih
    | setTrees kind name trees =>
      by_cases hname : name = id <;> simpa [Update.onCell, hname] using ih

theorem exists_last_place (h : Places us id) :
    ∃ before placed rest, us = before ++ .place placed :: rest ∧ placed.id = id ∧
      ∀ later, .place later ∈ rest → later.id ≠ id := by
  induction us with
  | nil => exact absurd h places_nil
  | cons u us ih =>
    by_cases hrest : Places us id
    · obtain ⟨before, placed, rest, rfl, hid, hlast⟩ := ih hrest
      exact ⟨u :: before, placed, rest, rfl, hid, hlast⟩
    · obtain ⟨placed, hmem, hid⟩ := h
      rcases List.mem_cons.1 hmem with rfl | hmem
      · exact ⟨[], placed, us, rfl, hid, fun later hlater heq => hrest ⟨later, hlater, heq⟩⟩
      · exact absurd ⟨placed, hmem, hid⟩ hrest

theorem cell?_after_iff : (after us).cell? id = some cell ↔ IsStored us id cell := by
  refine ⟨fun h => ?_, cell?_after_of_isStored⟩
  obtain ⟨before, placed, rest, rfl, hid, hlast⟩ :=
    exists_last_place (isSome_after_iff.1 (Option.isSome_iff_exists.2 ⟨cell, h⟩))
  have hstored : IsStored (before ++ .place placed :: rest) id (amended id rest placed) :=
    ⟨before, placed, rest, rfl, hid, hlast, rfl⟩
  rw [cell?_after_of_isStored hstored] at h
  rwa [← Option.some.inj h]

/-! ## The next update -/

/-- One cell is another one, and everything else is as it was. -/
structure Replaces (topo : Topology) (id : CellId) (cell : Cell) (next : Topology) : Prop where
  cell : next.cell? id = some cell
  others : ∀ other, other ≠ id → next.cell? other = topo.cell? other
  reportedRow : next.reportedRow = topo.reportedRow
  reportedCol : next.reportedCol = topo.reportedCol

theorem replaces_place (topo : Topology) (cell : Cell) :
    topo.Replaces cell.id cell (topo.place cell) where
  cell := (getElem?_place topo cell cell.id).trans (if_pos rfl)
  others other hother := (getElem?_place topo cell other).trans (if_neg hother.symm)
  reportedRow := rfl
  reportedCol := rfl

theorem replaces_update (change : Cell → Cell) (hcell : topo.cell? id = some cell) :
    topo.Replaces id (change cell) (topo.update id change).2 where
  cell := by
    rw [cell?, getElem?_update, if_pos rfl, ← cell?, hcell]
    rfl
  others other hother := (getElem?_update topo id other change).trans (if_neg hother.symm)
  reportedRow := (Prod.mk.inj (reported_update topo id change)).1
  reportedCol := (Prod.mk.inj (reported_update topo id change)).2

/-- An update that is accepted replaces the cell it names, and one that is refused changes
nothing. -/
theorem update_cases (topo : Topology) (id : CellId) (change : Cell → Cell) :
    (∃ cell, topo.cell? id = some cell ∧ (topo.update id change).1 = true ∧
      topo.Replaces id (change cell) (topo.update id change).2) ∨
    (topo.cell? id = none ∧ topo.update id change = (false, topo)) := by
  cases hcell : topo.cell? id with
  | some cell =>
    exact Or.inl ⟨cell, rfl, by rw [fst_update, hcell]; rfl, replaces_update change hcell⟩
  | none =>
    have hnone : topo.cells[id]? = none := hcell
    exact Or.inr ⟨rfl, by rw [update, hnone]⟩

/-- What becomes of a topology that has come of some updates when the next one follows. -/
structure Follows (us : List Update) (topo : Topology) : Prop where
  place : ∀ cell, topo.Replaces cell.id cell (topo.place cell)
  /-- Neighbours are accepted for cells that were placed, and replace their neighbours. -/
  setNeighbors : ∀ id neighbors,
    ((topo.setNeighbors id neighbors).1 = true ↔ Places us id) ∧
    ((topo.setNeighbors id neighbors).1 = true → ∃ cell, topo.cell? id = some cell ∧
      topo.Replaces id { cell with neighbors } (topo.setNeighbors id neighbors).2)
  /-- Trees are accepted for cells that were placed, and replace their trees of that family. -/
  setTrees : ∀ kind id trees,
    ((topo.setTrees kind id trees).1 = true ↔ Places us id) ∧
    ((topo.setTrees kind id trees).1 = true → ∃ cell, topo.cell? id = some cell ∧
      topo.Replaces id (cell.withTrees trees kind) (topo.setTrees kind id trees).2)
  refused : ∀ u, (u.result topo).1 = false → topo.apply u = topo

theorem fst_update_after (us : List Update) (id : CellId) (change : Cell → Cell) :
    ((after us).update id change).1 = true ↔ Places us id := by
  rw [fst_update]
  exact isSome_after_iff

theorem replaces_of_accepted {change : Cell → Cell} (h : (topo.update id change).1 = true) :
    ∃ cell, topo.cell? id = some cell ∧
      topo.Replaces id (change cell) (topo.update id change).2 := by
  rcases update_cases topo id change with ⟨cell, hcell, -, hreplaces⟩ | ⟨-, hupdate⟩
  · exact ⟨cell, hcell, hreplaces⟩
  · rw [hupdate] at h
    cases h

theorem update_of_refused {change : Cell → Cell} (h : (topo.update id change).1 = false) :
    (topo.update id change).2 = topo := by
  rcases update_cases topo id change with ⟨cell, -, haccepted, -⟩ | ⟨-, hupdate⟩
  · cases haccepted.symm.trans h
  · rw [hupdate]

theorem follows_after (us : List Update) : Follows us (after us) where
  place := replaces_place (after us)
  setNeighbors id neighbors := ⟨fst_update_after us id _, replaces_of_accepted⟩
  setTrees kind id trees := ⟨fst_update_after us id _, replaces_of_accepted⟩
  refused u h := by
    cases u with
    | reportLimits row col => cases h
    | place cell => cases h
    | setNeighbors id neighbors => exact update_of_refused h
    | setTrees kind id trees => exact update_of_refused h

/-! ## The order of updates -/

/-- Two updates that are about different cells, or about different maps of one cell, or of which
only one is about a cell. -/
inductive Independent : Update → Update → Prop
  | cells {u v : Update} (h : u.cellId? ≠ v.cellId?) : Independent u v
  | neighbors (id : CellId) (neighbors : Std.ExtTreeMap Port Neighbor) (kind : TreeKind)
      (trees : Std.ExtTreeMap TreeId PortTree) :
      Independent (.setNeighbors id neighbors) (.setTrees kind id trees)
  | families (id : CellId) {kind other : TreeKind} (h : kind ≠ other)
      (trees others : Std.ExtTreeMap TreeId PortTree) :
      Independent (.setTrees kind id trees) (.setTrees other id others)

theorem Independent.onCell_comm (h : Independent u v) (id : CellId) (stored : Option Cell) :
    v.onCell id (u.onCell id stored) = u.onCell id (v.onCell id stored) := by
  cases h with
  | cells h =>
    by_cases hu : u.cellId? = some id
    · have hv : v.cellId? ≠ some id := fun heq => h (hu.trans heq.symm)
      rw [onCell_of_ne hv, onCell_of_ne hv]
    · rw [onCell_of_ne hu, onCell_of_ne hu]
  | neighbors name neighbors kind trees =>
    by_cases hname : name = id <;> cases stored <;> cases kind <;>
      simp [Update.onCell, hname, Cell.withTrees]
  | families name h trees others =>
    rename_i kind other
    by_cases hname : name = id <;> cases stored <;> cases kind <;> cases other <;>
      simp_all [Update.onCell, Cell.withTrees]

theorem onLimits_of_cellId? (h : u.cellId? = some id) (reported : Option Nat × Option Nat) :
    u.onLimits reported = reported := by
  cases u with
  | reportLimits row col => cases h
  | _ => rfl

theorem Independent.onLimits_comm (h : Independent u v) (reported : Option Nat × Option Nat) :
    v.onLimits (u.onLimits reported) = u.onLimits (v.onLimits reported) := by
  cases h with
  | cells h =>
    cases hu : u.cellId? with
    | some id => rw [onLimits_of_cellId? hu, onLimits_of_cellId? hu]
    | none =>
      obtain ⟨id, hv⟩ := Option.ne_none_iff_exists'.1 (hu ▸ h.symm)
      rw [onLimits_of_cellId? hv, onLimits_of_cellId? hv]
  | neighbors name neighbors kind trees => rfl
  | families name h trees others => rfl

theorem eq_of_cell? (hcells : ∀ id, topo.cell? id = next.cell? id)
    (hreported : topo.reported = next.reported) : topo = next := by
  obtain ⟨cells, row, col⟩ := topo
  obtain ⟨others, otherRow, otherCol⟩ := next
  obtain rfl : cells = others := Std.ExtTreeMap.ext_getElem? fun id => hcells id
  obtain ⟨rfl, rfl⟩ := Prod.mk.inj hreported
  rfl

theorem apply_comm (h : Independent u v) (topo : Topology) :
    (topo.apply u).apply v = (topo.apply v).apply u := by
  refine eq_of_cell? (fun id => ?_) ?_
  · simp only [cell?_apply, h.onCell_comm]
  · simp only [reported_apply, h.onLimits_comm]

/-- Two updates that are next to each other and independent are swapped. -/
inductive Swaps : List Update → List Update → Prop
  | swap (before : List Update) {u v : Update} (rest : List Update) (h : Independent u v) :
    Swaps (before ++ u :: v :: rest) (before ++ v :: u :: rest)

theorem after_eq_of_swaps (h : Swaps us vs) : after us = after vs := by
  cases h with
  | swap before rest h =>
    simp only [after, List.foldl_append, List.foldl_cons, apply_comm h]

/-- Updates that are reordered come to the same topology. -/
theorem after_eq_of_eqvGen (h : Relation.EqvGen Swaps us vs) : after us = after vs := by
  induction h with
  | rel us vs h => exact after_eq_of_swaps h
  | refl us => rfl
  | symm us vs _ ih => exact ih.symm
  | trans us vs ws _ _ ih ih' => exact ih.trans ih'

/-! ## What updates come to -/

/-- What a topology has kept of the updates it has come of. -/
structure Records (us : List Update) (topo : Topology) : Prop where
  stored : ∀ id cell, (id, cell) ∈ topo.cells.toList ↔ IsStored us id cell
  named : ∀ id cell, (id, cell) ∈ topo.cells.toList → cell.id = id
  placed : ∀ id, id ∈ topo.cells.keys ↔ Places us id
  increasing : topo.cells.keys.Pairwise fun a b => compare a b = .lt

theorem stored_after (us : List Update) (id : CellId) (cell : Cell) :
    (id, cell) ∈ (after us).cells.toList ↔ IsStored us id cell := by
  rw [Std.ExtTreeMap.mem_toList_iff_getElem?_eq_some]
  exact cell?_after_iff

theorem records_after (us : List Update) : Records us (after us) where
  stored := stored_after us
  named id cell hmem := ((stored_after us id cell).1 hmem).id_eq
  placed id := by
    rw [Std.ExtTreeMap.mem_keys, Std.ExtTreeMap.mem_iff_isSome_getElem?]
    exact isSome_after_iff
  increasing := (after us).cells.ordered_keys

/-- **A topology records its updates**, whatever they are, and forgets the order of independent
ones. -/
theorem after_records (us : List Update) :
    Records us (after us) ∧ Follows us (after us) ∧
      ∀ vs, Relation.EqvGen Swaps us vs → after vs = after us :=
  ⟨records_after us, follows_after us, fun _ h => (after_eq_of_eqvGen h).symm⟩

end Topology

end CellNet
