import CellNet.Proofs.DocumentParts
import CellNet.Proofs.Links
import CellNet.Proofs.Stages

/-!
# What a load makes of its documents

A load that is granted has read its documents, and its topology is what they come to together
(`withRequests_eq_ok_iff`).

A document is added by updating one cell after the other. Its entries are about different cells, so
what becomes of a cell is read off the one entry it has (`getElem?_foldl_toList`). A placed cell has
what the documents say about it, and nothing where a document does not mention it (`cell?_joined`).
The reported extent is that of the geometry (`reported_joined`), and the limits are the largest row
and column that are reported or in use (`isGreatest_extent`).
-/

namespace CellNet

/-! ## Adding entry after entry -/

namespace Topology

variable {topo : Topology} {id : CellId} {α : Type}

theorem getElem?_place (topo : Topology) (cell : Cell) (id : CellId) :
    (topo.place cell).cells[id]? = if cell.id = id then some cell else topo.cells[id]? := by
  simp [place, Std.ExtTreeMap.getElem?_insert]

theorem fst_update (topo : Topology) (id : CellId) (change : Cell → Cell) :
    (topo.update id change).1 = (topo.cell? id).isSome := by
  rw [update, cell?]
  cases topo.cells[id]? <;> rfl

theorem getElem?_update (topo : Topology) (name id : CellId) (change : Cell → Cell) :
    (topo.update name change).2.cells[id]? =
      if name = id then (topo.cells[id]?).map change else topo.cells[id]? := by
  rw [update]
  by_cases hname : name = id
  · subst hname
    cases hcell : topo.cells[name]? <;> simp [hcell]
  · cases topo.cells[name]? <;> simp [hname, Std.ExtTreeMap.getElem?_insert]

def reported (topo : Topology) : Option Nat × Option Nat := (topo.reportedRow, topo.reportedCol)

@[simp] theorem reported_place (topo : Topology) (cell : Cell) :
    (topo.place cell).reported = topo.reported := rfl

@[simp] theorem reported_update (topo : Topology) (id : CellId) (change : Cell → Cell) :
    (topo.update id change).2.reported = topo.reported := by
  rw [update]
  cases topo.cells[id]? <;> rfl

section

variable {add : Topology → CellId × α → Topology} (onCell : CellId → α → Option Cell → Option Cell)
  (hadd : ∀ topo name value id, (add topo (name, value)).cells[id]? =
    if name = id then onCell id value topo.cells[id]? else topo.cells[id]?)

include hadd

theorem getElem?_foldl_of_notMem {entries : List (CellId × α)} (topo : Topology)
    (h : ∀ entry ∈ entries, entry.1 ≠ id) :
    (entries.foldl add topo).cells[id]? = topo.cells[id]? := by
  induction entries generalizing topo with
  | nil => rfl
  | cons entry entries ih =>
    obtain ⟨hentry, hrest⟩ := List.forall_mem_cons.1 h
    rw [List.foldl_cons, ih _ hrest, hadd, if_neg hentry]

/-- What a map has for a cell is done to the cell, once. -/
theorem getElem?_foldl_toList (entries : Std.ExtTreeMap CellId α) (topo : Topology)
    (id : CellId) : (entries.toList.foldl add topo).cells[id]? =
      match entries[id]? with
      | some value => onCell id value topo.cells[id]?
      | none => topo.cells[id]? := by
  cases hentry : entries[id]? with
  | none =>
    refine getElem?_foldl_of_notMem onCell hadd topo ?_
    rintro ⟨name, value⟩ hmem rfl
    rw [Std.ExtTreeMap.mem_toList_iff_getElem?_eq_some] at hmem
    simp [hentry] at hmem
  | some value =>
    have hmem : (id, value) ∈ entries.toList :=
      Std.ExtTreeMap.mem_toList_iff_getElem?_eq_some.2 hentry
    obtain ⟨before, after, hsplit⟩ := List.append_of_mem hmem
    have hdistinct := entries.distinct_keys_toList
    rw [hsplit, List.pairwise_append, List.pairwise_cons] at hdistinct
    obtain ⟨-, ⟨hafter, -⟩, hbefore⟩ := hdistinct
    have hcompare : compare id id = .eq := Std.ReflCmp.compare_self
    rw [hsplit, List.foldl_append, List.foldl_cons, getElem?_foldl_of_notMem onCell hadd, hadd,
      if_pos rfl, getElem?_foldl_of_notMem onCell hadd]
    · rintro entry hlisted rfl
      exact hbefore entry hlisted _ List.mem_cons_self hcompare
    · rintro entry hlisted rfl
      exact hafter entry hlisted hcompare

end

theorem reported_foldl {add : Topology → CellId × α → Topology}
    (hadd : ∀ topo entry, (add topo entry).reported = topo.reported)
    (entries : List (CellId × α)) (topo : Topology) :
    (entries.foldl add topo).reported = topo.reported := by
  induction entries generalizing topo with
  | nil => rfl
  | cons entry entries ih => rw [List.foldl_cons, ih, hadd]

/-! ## The cells that documents add to -/

/-- A geometry places its cells, and knows nothing else about them. -/
theorem getElem?_ofGeometry (geometry : Geometry) (id : CellId) :
    (ofGeometry geometry).cells[id]? = (geometry.cells[id]?).map (Placement.cell · id) := by
  have hplace : ∀ (topo : Topology) (name : CellId) (place : Placement) (id : CellId),
      (topo.place (place.cell name)).cells[id]? =
        if name = id then some (place.cell id) else topo.cells[id]? := by
    intro topo name place id
    rw [getElem?_place]
    show (if name = id then some (place.cell name) else topo.cells[id]?) = _
    by_cases hname : name = id
    · rw [if_pos hname, if_pos hname, hname]
    · rw [if_neg hname, if_neg hname]
  rw [ofGeometry, getElem?_foldl_toList (fun id place _ => some (place.cell id)) hplace]
  cases geometry.cells[id]? <;> rfl

theorem getElem?_addNeighbors (topo : Topology) (records : CellRecords) (id : CellId) :
    (topo.addNeighbors records).cells[id]? = (topo.cells[id]?).map fun cell =>
      match records[id]? with
      | some record => { cell with neighbors := record.neighbors }
      | none => cell := by
  rw [addNeighbors, getElem?_foldl_toList
    (fun _ record stored => stored.map ({ · with neighbors := record.neighbors }))
    fun topo name record id => getElem?_update topo name id _]
  cases records[id]? <;> simp

theorem getElem?_addTrees (topo : Topology) (kind : TreeKind) (records : CellRecords)
    (id : CellId) : (topo.addTrees kind records).cells[id]? = (topo.cells[id]?).map fun cell =>
      match records[id]? with
      | some record => cell.withTrees (record.trees kind) kind
      | none => cell := by
  have hadd : topo.addTrees kind records = records.toList.foldl
      (fun topo entry => (topo.setTrees kind entry.1 (entry.2.trees kind)).2) topo := by
    cases kind <;> rfl
  rw [hadd, getElem?_foldl_toList
    (fun _ record stored => stored.map (·.withTrees (record.trees kind) kind))
    fun topo name record id => getElem?_update topo name id _]
  cases records[id]? <;> simp

@[simp] theorem reported_ofGeometry (geometry : Geometry) :
    (ofGeometry geometry).reported = (geometry.maxRow, geometry.maxCol) := by
  rw [ofGeometry, reported_foldl fun _ _ => reported_place _ _]
  rfl

@[simp] theorem reported_addNeighbors (topo : Topology) (records : CellRecords) :
    (topo.addNeighbors records).reported = topo.reported :=
  reported_foldl (fun topo entry => reported_update topo entry.1 _) _ _

@[simp] theorem reported_addTrees (topo : Topology) (kind : TreeKind) (records : CellRecords) :
    (topo.addTrees kind records).reported = topo.reported :=
  reported_foldl (fun topo entry => reported_update topo entry.1 _) _ _

/-! ## The extent -/

theorem isGreatest_foldl_max (ns : List Nat) (start : Nat) :
    IsGreatest {n | n = start ∨ n ∈ ns} (ns.foldl max start) := by
  induction ns generalizing start with
  | nil => simp [IsGreatest, upperBounds]
  | cons n ns ih =>
    obtain ⟨hmem, hle⟩ := ih (max start n)
    have hstart : max start n ≤ ns.foldl max (max start n) := hle (Or.inl rfl)
    constructor
    · rcases hmem with hmax | hmem
      · rw [List.foldl_cons, hmax]
        rcases max_choice start n with h | h
        · exact Or.inl h
        · exact Or.inr (by rw [h]; exact List.mem_cons_self)
      · exact Or.inr (List.mem_cons_of_mem n hmem)
    · rintro k (rfl | hk)
      · exact (le_max_left k n).trans hstart
      · rcases List.mem_cons.1 hk with rfl | hk
        · exact (le_max_right start k).trans hstart
        · exact hle (Or.inr hk)

theorem limits_eq (topo : Topology) : topo.limits =
    ((topo.cells.values.map Cell.row).foldl max (topo.reportedRow.getD 0),
      (topo.cells.values.map Cell.col).foldl max (topo.reportedCol.getD 0)) := by
  rw [limits]
  generalize topo.reportedRow.getD 0 = row
  generalize topo.reportedCol.getD 0 = col
  induction topo.cells.values generalizing row col with
  | nil => rfl
  | cons cell cells ih => exact ih _ _

/-- Where some cell is placed, the largest number that is reported or is the place of a cell. -/
theorem isGreatest_extent (place : Cell → Nat) (reported : Option Nat) {first : Cell}
    (hfirst : topo.cell? id = some first) :
    IsGreatest {n | reported = some n ∨ ∃ id cell, topo.cell? id = some cell ∧ place cell = n}
      ((topo.cells.values.map place).foldl max (reported.getD 0)) := by
  have hvalues : ∀ n, n ∈ topo.cells.values.map place ↔
      ∃ id cell, topo.cell? id = some cell ∧ place cell = n := by
    intro n
    simp only [values_eq_map_snd, List.mem_map, Prod.exists,
      Std.ExtTreeMap.mem_toList_iff_getElem?_eq_some]
    constructor
    · rintro ⟨cell, ⟨id, _, hcell, rfl⟩, rfl⟩
      exact ⟨id, _, hcell, rfl⟩
    · rintro ⟨id, cell, hcell, rfl⟩
      exact ⟨cell, ⟨id, cell, hcell, rfl⟩, rfl⟩
  obtain ⟨hmem, hle⟩ := isGreatest_foldl_max (topo.cells.values.map place) (reported.getD 0)
  constructor
  · rcases hmem with hstart | hmem
    · cases reported with
      | some n => exact Or.inl (by rw [hstart]; rfl)
      | none =>
        -- Nothing is reported and the extent is zero, so every cell is placed there.
        have hplace := hle (Or.inr ((hvalues _).2 ⟨id, first, hfirst, rfl⟩))
        rw [hstart] at hplace ⊢
        exact Or.inr ⟨id, first, hfirst, Nat.le_zero.1 hplace⟩
    · exact Or.inr ((hvalues _).1 hmem)
  · rintro n (rfl | hcell)
    · exact hle (Or.inl rfl)
    · exact hle (Or.inr ((hvalues n).2 hcell))

end Topology

/-! ## What a tree document contributes -/

namespace Load

variable {answer other : Document → Except SourceError String} {options chosen : LoadOptions}
  {kind : TreeKind} {records : CellRecords} {topo next : Topology}

/-- What there is to lay over a topology for a family of trees: nothing if its document is left out
or not there. -/
inductive Lays (answer : Document → Except SourceError String) (options : LoadOptions)
    (kind : TreeKind) : CellRecords → Prop
  | leftOut (h : ¬ options.asksFor (treeDocument kind)) : Lays answer options kind ∅
  | missing (h : IsMissing answer (treeDocument kind)) : Lays answer options kind ∅
  | published {records : CellRecords} (hasked : options.asksFor (treeDocument kind))
      (h : Publishes answer (treeDocument kind) CellRecords.read? records) :
      Lays answer options kind records

/-- The stage for a family of trees, left out or not. -/
def stage (answer : Document → Except SourceError String) (options : LoadOptions) (kind : TreeKind)
    (topo : Topology) : Except LoadError Topology :=
  if options.asksFor (treeDocument kind) then overlay topo kind (answer (treeDocument kind))
  else .ok topo

theorem overlays_eq (options : LoadOptions) : overlays options =
    [.black, .stacked].filter fun kind => options.asksFor (treeDocument kind) := by
  rcases options with ⟨_ | _, _ | _⟩ <;> rfl

theorem fst_addOverlays (kinds : List TreeKind) (topo : Topology) (before : List Document) :
    ((addOverlays (recording answer) kinds topo).run before).1 =
      kinds.foldlM (fun topo kind => overlay topo kind (answer (treeDocument kind))) topo := by
  induction kinds generalizing topo before with
  | nil => rfl
  | cons kind kinds ih =>
    rw [run_addOverlays_cons, List.foldlM_cons]
    cases overlay topo kind (answer (treeDocument kind)) with
    | error error => rfl
    | ok next => exact ih next _

/-- The outcome of a load, stage by stage. -/
theorem fst_withRequests (answer : Document → Except SourceError String) (options : LoadOptions) :
    (withRequests answer options).1 =
      (startWith (answer .geometry)).bind fun topo =>
        (connect topo (answer .topology)).bind fun topo =>
          (stage answer options .black topo).bind (stage answer options .stacked) := by
  rw [withRequests_eq]
  cases startWith (answer .geometry) with
  | error error => rfl
  | ok topo =>
    simp only [Except.bind]
    cases connect topo (answer .topology) with
    | error error => rfl
    | ok topo =>
      have htwo : ∀ f : Topology → TreeKind → Except LoadError Topology,
          [TreeKind.black, .stacked].foldlM f topo = (f topo .black).bind (f · .stacked) := by
        intro f
        show (f topo .black).bind (fun next => f next .stacked >>= pure) = _
        simp only [bind_pure]
      rw [fst_addOverlays, overlays_eq, List.foldlM_filter, htwo]
      rfl

theorem addTrees_empty (topo : Topology) (kind : TreeKind) : topo.addTrees kind ∅ = topo := by
  have hnone : (∅ : CellRecords).toList = [] :=
    List.isEmpty_iff.1 (Std.ExtTreeMap.isEmpty_toList.trans Std.ExtTreeMap.isEmpty_empty)
  rw [Topology.addTrees, hnone, List.foldl_nil]

/-! ## What a load that is granted has read -/

theorem bind_eq_ok_iff {ε α β : Type} {x : Except ε α} {f : α → Except ε β} {value : β} :
    x.bind f = .ok value ↔ ∃ a, x = .ok a ∧ f a = .ok value := by
  cases x <;> simp [Except.bind]

theorem eq_ok_of_mem {outcome : Except LoadError Topology} (h : topo ∈ outcome.toOption) :
    outcome = .ok topo := by
  cases outcome with
  | error error => cases h
  | ok loaded => rw [Option.some.inj h]

theorem Lays.unique {others : CellRecords} (h : Lays answer options kind records)
    (h' : Lays answer options kind others) : records = others := by
  have hexcl : ∀ {records}, IsMissing answer (treeDocument kind) →
      ¬ Publishes answer (treeDocument kind) CellRecords.read? records := by
    rintro records ⟨reason, hreason, -⟩ ⟨text, htext, -⟩
    cases hreason.symm.trans htext
  cases h with
  | leftOut hout =>
    cases h' with
    | leftOut _ | missing _ => rfl
    | published hasked _ => exact absurd hasked hout
  | missing hmissing =>
    cases h' with
    | leftOut _ | missing _ => rfl
    | published _ hpublishes => exact absurd hpublishes (hexcl hmissing)
  | published hasked hpublishes =>
    cases h' with
    | leftOut hout => exact absurd hasked hout
    | missing hmissing => exact absurd hpublishes (hexcl hmissing)
    | published _ hothers => exact hpublishes.unique hothers

/-- A tree document that is asked for and contributes something lets a load go on. -/
theorem Lays.passes (h : Lays answer options kind records)
    (hasked : options.asksFor (treeDocument kind)) : Passes answer (treeDocument kind) := by
  rw [passes_treeDocument]
  cases h with
  | leftOut hout => exact absurd hasked hout
  | missing hmissing => exact Or.inr hmissing
  | published _ hpublishes => exact Or.inl ⟨_, hpublishes⟩

/-- A stage that makes something of what it reads, and ends a load when there is nothing to read. -/
theorem eq_ok_iff_of_cases {α : Type} {reads : α → Prop} {make : α → Topology}
    {outcome : Except LoadError Topology} (hunique : ∀ a b, reads a → reads b → a = b)
    (hcases : (∃ a, reads a ∧ outcome = .ok (make a)) ∨
      ∃ error, outcome = .error error ∧ ¬ ∃ a, reads a) :
    outcome = .ok next ↔ ∃ a, reads a ∧ make a = next := by
  rcases hcases with ⟨a, ha, rfl⟩ | ⟨error, rfl, hnone⟩
  · rw [Except.ok.injEq]
    constructor
    · exact fun h => ⟨a, ha, h⟩
    · rintro ⟨b, hb, rfl⟩
      rw [hunique a b ha hb]
  · constructor
    · exact fun h => by cases h
    · rintro ⟨a, ha, -⟩
      exact absurd ⟨a, ha⟩ hnone

theorem startWith_eq_ok_iff : startWith (answer .geometry) = .ok topo ↔
    ∃ geometry, (Publishes answer .geometry Geometry.read? geometry ∧ geometry.cells ≠ ∅) ∧
      .ofGeometry geometry = topo := by
  refine eq_ok_iff_of_cases (fun a b ha hb => ha.1.unique hb.1) ?_
  rcases startWith_cases answer with ⟨geometry, hpublishes, hplaces, hstart⟩ |
    ⟨error, herror, hfails, hdocument⟩
  · exact Or.inl ⟨geometry, ⟨hpublishes, hplaces⟩, hstart⟩
  · exact Or.inr ⟨error, herror, fun hpasses => hfails.not_passes (hdocument ▸ hpasses)⟩

theorem connect_eq_ok_iff : connect topo (answer .topology) = .ok next ↔
    ∃ records, Publishes answer .topology CellRecords.read? records ∧
      topo.addNeighbors records = next := by
  refine eq_ok_iff_of_cases (fun _ _ => Publishes.unique) ?_
  rcases connect_cases answer topo with ⟨records, hpublishes, hconnect⟩ |
    ⟨error, herror, hfails, hdocument⟩
  · exact Or.inl ⟨records, hpublishes, hconnect⟩
  · exact Or.inr ⟨error, herror, fun hpasses => hfails.not_passes (hdocument ▸ hpasses)⟩

theorem stage_eq_ok_iff : stage answer options kind topo = .ok next ↔
    ∃ records, Lays answer options kind records ∧ topo.addTrees kind records = next := by
  refine eq_ok_iff_of_cases (fun _ _ => Lays.unique) ?_
  rw [stage]
  split_ifs with hasked
  · rcases overlay_cases answer topo kind with
      ⟨records, hpublishes, hnext⟩ | ⟨hmissing, hnext⟩ | ⟨error, herror, hfails, hdocument⟩
    · exact Or.inl ⟨records, .published hasked hpublishes, hnext⟩
    · exact Or.inl ⟨∅, .missing hmissing, by rw [hnext, addTrees_empty]⟩
    · refine Or.inr ⟨error, herror, ?_⟩
      rintro ⟨records, hlays⟩
      exact hfails.not_passes (hdocument ▸ hlays.passes hasked)
  · exact Or.inl ⟨∅, .leftOut hasked, by rw [addTrees_empty]⟩

/-! ## The join -/

/-- What documents come to together, with the tree documents of both families. -/
def joined (geometry : Geometry) (records : CellRecords) (laid : TreeKind → CellRecords) :
    Topology :=
  (((Topology.ofGeometry geometry).addNeighbors records).addTrees .black (laid .black)).addTrees
    .stacked (laid .stacked)

/-- A load is granted when its documents can be read as far as they are needed, and then makes the
same of them whatever else was answered. -/
theorem withRequests_eq_ok_iff : (withRequests answer options).1 = .ok topo ↔
    ∃ geometry records laid, (Publishes answer .geometry Geometry.read? geometry ∧
      geometry.cells ≠ ∅) ∧ Publishes answer .topology CellRecords.read? records ∧
      (∀ kind, Lays answer options kind (laid kind)) ∧ joined geometry records laid = topo := by
  simp only [fst_withRequests, bind_eq_ok_iff, startWith_eq_ok_iff, connect_eq_ok_iff,
    stage_eq_ok_iff, exists_exists_and_eq_and]
  constructor
  · rintro ⟨geometry, hgeometry, records, hrecords, black, hblack, stacked, hstacked, rfl⟩
    refine ⟨geometry, records, fun kind => if kind = .black then black else stacked, hgeometry,
      hrecords, fun kind => ?_, rfl⟩
    cases kind with
    | black => exact hblack
    | stacked => exact hstacked
  · rintro ⟨geometry, records, laid, hgeometry, hrecords, hlaid, rfl⟩
    exact ⟨geometry, hgeometry, records, hrecords, _, hlaid .black, _, hlaid .stacked, rfl⟩

/-- What documents say about a cell that is placed. -/
def joinedCell (records : CellRecords) (laid : TreeKind → CellRecords) (id : CellId)
    (place : Placement) : Cell where
  id := id
  row := place.row
  col := place.col
  isBorder := place.isBorder
  neighbors := records.neighborsOf id
  blackTrees := (laid .black).treesOf .black id
  stackedTrees := (laid .stacked).treesOf .stacked id

variable {laid : TreeKind → CellRecords} {geometry : Geometry}

theorem tree?_joinedCell (id : CellId) (place : Placement) (kind : TreeKind) (tree : TreeId) :
    (joinedCell records laid id place).tree? kind tree =
      ((laid kind).treesOf kind id)[tree]? := by
  cases kind <;> rfl

theorem cell?_joined (geometry : Geometry) (records : CellRecords)
    (laid : TreeKind → CellRecords) (id : CellId) :
    (joined geometry records laid).cell? id =
      (geometry.cells[id]?).map (joinedCell records laid id) := by
  rw [Topology.cell?, joined, Topology.getElem?_addTrees, Topology.getElem?_addTrees,
    Topology.getElem?_addNeighbors, Topology.getElem?_ofGeometry]
  cases geometry.cells[id]? with
  | none => rfl
  | some place =>
    simp only [Option.map_some, joinedCell, CellRecords.neighborsOf, CellRecords.treesOf]
    cases records[id]? <;> cases (laid .black)[id]? <;> cases (laid .stacked)[id]? <;> rfl

theorem cell?_joined_eq_some_iff {id : CellId} {cell : Cell} :
    (joined geometry records laid).cell? id = some cell ↔
      ∃ place, geometry.cells[id]? = some place ∧ joinedCell records laid id place = cell := by
  rw [cell?_joined, Option.map_eq_some_iff]

theorem reported_joined (geometry : Geometry) (records : CellRecords)
    (laid : TreeKind → CellRecords) :
    (joined geometry records laid).reported = (geometry.maxRow, geometry.maxCol) := by
  simp [joined]

theorem exists_placement (hplaces : geometry.cells ≠ ∅) :
    ∃ (id : CellId) (place : Placement), geometry.cells[id]? = some place := by
  obtain ⟨id, hid⟩ := not_forall_not.1 (mt Std.ExtTreeMap.eq_empty_iff_forall_not_mem.2 hplaces)
  exact ⟨id, Option.isSome_iff_exists.1 (Std.ExtTreeMap.mem_iff_isSome_getElem?.1 hid)⟩

end Load

end CellNet
