import CellNet.Summary
import CellNet.Proofs.JoinedDocuments

/-!
# Counting the grid

**Theorem (`markdown_counts_grid`).** The Markdown summary of a topology that was loaded tells how
many rows and columns the grid has: the least numbers above every row and column that is in use or
reported, and they fit in a word. It is written exactly when no row or column that is in use or
reported is the largest number a word holds.

Every row and column of a loaded topology is read as a number of its geometry document
(`Load.exists_joins`), so it fits in a word. Only the count itself can fail to fit, and it is one
more than the largest of them. `edge_not_counted` is a source whose reported last row is that
largest number: the topology is loaded, and its summary cannot be written.
-/

namespace CellNet

theorem Json.At.lt_limit {path : List Json.Step} {document : Json} {n : Nat}
    (h : Json.At Json.nat? path document n) : n < Text.Unsigned.limit := by
  obtain ⟨part, -, hread⟩ := h
  cases part with
  | number literal => exact (Text.Unsigned.ofDigits?_eq_some_iff.1 hread).fits
  | _ => cases hread

/-! ## The two axes -/

inductive Axis where
  | row
  | col
deriving DecidableEq, Repr

def Axis.place : Axis → Cell → Nat
  | .row => Cell.row
  | .col => Cell.col

namespace Topology

/-- The last row or column that is reported, if one is. -/
def reportedLast (topo : Topology) : Axis → Option Nat
  | .row => topo.reportedRow
  | .col => topo.reportedCol

def last (topo : Topology) : Axis → Nat
  | .row => topo.limits.1
  | .col => topo.limits.2

variable {topo : Topology} {axis : Axis} {greatest : Nat}

/-- The rows or columns that are reported as the last or are the place of a cell. -/
def inUse (topo : Topology) (axis : Axis) : Set Nat :=
  {n | topo.reportedLast axis = some n ∨ ∃ id cell, topo.cell? id = some cell ∧ axis.place cell = n}

theorem isGreatest_last {id : CellId} {cell : Cell} (h : topo.cell? id = some cell) (axis : Axis) :
    IsGreatest (topo.inUse axis) (topo.last axis) := by
  cases axis with
  | row =>
    rw [Topology.last, limits_eq]
    exact isGreatest_extent Cell.row topo.reportedRow h
  | col =>
    rw [Topology.last, limits_eq]
    exact isGreatest_extent Cell.col topo.reportedCol h

/-- A number of rows or columns that fits in a word and is the least with room for all of them. -/
structure CountsAlong (topo : Topology) (axis : Axis) (count : Nat) : Prop where
  fits : count ≤ 2 ^ 64 - 1
  room : ∀ id cell, topo.cell? id = some cell → axis.place cell < count
  least : IsLeast {n | ∀ m ∈ topo.inUse axis, m < n} count

theorem countsAlong_succ (h : IsGreatest (topo.inUse axis) greatest)
    (hfits : greatest + 1 < 2 ^ 64) : topo.CountsAlong axis (greatest + 1) where
  fits := Nat.le_sub_one_of_lt hfits
  room id cell hcell := Nat.lt_succ_of_le (h.2 (Or.inr ⟨id, cell, hcell, rfl⟩))
  least := ⟨fun _ hm => Nat.lt_succ_of_le (h.2 hm), fun _ hn => hn greatest h.1⟩

end Topology

/-! ## Loaded topologies -/

namespace Load

variable {answer : Document → Except SourceError String} {options : LoadOptions} {topo : Topology}

theorem exists_cell_of_loaded (h : (withRequests answer options).1 = .ok topo) :
    ∃ id cell, topo.cell? id = some cell := by
  obtain ⟨geometry, records, laid, ⟨-, hplaces⟩, -, -, rfl⟩ := withRequests_eq_ok_iff.1 h
  obtain ⟨id, place, hplace⟩ := exists_placement hplaces
  exact ⟨id, _, cell?_joined_eq_some_iff.2 ⟨place, hplace, rfl⟩⟩

theorem lt_limit_of_loaded (h : (withRequests answer options).1 = .ok topo) (axis : Axis) :
    ∀ n ∈ topo.inUse axis, n < 2 ^ 64 := by
  obtain ⟨geometry, _, _, -, -, -, hjoins⟩ := exists_joins h
  rintro n (hreported | ⟨id, cell, hcell, hplace⟩)
  · cases axis with
    | row => exact ((hjoins.reportedRow n).1 hreported).lt_limit
    | col => exact ((hjoins.reportedCol n).1 hreported).lt_limit
  · cases axis with
    | row => exact ((hjoins.row id n).1 ⟨cell, hcell, hplace⟩).lt_limit
    | col => exact ((hjoins.col id n).1 ⟨cell, hcell, hplace⟩).lt_limit

end Load

/-! ## The counts in a summary -/

namespace Summary

variable {topo : Topology}

/-- The counts end in the line about the grid. -/
theorem exists_countsText_eq (summary : Summary) (rows columns : Nat) :
    ∃ before, summary.countsText rows columns =
      before ++ "- **Grid:** " ++ toString rows ++ " rows x " ++ toString columns ++ " columns\n" :=
  ⟨_, rfl⟩

theorem exists_markdown?_iff (topo : Topology) :
    (∃ text, (ofTopology topo).markdown? = some text) ↔ ∀ axis, topo.last axis + 1 < 2 ^ 64 := by
  constructor
  · rintro ⟨text, htext⟩
    obtain ⟨rows, columns, hrows, hcolumns, -⟩ := markdown?_eq_some_iff.1 htext
    rintro (_ | _)
    · exact (countThrough?_eq_some_iff.1 hrows).2
    · exact (countThrough?_eq_some_iff.1 hcolumns).2
  · intro hfits
    exact ⟨_, markdown?_eq_some_iff.2 ⟨_, _, countThrough?_eq_some_iff.2 ⟨rfl, hfits .row⟩,
      countThrough?_eq_some_iff.2 ⟨rfl, hfits .col⟩, rfl⟩⟩

/-- **The grid of a loaded topology is counted, unless it is too large to be.** -/
theorem markdown_counts_grid {answer : Document → Except SourceError String}
    {options : LoadOptions} (h : (Load.withRequests answer options).1 = .ok topo) :
    ((∃ text, (ofTopology topo).markdown? = some text) ↔ ∀ axis, 2 ^ 64 - 1 ∉ topo.inUse axis) ∧
    ∀ text, (ofTopology topo).markdown? = some text → ∃ rows columns before after,
      text = before ++ "- **Grid:** " ++ toString rows ++ " rows x " ++ toString columns
        ++ " columns\n" ++ after ∧
      topo.CountsAlong .row rows ∧ topo.CountsAlong .col columns := by
  obtain ⟨id, cell, hcell⟩ := Load.exists_cell_of_loaded h
  have hlast := Topology.isGreatest_last hcell
  refine ⟨?_, fun text htext => ?_⟩
  · rw [exists_markdown?_iff]
    refine forall_congr' fun axis => ?_
    have hword := Load.lt_limit_of_loaded h axis
    constructor
    · intro hfits hmax
      have hle := (hlast axis).2 hmax
      omega
    · intro hfree
      have hne : topo.last axis ≠ 2 ^ 64 - 1 := fun heq => hfree (heq ▸ (hlast axis).1)
      have hlt := hword _ (hlast axis).1
      omega
  · obtain ⟨rows, columns, hrows, hcolumns, rfl⟩ := markdown?_eq_some_iff.1 htext
    obtain ⟨rfl, hrowsFit⟩ := countThrough?_eq_some_iff.1 hrows
    obtain ⟨rfl, hcolumnsFit⟩ := countThrough?_eq_some_iff.1 hcolumns
    obtain ⟨before, hbefore⟩ :=
      exists_countsText_eq (ofTopology topo) (topo.last .row + 1) (topo.last .col + 1)
    refine ⟨_, _, before,
      blackText (reports topo .black) ++ stackedText (reports topo .stacked), ?_,
      Topology.countsAlong_succ (hlast .row) hrowsFit,
      Topology.countsAlong_succ (hlast .col) hcolumnsFit⟩
    rw [← hbefore, ← String.append_assoc]
    rfl

/-- The pair is loaded, and its rows and columns are counted. -/
theorem markdown_counts_grid_pair :
    ∃ topo text rows columns before after, (Load.withRequests Load.pairSource {}).1 = .ok topo ∧
      (ofTopology topo).markdown? = some text ∧
      text = before ++ "- **Grid:** " ++ toString rows ++ " rows x " ++ toString columns
        ++ " columns\n" ++ after ∧
      topo.CountsAlong .row rows ∧ topo.CountsAlong .col columns := by
  obtain ⟨topo, hmem, hlimits⟩ : ∃ topo ∈ (Load.withRequests Load.pairSource {}).1.toOption,
      topo.limits = (3, 2) := by decide +kernel
  have hok := Load.eq_ok_of_mem hmem
  obtain ⟨text, htext⟩ := (exists_markdown?_iff topo).2 fun axis => by
    cases axis <;> simp [Topology.last, hlimits]
  obtain ⟨rows, columns, before, after, hwritten, hrows, hcolumns⟩ :=
    (markdown_counts_grid hok).2 text htext
  exact ⟨topo, text, rows, columns, before, after, hok, htext, hwritten, hrows, hcolumns⟩

/-- A source of one cell in a corner. The last row it reports is the largest number a word holds. -/
def edgeSource : Document → Except SourceError String
  | .geometry =>
    let place : Json := .ofFields [("row", .ofNat 0), ("col", .ofNat 0)]
    .ok (Json.ofFields [("geometry", .ofFields [("maxrow", .ofNat (2 ^ 64 - 1)),
      ("rowcol", .ofFields [("A", place)])])]).compact
  | .topology => .ok (Json.ofFields [("appcells", .ofFields [])]).compact
  | .blackTree => .error (.status "black_tree" 404)
  | .stackedTree => .error (.status "stack_treed" 404)

/-- Its topology is loaded, and the rows cannot be counted. -/
theorem edge_not_counted :
    ∃ topo, (Load.withRequests edgeSource {}).1 = .ok topo ∧ topo.limits = (2 ^ 64 - 1, 0) ∧
      (ofTopology topo).markdown? = none := by
  obtain ⟨topo, hmem, hlimits⟩ : ∃ topo ∈ (Load.withRequests edgeSource {}).1.toOption,
      topo.limits = (2 ^ 64 - 1, 0) := by decide +kernel
  have hok := Load.eq_ok_of_mem hmem
  refine ⟨topo, hok, hlimits, Option.eq_none_iff_forall_ne_some.2 fun text htext => ?_⟩
  have hrow := (exists_markdown?_iff topo).1 ⟨text, htext⟩ .row
  rw [Topology.last, hlimits] at hrow
  omega

end Summary

end CellNet
