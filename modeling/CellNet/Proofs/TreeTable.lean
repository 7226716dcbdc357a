import CellNet.Proofs.Problems
import CellNet.Proofs.MarkupReader
import Mathlib.Data.List.Permutation

/-!
# The table of stacked trees

**Theorem (`isTable_iff`).** Behind its head, the table of stacked trees has one line for each
stacked tree, in the order of trees, each with five bars, exactly when neither the name of a stacked
tree nor that of its first root has a bar or a line break in it.

A line has five bars of its own, and everything else in it apart from the two names is written in
letters, digits, blanks and a few marks that are neither. So a line break in a name makes a line too
many, whatever the other names are, and where there is none, each bar in a name is one too many in
its line. `splitCell_not_isTable` is a cell whose stacked tree has a bar in its name.
-/

namespace CellNet.Summary

variable {topo : Topology} {report : TreeReport} {c sep : Char}

/-! ## Lines -/

theorem length_parts (sep : Char) (text : List Char) :
    (Text.parts sep text).length = text.count sep + 1 := by
  induction text with
  | nil => rfl
  | cons c cs ih =>
    rw [Text.parts]
    cases hparts : Text.parts sep cs with
    | nil => exact absurd hparts (Markup.parts_ne_nil sep cs)
    | cons part rest =>
      rw [hparts] at ih
      by_cases hc : c = sep
      · rw [hc, List.count_cons_self, ← ih]
        simp
      · rw [List.count_cons_of_ne hc, ← ih]
        simp [hc]

/-- Lines are read back one by one if each ends where its separator is. -/
theorem parts_lines {lines : List (List Char)} (h : ∀ line ∈ lines, sep ∉ line) :
    Text.parts sep (lines.flatMap (· ++ [sep])) = lines ++ [[]] := by
  induction lines with
  | nil => rfl
  | cons line lines ih =>
    obtain ⟨hline, hlines⟩ := List.forall_mem_cons.1 h
    rw [List.flatMap_cons, List.append_assoc, List.singleton_append, Markup.parts_append hline,
      ih hlines, List.cons_append]

theorem count_lines (lines : List (List Char)) :
    (lines.flatMap (· ++ [sep])).count sep = (lines.map (List.count sep)).sum + lines.length := by
  induction lines with
  | nil => rfl
  | cons line lines ih =>
    rw [List.flatMap_cons, List.count_append, List.count_append, ih, List.map_cons, List.sum_cons,
      List.length_cons, List.count_singleton_self]
    omega

/-- As many lines are read as were written exactly when no line has the separator in it. -/
theorem length_parts_lines_iff {lines : List (List Char)} :
    (Text.parts sep (lines.flatMap (· ++ [sep]))).length = lines.length + 1 ↔
      ∀ line ∈ lines, sep ∉ line := by
  rw [length_parts, count_lines, Nat.add_right_cancel_iff, Nat.add_eq_right,
    List.sum_eq_zero_iff_forall_eq_nat]
  simp [List.count_eq_zero]

/-! ## The line of a tree -/

def row (report : TreeReport) : List Char :=
  ("| " ++ report.tree.name ++ " | " ++ rootText report.roots ++ " | " ++ toString report.members
    ++ " | " ++ statusText report ++ " |").toList

theorem toList_join_stackedRow (reports : List TreeReport) :
    (String.join (reports.map stackedRow)).toList = (reports.map row).flatMap (· ++ ['\n']) := by
  rw [String.toList_join, List.flatMap_map, List.flatMap_map]
  refine List.flatMap_congr fun report _ => ?_
  simp [stackedRow, row]

/-- The name of the root that is shown in a line. -/
def shownRoot : List CellId → String
  | [] => ""
  | root :: _ => root.name

/-- The characters that tables are made of. -/
def IsRule (c : Char) : Prop := c = '|' ∨ c = '\n'

theorem mem_intercalate {separator : String} {texts : List String}
    (h : c ∈ (separator.intercalate texts).toList) :
    c ∈ separator.toList ∨ ∃ text ∈ texts, c ∈ text.toList := by
  induction texts with
  | nil => cases h
  | cons first rest ih =>
    cases rest with
    | nil => exact Or.inr ⟨first, List.mem_singleton_self first, h⟩
    | cons second rest =>
      rw [String.intercalate_cons_cons, String.toList_append, String.toList_append,
        List.mem_append, List.mem_append] at h
      rcases h with (hfirst | hseparator) | hrest
      · exact Or.inr ⟨first, List.mem_cons_self, hfirst⟩
      · exact Or.inl hseparator
      · refine (ih hrest).imp_right ?_
        rintro ⟨text, htext, hc⟩
        exact ⟨text, List.mem_cons_of_mem _ htext, hc⟩

namespace IsRule

theorem not_inWords (h : IsRule c) : ¬ TreeReport.inWords c := by
  rcases h with rfl | rfl <;> decide

theorem notMem_of_all_inWords (h : IsRule c) {text : String}
    (hwords : text.toList.all TreeReport.inWords) : c ∉ text.toList :=
  fun hmem => h.not_inWords (List.all_eq_true.1 hwords c hmem)

theorem notMem_toString (h : IsRule c) (n : Nat) : c ∉ (toString n).toList :=
  h.notMem_of_all_inWords (TreeReport.all_inWords_toString n)

theorem notMem_statusText (h : IsRule c) (report : TreeReport) :
    c ∉ (statusText report).toList := by
  rw [statusText]
  split_ifs
  · rcases h with rfl | rfl <;> decide
  · intro hmem
    rcases mem_intercalate hmem with hseparator | ⟨problem, hproblem, hc⟩
    · rcases h with rfl | rfl <;> exact absurd hseparator (by decide)
    · exact h.notMem_of_all_inWords (TreeReport.phrase_of_mem_problems hproblem).2 hc

theorem count_rootText (h : IsRule c) (roots : List CellId) :
    (rootText roots).toList.count c = (shownRoot roots).toList.count c := by
  match roots with
  | [] => rcases h with rfl | rfl <;> rfl
  | [root] => rfl
  | root :: second :: others =>
    have hopen : " (+".toList.count c = 0 := by rcases h with rfl | rfl <;> rfl
    have hnumber := List.count_eq_zero.2 (h.notMem_toString (second :: others).length)
    have hclose : ")".toList.count c = 0 := by rcases h with rfl | rfl <;> rfl
    simp only [rootText, shownRoot, String.toList_append, List.count_append, hopen, hnumber, hclose,
      Nat.add_zero]

/-- A line has its own rules and those of the two names in it. -/
theorem count_row (h : IsRule c) (report : TreeReport) :
    (row report).count c = "|||||".toList.count c + (report.tree.name.toList.count c +
      (shownRoot report.roots).toList.count c) := by
  have hnumber := List.count_eq_zero.2 (h.notMem_toString report.members)
  have hstatus := List.count_eq_zero.2 (h.notMem_statusText report)
  have hroot := h.count_rootText report.roots
  have hframe : "|||||".toList.count c = "| ".toList.count c + " | ".toList.count c
      + " | ".toList.count c + " | ".toList.count c + " |".toList.count c := by
    rcases h with rfl | rfl <;> rfl
  simp only [row, String.toList_append, List.count_append, hnumber, hstatus, hroot]
  omega

end IsRule

/-- A text that can stand in a table. -/
def Fits (text : String) : Prop := '|' ∉ text.toList ∧ '\n' ∉ text.toList

instance (text : String) : Decidable (Fits text) := inferInstanceAs (Decidable (_ ∧ _))

theorem fits_names_iff : Fits report.tree.name ∧ Fits (shownRoot report.roots) ↔
    '\n' ∉ row report ∧ (row report).count '|' = 5 := by
  have hbars := IsRule.count_row (Or.inl rfl : IsRule '|') report
  have hbreaks := IsRule.count_row (Or.inr rfl : IsRule '\n') report
  have hfive : "|||||".toList.count '|' = 5 := rfl
  have hnone : "|||||".toList.count '\n' = 0 := rfl
  simp only [Fits, ← List.count_eq_zero]
  omega

/-! ## The table -/

/-- The line of a tree begins with its name, and has five bars. -/
structure IsRow (tree : TreeId) (line : List Char) : Prop where
  named : ("| " ++ tree.name ++ " | ").toList <+: line
  bars : line.count '|' = 5

/-- A text of lines, each ended by a line break: one line for each tree, in the same order. -/
def IsTable (trees : List TreeId) (body : String) : Prop :=
  ∃ lines, Text.parts '\n' body.toList = lines ++ [[]] ∧ List.Forall₂ IsRow trees lines

theorem named_row (report : TreeReport) :
    ("| " ++ report.tree.name ++ " | ").toList <+: row report := by
  refine ⟨(rootText report.roots ++ " | " ++ toString report.members ++ " | " ++ statusText report
    ++ " |").toList, ?_⟩
  simp only [row, String.toList_append, List.append_assoc]

/-- Lines without a line break, five bars in each, are a table, and nothing else is. -/
theorem isTable_join_iff {reports : List TreeReport} :
    IsTable (reports.map TreeReport.tree) (String.join (reports.map stackedRow)) ↔
      ∀ report ∈ reports, Fits report.tree.name ∧ Fits (shownRoot report.roots) := by
  simp only [fits_names_iff, IsTable, toList_join_stackedRow]
  constructor
  · rintro ⟨lines, hparts, hlines⟩
    have hlength := congrArg List.length hparts
    rw [List.length_append, ← hlines.length_eq, List.length_map, List.length_singleton] at hlength
    have hwhole : ∀ line ∈ reports.map row, '\n' ∉ line :=
      length_parts_lines_iff.1 (by rw [hlength, List.length_map])
    rw [parts_lines hwhole, List.append_cancel_right_eq] at hparts
    rw [← hparts, List.forall₂_map_left_iff, List.forall₂_map_right_iff,
      List.forall₂_same] at hlines
    exact fun report hreport =>
      ⟨hwhole _ (List.mem_map_of_mem hreport), (hlines report hreport).bars⟩
  · intro h
    have hwhole : ∀ line ∈ reports.map row, '\n' ∉ line :=
      List.forall_mem_map.2 fun report hreport => (h report hreport).1
    refine ⟨reports.map row, parts_lines hwhole, ?_⟩
    rw [List.forall₂_map_left_iff, List.forall₂_map_right_iff, List.forall₂_same]
    exact fun report hreport => ⟨named_row report, (h report hreport).2⟩

theorem fits_shownRoot_iff {kind : TreeKind} {tree : TreeId} :
    Fits (shownRoot (topo.roots kind tree)) ↔
      ∀ root, topo.IsFirstRoot kind tree root → Fits root.name := by
  simp only [Topology.isFirstRoot_iff]
  cases topo.roots kind tree with
  | nil => simp [shownRoot, Fits]
  | cons root others => simp [shownRoot]

/-- **Where the table of stacked trees holds together.** -/
theorem isTable_iff {text : String} (h : ∃ tree id, topo.carries .stacked tree id)
    (htext : (ofTopology topo).markdown? = some text) :
    ∃ trees rows columns body,
      (∀ tree, tree ∈ trees ↔ ∃ id, topo.carries .stacked tree id) ∧
      (trees.Pairwise fun a b => compare a b = .lt) ∧
      text = (ofTopology topo).countsText rows columns ++ blackText (reports topo .black)
        ++ ("\n## Stacked Trees\n\n"
          ++ ("| Tree | Root | Members | Status |\n|------|------|---------|--------|\n" ++ body)) ∧
      (IsTable trees body ↔ ∀ tree, (∃ id, topo.carries .stacked tree id) →
        Fits tree.name ∧ ∀ root, topo.IsFirstRoot .stacked tree root → Fits root.name) := by
  obtain ⟨rows, columns, -, -, rfl⟩ := markdown?_eq_some_iff.1 htext
  have hcovers := covers_reports topo .stacked
  have hsome : reports topo .stacked ≠ [] := by
    obtain ⟨tree, hcarried⟩ := h
    obtain ⟨report, hreport, -⟩ := (hcovers.carried tree).2 hcarried
    exact List.ne_nil_of_mem hreport
  refine ⟨(reports topo .stacked).map TreeReport.tree, rows, columns,
    String.join ((reports topo .stacked).map stackedRow), fun tree => ?_, hcovers.increasing,
    ?_, ?_⟩
  · rw [List.mem_map, hcovers.carried]
  · exact congrArg _ (stackedText_of_ne_nil hsome)
  · rw [isTable_join_iff]
    simp only [mem_reports, ← fits_shownRoot_iff]
    constructor
    · exact fun hfits tree hcarried => hfits _ ⟨tree, hcarried, rfl⟩
    · rintro hfits _ ⟨tree, hcarried, rfl⟩
      exact hfits tree hcarried

/-- The names in the fork's table hold no rules. -/
theorem isTable_fork :
    (∃ tree id, Topology.fork.carries .stacked tree id) ∧
    ∃ text, (ofTopology Topology.fork).markdown? = some text ∧
      ∃ trees counts body, IsTable trees body ∧ text = counts ++ ("\n## Stacked Trees\n\n"
        ++ ("| Tree | Root | Members | Status |\n|------|------|---------|--------|\n" ++ body)) := by
  have hcarried : Topology.fork.carries .stacked ⟨"S"⟩ ⟨"A"⟩ := by decide +kernel
  obtain ⟨text, htext⟩ : ∃ text, (ofTopology Topology.fork).markdown? = some text :=
    Option.isSome_iff_exists.1 (by decide +kernel)
  have honly : ∀ tree ∈ (Topology.fork.treeIds .stacked).toList, Fits tree.name ∧
      Fits (shownRoot (Topology.fork.roots .stacked tree)) := by decide +kernel
  refine ⟨⟨_, _, hcarried⟩, text, htext, ?_⟩
  obtain ⟨trees, rows, columns, body, -, -, hwritten, hiff⟩ :=
    isTable_iff ⟨_, _, hcarried⟩ htext
  refine ⟨trees, _, body, hiff.2 fun tree htree => ?_, hwritten⟩
  rw [← fits_shownRoot_iff]
  exact honly tree (Std.ExtTreeSet.mem_toList.2 (Topology.mem_treeIds.2 htree))

/-- A cell whose stacked tree has a bar in its name. -/
def splitCell : Topology :=
  Topology.empty.place
    { id := ⟨"A"⟩, row := 0, col := 0, isBorder := false
      neighbors := ∅
      blackTrees := ∅
      stackedTrees := (∅ : Std.ExtTreeMap TreeId PortTree).insert ⟨"S|T"⟩ ∅ }

/-- The only line of its table has five cells where the head has four. -/
theorem splitCell_not_isTable :
    splitCell.carries .stacked ⟨"S|T"⟩ ⟨"A"⟩ ∧
    (ofTopology splitCell).markdown? = some
      ((ofTopology splitCell).countsText 1 1 ++ blackText [] ++ ("\n## Stacked Trees\n\n"
        ++ ("| Tree | Root | Members | Status |\n|------|------|---------|--------|\n"
          ++ "| S|T | A | 1 | ok |\n"))) ∧
    ∀ trees, ¬ IsTable trees "| S|T | A | 1 | ok |\n" := by
  have hblack : (ofTopology splitCell).blackTrees = [] := by decide +kernel
  have hstacked : (ofTopology splitCell).stackedTrees =
      [⟨⟨"S|T"⟩, .stacked, 1, [⟨"A"⟩], 1, false⟩] := by cbv
  refine ⟨by decide +kernel,
    markdown?_eq_some_iff.2 ⟨1, 1, by decide +kernel, by decide +kernel, ?_⟩, ?_⟩
  · rw [hblack, hstacked]
    decide +kernel
  · rintro trees ⟨lines, hparts, hlines⟩
    have hread : Text.parts '\n' "| S|T | A | 1 | ok |\n".toList =
        ["| S|T | A | 1 | ok |".toList] ++ [[]] := by decide
    obtain rfl := List.append_cancel_right (hparts.symm.trans hread)
    obtain ⟨tree, others, hrow, -, -⟩ := List.forall₂_cons_right_iff.1 hlines
    exact absurd hrow.bars (by decide)

end CellNet.Summary
