import CellNet.Summary
import CellNet.Proofs.Coverage
import CellNet.Proofs.Links
import Std.Data.String.ToNat

/-!
# The problems a summary tells of

**Theorem (`tells_problems`).** A report is consistent exactly when it has no problem to tell of; it
calls at least its first root reachable, and no more than its members, so the members it counts as
lost are those that are left. A summary has one report on each tree that some cell carries, in the
order of trees. Its Markdown is written if the grid can be counted, and what stands in it is known
(`Shows`): the black trees in the list are the inconsistent ones, each with a reason; a stacked tree
is called `ok` in its row exactly when it is not among the inconsistent ones; and the inconsistent
trees are as many as the number printed for black trees and the rows not called `ok` together.

Consistency asks whether as many members are reachable as there are, the problems ask whether fewer
are, and only where there is a root. The two agree because a search never enters more than the
members. A problem is said in more than two letters, so no list of problems reads `ok`.
-/

namespace CellNet

/-! ## Problems and consistency -/

namespace TreeReport

variable {r : TreeReport} {p : String}

/-- What a report tells of, and when. -/
theorem mem_problems : p ∈ r.problems ↔
    (r.roots = [] ∧ p = "no root") ∨
    (2 ≤ r.roots.length ∧ p = toString r.roots.length ++ " roots") ∨
    (r.cyclic ∧ p = "cycle") ∨
    (r.roots ≠ [] ∧ r.reachable < r.members ∧
      p = toString (r.members - r.reachable) ++ " unreachable") := by
  unfold problems
  rcases hroots : r.roots with _ | ⟨root, _ | ⟨second, others⟩⟩ <;>
    by_cases hcyclic : r.cyclic <;> by_cases hlost : r.reachable < r.members <;>
    simp [hcyclic, hlost]

theorem problems_eq_nil_iff :
    r.problems = [] ↔ r.roots.length = 1 ∧ ¬ r.cyclic ∧ ¬ r.reachable < r.members := by
  unfold problems
  rcases hroots : r.roots with _ | ⟨root, _ | ⟨second, others⟩⟩ <;> simp

/-- Whether a character is one that words are written in. -/
def inWords (c : Char) : Bool := c.isAlphanum || c = ' '

theorem all_inWords_toString (n : Nat) : (toString n).toList.all inWords := by
  rw [List.all_eq_true, Nat.toString_eq_repr, Nat.toList_repr]
  intro c hc
  have hdigit := Nat.isDigit_of_mem_toDigits (by decide) (by decide) hc
  simp [inWords, Char.isAlphanum, hdigit]

theorem phrase_of_number (n : Nat) {words : String} (hlong : 2 < words.length)
    (hwords : words.toList.all inWords) :
    2 < (toString n ++ words).length ∧ (toString n ++ words).toList.all inWords := by
  refine ⟨?_, ?_⟩
  · rw [String.length_append]
    omega
  · rw [String.toList_append, List.all_append, all_inWords_toString, hwords, Bool.and_true]

/-- A problem is said in letters, digits and blanks, and in more than two of them. -/
theorem phrase_of_mem_problems (h : p ∈ r.problems) :
    2 < p.length ∧ p.toList.all inWords := by
  rcases mem_problems.1 h with ⟨-, rfl⟩ | ⟨-, rfl⟩ | ⟨-, rfl⟩ | ⟨-, -, rfl⟩
  · decide
  · exact phrase_of_number _ (by decide) (by decide)
  · decide
  · exact phrase_of_number _ (by decide) (by decide)

/-- A report tells of a problem exactly when there is one. -/
structure Candid (r : TreeReport) : Prop where
  reachable_le : r.reachable ≤ r.members
  reachable_pos : r.roots ≠ [] → 1 ≤ r.reachable
  consistent_iff : r.isConsistent ↔ r.problems = []
  /-- The members said to be lost are those that are left behind the reachable ones. -/
  lost_iff : ∀ n, toString n ++ " unreachable" ∈ r.problems ↔
    r.roots ≠ [] ∧ 0 < n ∧ r.reachable + n = r.members

theorem isConsistent_iff_problems_eq_nil (h : r.reachable ≤ r.members) :
    r.isConsistent ↔ r.problems = [] := by
  rw [problems_eq_nil_iff, isConsistent]
  simp only [Bool.and_eq_true, beq_iff_eq, Bool.not_eq_true', Bool.not_eq_true, and_assoc]
  refine and_congr_right fun _ => and_congr_right fun _ => ?_
  exact ⟨fun heq => heq.not_lt, fun hnot => le_antisymm h (not_lt.1 hnot)⟩

/-- The number of lost members is told by itself. -/
theorem lost_mem_problems_iff {n : Nat} : toString n ++ " unreachable" ∈ r.problems ↔
    r.roots ≠ [] ∧ r.reachable < r.members ∧ n = r.members - r.reachable := by
  have hends : ∀ k : Nat, (toString k ++ " unreachable").toList.getLast? = some 'e' ∧
      ' ' ∈ (toString k ++ " unreachable").toList := by
    intro k
    simp
  constructor
  · intro h
    obtain ⟨hlast, hblank⟩ := hends n
    rcases mem_problems.1 h with ⟨-, heq⟩ | ⟨-, heq⟩ | ⟨-, heq⟩ | ⟨hroots, hlost, heq⟩
    · rw [heq] at hlast
      exact absurd hlast (by decide)
    · rw [heq] at hlast
      simp at hlast
    · rw [heq] at hblank
      exact absurd hblank (by decide)
    · rw [String.append_left_inj, Nat.toString_eq_repr, Nat.toString_eq_repr, Nat.repr_inj] at heq
      exact ⟨hroots, hlost, heq⟩
  · rintro ⟨hroots, hlost, rfl⟩
    exact mem_problems.2 (Or.inr (Or.inr (Or.inr ⟨hroots, hlost, rfl⟩)))

theorem candid_of_le (hle : r.reachable ≤ r.members) (hpos : r.roots ≠ [] → 1 ≤ r.reachable) :
    r.Candid where
  reachable_le := hle
  reachable_pos := hpos
  consistent_iff := isConsistent_iff_problems_eq_nil hle
  lost_iff n := by
    rw [lost_mem_problems_iff]
    refine and_congr_right fun _ => ?_
    omega

end TreeReport

namespace Topology

variable {topo : Topology} {kind : TreeKind} {tree : TreeId}

/-- The search starts at the first root and stays among the members. -/
theorem candid_treeReport (topo : Topology) (kind : TreeKind) (tree : TreeId) :
    (topo.treeReport kind tree).Candid := by
  cases hroots : topo.roots kind tree with
  | nil =>
    have hnone : (topo.treeReport kind tree).roots = [] := hroots
    have hzero : (topo.treeReport kind tree).reachable = 0 := by rw [treeReport, hroots]
    exact TreeReport.candid_of_le (hzero ▸ Nat.zero_le _) fun hsome => absurd hnone hsome
  | cons root others =>
    have hfirst : topo.IsFirstRoot kind tree root := isFirstRoot_iff.2 ⟨others, hroots⟩
    refine TreeReport.candid_of_le hfirst.reachable_le_members fun _ => ?_
    have hreached : root ∈ (topo.treeGraph kind tree).reach root :=
      (mem_reach_treeGraph hfirst.1.1).2 .refl
    rw [treeReport, hroots]
    exact List.length_pos_of_mem hreached

/-! ## One report for each tree -/

theorem mem_treeIds : tree ∈ topo.treeIds kind ↔ ∃ id, topo.carries kind tree id := by
  rw [treeIds, Std.ExtTreeSet.mem_ofList, List.contains_iff_mem, List.mem_flatMap]
  simp only [values_eq_map_snd, List.mem_map, Prod.exists,
    Std.ExtTreeMap.mem_toList_iff_getElem?_eq_some, Std.ExtTreeMap.mem_keys,
    Std.ExtTreeMap.mem_iff_isSome_getElem?, carries, roles?, cell?]
  constructor
  · rintro ⟨_, ⟨id, cell, hcell, rfl⟩, hroles⟩
    exact ⟨id, by rwa [hcell]⟩
  · rintro ⟨id, hcarries⟩
    obtain ⟨roles, hroles⟩ := Option.isSome_iff_exists.1 hcarries
    obtain ⟨cell, hcell, htree⟩ := Option.bind_eq_some_iff.1 hroles
    exact ⟨cell, ⟨id, cell, hcell, rfl⟩, Option.isSome_iff_exists.2 ⟨roles, htree⟩⟩

theorem one_le_members {id : CellId} (h : topo.carries kind tree id) :
    1 ≤ (topo.treeReport kind tree).members :=
  List.length_pos_of_mem (mem_members.2 h)

end Topology

namespace Summary

variable {topo : Topology} {kind : TreeKind} {report : TreeReport} {summary : Summary}

def trees (summary : Summary) : TreeKind → List TreeReport
  | .black => summary.blackTrees
  | .stacked => summary.stackedTrees

theorem trees_ofTopology (topo : Topology) (kind : TreeKind) :
    (ofTopology topo).trees kind = reports topo kind := by
  cases kind <;> rfl

/-- There is one report on each tree of a family that some cell carries, in the order of trees. -/
structure Covers (reports : List TreeReport) (topo : Topology) (kind : TreeKind) : Prop where
  carried : ∀ tree, (∃ report ∈ reports, report.tree = tree) ↔ ∃ id, topo.carries kind tree id
  increasing : (reports.map TreeReport.tree).Pairwise fun a b => compare a b = .lt
  report : ∀ report ∈ reports, report = topo.treeReport kind report.tree ∧ 1 ≤ report.members

theorem map_tree_reports (topo : Topology) (kind : TreeKind) :
    (reports topo kind).map TreeReport.tree = (topo.treeIds kind).toList := by
  rw [reports, List.map_map]
  exact List.map_id' _

theorem mem_reports : report ∈ reports topo kind ↔
    ∃ tree, (∃ id, topo.carries kind tree id) ∧ topo.treeReport kind tree = report := by
  simp only [reports, List.mem_map, Std.ExtTreeSet.mem_toList, Topology.mem_treeIds]

theorem covers_reports (topo : Topology) (kind : TreeKind) :
    Covers (reports topo kind) topo kind where
  carried tree := by
    rw [← Topology.mem_treeIds, ← Std.ExtTreeSet.mem_toList, ← map_tree_reports, List.mem_map]
  increasing := by
    rw [map_tree_reports]
    exact (topo.treeIds kind).ordered_toList
  report report hreport := by
    obtain ⟨tree, ⟨id, hcarries⟩, rfl⟩ := mem_reports.1 hreport
    exact ⟨rfl, Topology.one_le_members hcarries⟩

theorem candid_of_mem_reports (h : report ∈ reports topo kind) : report.Candid := by
  obtain ⟨tree, -, rfl⟩ := mem_reports.1 h
  exact topo.candid_treeReport kind tree

/-! ## Problems in words -/

theorem length_le_length_intercalate {separator : String} {texts : List String} {text : String}
    (h : text ∈ texts) : text.length ≤ (separator.intercalate texts).length := by
  induction texts with
  | nil => cases h
  | cons first rest ih =>
    cases rest with
    | nil => rw [List.mem_singleton.1 h]; rfl
    | cons second rest =>
      rw [String.intercalate_cons_cons, String.length_append, String.length_append]
      rcases List.mem_cons.1 h with rfl | h
      · omega
      · exact (ih h).trans (Nat.le_add_left _ _)

/-- Where there is a problem, there are words for it. -/
theorem two_lt_length_problemText (h : report.problems ≠ []) :
    2 < (problemText report).length := by
  obtain ⟨problem, hproblem⟩ := List.exists_mem_of_ne_nil _ h
  exact (TreeReport.phrase_of_mem_problems hproblem).1.trans_le
    (length_le_length_intercalate hproblem)

theorem statusText_eq_ok_iff (h : report.Candid) :
    statusText report = "ok" ↔ report.isConsistent := by
  rw [statusText]
  split_ifs with hconsistent
  · exact iff_of_true rfl hconsistent
  · have hlength := two_lt_length_problemText (mt h.consistent_iff.2 hconsistent)
    refine iff_of_false (fun hok => ?_) hconsistent
    rw [hok] at hlength
    exact absurd hlength (by decide)

theorem mem_faulty {reports : List TreeReport} :
    report ∈ faulty reports ↔ report ∈ reports ∧ ¬ report.isConsistent := by
  simp [faulty]

/-! ## What Markdown tells -/

theorem mem_inconsistent : report ∈ summary.inconsistent ↔
    (∃ kind, report ∈ summary.trees kind) ∧ ¬ report.isConsistent := by
  rw [inconsistent, mem_faulty, List.mem_append]
  refine and_congr_left fun _ => ⟨?_, ?_⟩
  · rintro (hblack | hstacked)
    · exact ⟨.black, hblack⟩
    · exact ⟨.stacked, hstacked⟩
  · rintro ⟨_ | _, hmem⟩
    · exact Or.inl hmem
    · exact Or.inr hmem

theorem problemText_ne_empty (h : report.Candid) (hfaulty : ¬ report.isConsistent) :
    problemText report ≠ "" := by
  intro hempty
  have hlength := two_lt_length_problemText (mt h.consistent_iff.2 hfaulty)
  rw [hempty] at hlength
  exact absurd hlength (by decide)

/-- The stacked trees not called `ok` are the inconsistent ones. -/
theorem filter_statusText_ne_ok {reports : List TreeReport}
    (h : ∀ report ∈ reports, report.Candid) :
    (reports.filter fun report => statusText report ≠ "ok") = faulty reports := by
  refine List.filter_congr fun report hreport => ?_
  have hok := statusText_eq_ok_iff (h report hreport)
  by_cases hconsistent : report.isConsistent <;> simp [hconsistent, hok]

/-- Trees in a list, each with a reason. -/
def listedText (listed : List (TreeReport × String)) : String :=
  String.join (listed.map fun (report, reason) =>
    "- *" ++ report.tree.name ++ "*: " ++ reason ++ "\n")

/-- Trees in a table, each with its status. -/
def rowsText (rows : List (TreeReport × String)) : String :=
  String.join (rows.map fun (report, status) =>
    "| " ++ report.tree.name ++ " | " ++ rootText report.roots ++ " | "
      ++ toString report.members ++ " | " ++ status ++ " |\n")

/-- What stands in the Markdown of a summary: the trees in the list of black trees and those in the
table of stacked trees, with what is said about each. -/
structure Shows (summary : Summary) (listed rows : List (TreeReport × String)) : Prop where
  written : summary.markdown? = some (
    summary.countsText (summary.maxRow + 1) (summary.maxCol + 1)
    ++ ("\n## Black Trees\n\n" ++ toString summary.blackTrees.length ++ " trees, "
      ++ toString listed.length ++ " inconsistent\n"
      ++ if listed.isEmpty then "" else "\n" ++ listedText listed)
    ++ ("\n## Stacked Trees\n\n"
      ++ if rows.isEmpty then "No stacked trees loaded.\n"
        else "| Tree | Root | Members | Status |\n|------|------|---------|--------|\n"
          ++ rowsText rows))
  inList : listed.map Prod.fst = summary.blackTrees.filter (· ∈ summary.inconsistent)
  reason : ∀ report reason, (report, reason) ∈ listed →
    reason = ", ".intercalate report.problems ∧ reason ≠ ""
  inTable : rows.map Prod.fst = summary.stackedTrees
  status : ∀ report status, (report, status) ∈ rows →
    (status = "ok" ↔ report ∉ summary.inconsistent) ∧
    (status ≠ "ok" → status = ", ".intercalate report.problems)
  /-- As many are inconsistent as the two parts show. -/
  count : summary.inconsistent.length =
    listed.length + (rows.filter fun entry => entry.2 ≠ "ok").length

/-- What a summary tells of trees agrees with the problems the reports have. -/
structure TellsProblems (summary : Summary) : Prop where
  /-- No tree is inconsistent without a reason, and no problem is kept quiet. -/
  inconsistent : ∀ report, report ∈ summary.inconsistent ↔
    (∃ kind, report ∈ summary.trees kind) ∧ report.problems ≠ []
  shown : summary.maxRow + 1 < 2 ^ 64 → summary.maxCol + 1 < 2 ^ 64 →
    ∃ listed rows, summary.Shows listed rows

theorem filter_inconsistent_black (summary : Summary) :
    summary.blackTrees.filter (· ∈ summary.inconsistent) = faulty summary.blackTrees := by
  refine List.filter_congr fun report hreport => ?_
  have hlisted : report ∈ summary.inconsistent ↔ ¬ report.isConsistent := by
    rw [mem_inconsistent]
    exact and_iff_right ⟨.black, hreport⟩
  simp [hlisted]

theorem length_inconsistent (h : ∀ report ∈ summary.stackedTrees, report.Candid) :
    summary.inconsistent.length = (faulty summary.blackTrees).length +
      (summary.stackedTrees.filter fun report => statusText report ≠ "ok").length := by
  rw [filter_statusText_ne_ok h, inconsistent, faulty, List.filter_append, List.length_append]
  rfl

theorem listedText_map (reports : List TreeReport) :
    listedText (reports.map fun report => (report, problemText report)) =
      String.join (reports.map blackLine) := by
  rw [listedText, List.map_map]
  exact congrArg String.join (List.map_congr_left fun _ _ => rfl)

theorem rowsText_map (reports : List TreeReport) :
    rowsText (reports.map fun report => (report, statusText report)) =
      String.join (reports.map stackedRow) := by
  rw [rowsText, List.map_map]
  exact congrArg String.join (List.map_congr_left fun _ _ => rfl)

theorem blackText_eq (reports : List TreeReport) {listed : List (TreeReport × String)}
    (h : listed = (faulty reports).map fun report => (report, problemText report)) :
    blackText reports = "\n## Black Trees\n\n" ++ toString reports.length ++ " trees, "
      ++ toString listed.length ++ " inconsistent\n"
      ++ if listed.isEmpty then "" else "\n" ++ listedText listed := by
  unfold blackText
  rw [h, listedText_map, List.length_map, List.isEmpty_map]

theorem stackedText_eq (reports : List TreeReport) {rows : List (TreeReport × String)}
    (h : rows = reports.map fun report => (report, statusText report)) :
    stackedText reports = "\n## Stacked Trees\n\n"
      ++ if rows.isEmpty then "No stacked trees loaded.\n" else tableHead ++ rowsText rows := by
  unfold stackedText
  rw [h, rowsText_map, List.isEmpty_map]

/-- A summary that can be written shows each black tree that is inconsistent with its problems, and
each stacked tree with its state. -/
theorem shows_of_fits (h : ∀ kind, ∀ report ∈ summary.trees kind, report.Candid)
    (hrow : summary.maxRow + 1 < 2 ^ 64) (hcol : summary.maxCol + 1 < 2 ^ 64) :
    summary.Shows ((faulty summary.blackTrees).map fun report => (report, problemText report))
      (summary.stackedTrees.map fun report => (report, statusText report)) where
  written := by
    refine markdown?_eq_some_iff.2 ⟨_, _, countThrough?_eq_some_iff.2 ⟨rfl, hrow⟩,
      countThrough?_eq_some_iff.2 ⟨rfl, hcol⟩, ?_⟩
    rw [blackText_eq _ rfl, stackedText_eq _ rfl]
    rfl
  inList := by
    rw [filter_inconsistent_black, List.map_map]
    exact List.map_id' _
  reason := by
    intro report reason hlisted
    obtain ⟨faulted, hfaulted, heq⟩ := List.mem_map.1 hlisted
    obtain ⟨rfl, rfl⟩ := Prod.mk.inj heq
    obtain ⟨hmem, hfaulty⟩ := mem_faulty.1 hfaulted
    exact ⟨rfl, problemText_ne_empty (h .black faulted hmem) hfaulty⟩
  inTable := by
    rw [List.map_map]
    exact List.map_id' _
  status := by
    intro report status hrow
    obtain ⟨stacked, hstacked, heq⟩ := List.mem_map.1 hrow
    obtain ⟨rfl, rfl⟩ := Prod.mk.inj heq
    have hok := statusText_eq_ok_iff (h .stacked stacked hstacked)
    constructor
    · rw [hok, mem_inconsistent, not_and_not_right]
      exact ⟨fun hconsistent _ => hconsistent, fun himp => himp ⟨.stacked, hstacked⟩⟩
    · intro hne
      rw [statusText, if_neg (mt hok.2 hne)]
      rfl
  count := by
    rw [length_inconsistent (h .stacked), List.filter_map, List.length_map, List.length_map]
    rfl

theorem tellsProblems (h : ∀ kind, ∀ report ∈ summary.trees kind, report.Candid) :
    summary.TellsProblems where
  inconsistent report := by
    rw [mem_inconsistent]
    refine and_congr_right ?_
    rintro ⟨kind, hkind⟩
    exact not_congr (h kind report hkind).consistent_iff
  shown hrow hcol := ⟨_, _, shows_of_fits h hrow hcol⟩

/-- **A summary tells of problems where there are some, and nowhere else.** -/
theorem tells_problems (topo : Topology) :
    (∀ kind tree, (topo.treeReport kind tree).Candid) ∧
    (∀ kind, Covers ((ofTopology topo).trees kind) topo kind) ∧
    (ofTopology topo).TellsProblems := by
  refine ⟨topo.candid_treeReport, fun kind => ?_, tellsProblems fun kind report hreport => ?_⟩
  · rw [trees_ofTopology]
    exact covers_reports topo kind
  · rw [trees_ofTopology] at hreport
    exact candid_of_mem_reports hreport

/-- Two cells that lead to each other in a stacked tree, and are both a root of a black tree. -/
def headless : Topology :=
  let cell (id far : CellId) : Cell :=
    (Cell.inTree id .stacked ⟨"Loop"⟩ [(⟨0⟩, ⟨far, ⟨0⟩⟩)] [(⟨0⟩, .parent)]).withTrees
      ((∅ : Std.ExtTreeMap TreeId PortTree).insert (.blackOf ⟨"A"⟩) ∅) .black
  Topology.empty
    |>.place (cell ⟨"A"⟩ ⟨"B"⟩)
    |>.place (cell ⟨"B"⟩ ⟨"A"⟩)

example : (reports headless .black).map blackLine =
      ["- *Tree:A*: 2 roots, 1 unreachable\n"] ∧
    (reports headless .stacked).map stackedRow = ["| Loop | - | 2 | no root, cycle |\n"] := by
  cbv

end Summary

end CellNet
