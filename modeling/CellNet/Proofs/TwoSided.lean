import CellNet.Proofs.Closure
import Mathlib.Data.List.Basic

/-!
# Trees described from both sides

The walk follows child ports and collects links from parent ports. **Theorem
(`twoSided_highlight`).** When the two sides agree (`TwoSided`), the links collected are those
walked: exactly the links behind the child ports of the marked cells that lead to members. No cell
is reached more than once, and from every marked cell the parent ports lead back to the start, over
marked links only.

Agreement has two parts. The start has no parent port. A child port that leads to a member arrives
at the only parent port of that member, which leads back to where it came from; so a member is
entered through one child port of one cell at most (`TwoSided.unique`), and the link has the same
name seen from either end.
-/

namespace CellNet

namespace Topology

variable {topo : Topology} {kind : TreeKind} {tree : TreeId} {keep : CellId → Bool}
  {id start upper lower upper' : CellId} {port port' : Port} {link : LinkId}

/-! ## Agreement -/

/-- Child ports and parent ports describe the same edges, and the start has no parent port. -/
structure TwoSided (topo : Topology) (kind : TreeKind) (tree : TreeId) (start : CellId) : Prop where
  start : ∀ port, ¬ topo.HasRole kind tree start port .parent
  mirrored : ∀ upper port lower back, topo.HasRole kind tree upper port .child →
    topo.neighbor? upper port = some ⟨lower, back⟩ → topo.carries kind tree lower →
    (∀ p, topo.HasRole kind tree lower p .parent ↔ p = back) ∧
      topo.neighbor? lower back = some ⟨upper, port⟩

theorem twoSided_iff : topo.TwoSided kind tree start ↔
    topo.rolePorts kind tree start .parent = [] ∧
      ∀ upper ∈ topo.members kind tree, ∀ port ∈ topo.rolePorts kind tree upper .child,
        ∀ far ∈ topo.neighbor? upper port, topo.carries kind tree far.cell →
          topo.rolePorts kind tree far.cell .parent = [far.port] ∧
            topo.neighbor? far.cell far.port = some ⟨upper, port⟩ := by
  simp only [rolePorts_eq_nil_iff, rolePorts_eq_singleton_iff, mem_rolePorts, Option.mem_def]
  constructor
  · rintro ⟨hstart, hmirrored⟩
    exact ⟨hstart, fun upper _ port hrole far => hmirrored upper port far.cell far.port hrole⟩
  · rintro ⟨hstart, hmirrored⟩
    exact ⟨hstart, fun upper port lower back hrole =>
      hmirrored upper (mem_members.2 hrole.carries) port hrole ⟨lower, back⟩⟩

instance (topo : Topology) (kind : TreeKind) (tree : TreeId) (start : CellId) :
    Decidable (topo.TwoSided kind tree start) :=
  decidable_of_iff _ twoSided_iff.symm

theorem linkAt_comm (a b : CellId) (p q : Port) : linkAt a p ⟨b, q⟩ = linkAt b q ⟨a, p⟩ :=
  Link.between_comm ⟨a, p⟩ ⟨b, q⟩

/-- What the lower end says of a child port that leads to a member. -/
theorem TwoSided.exists_back (two : topo.TwoSided kind tree start)
    (hrole : topo.HasRole kind tree upper port .child)
    (hbehind : topo.cellBehind? upper port = some lower) (hlower : topo.carries kind tree lower) :
    ∃ back, (∀ p, topo.HasRole kind tree lower p .parent ↔ p = back) ∧
      topo.neighbor? upper port = some ⟨lower, back⟩ ∧
      topo.neighbor? lower back = some ⟨upper, port⟩ ∧
      topo.linkThrough? lower back = topo.linkThrough? upper port := by
  rw [cellBehind?_eq, Option.map_eq_some_iff] at hbehind
  obtain ⟨⟨cell, back⟩, hfar, rfl⟩ := hbehind
  obtain ⟨honly, hback⟩ := two.mirrored upper port cell back hrole hfar hlower
  refine ⟨back, honly, hfar, hback, ?_⟩
  rw [linkThrough?_eq, linkThrough?_eq, hfar, hback, Option.map_some, Option.map_some, linkAt_comm]

/-- A member is entered through one child port of one cell at most. -/
theorem TwoSided.unique (two : topo.TwoSided kind tree start)
    (hrole : topo.HasRole kind tree upper port .child)
    (hbehind : topo.cellBehind? upper port = some lower)
    (hrole' : topo.HasRole kind tree upper' port' .child)
    (hbehind' : topo.cellBehind? upper' port' = some lower)
    (hlower : topo.carries kind tree lower) : upper = upper' ∧ port = port' := by
  obtain ⟨back, honly, -, hback, -⟩ := two.exists_back hrole hbehind hlower
  obtain ⟨back', honly', -, hback', -⟩ := two.exists_back hrole' hbehind' hlower
  have hsame : back' = back := (honly back').1 ((honly' back').2 rfl)
  rw [hsame, hback, Option.some.injEq, Neighbor.mk.injEq] at hback'
  exact hback'

/-- The start is entered through no child port. -/
theorem TwoSided.not_descends_start (two : topo.TwoSided kind tree start) (upper : CellId) :
    ¬ topo.Descends kind tree upper start := by
  rintro ⟨-, hstart, port, hrole, hbehind⟩
  obtain ⟨back, honly, -⟩ := two.exists_back hrole hbehind hstart
  exact two.start back ((honly back).2 rfl)

/-! ## No cell twice -/

theorem TwoSided.count_childCells_le_one (two : topo.TwoSided kind tree start)
    (hlower : topo.carries kind tree lower) :
    (topo.childCells kind tree upper).count lower ≤ 1 := by
  cases hroles : topo.roles? kind tree upper with
  | none => simp [childCells, hroles]
  | some roles =>
    have hleads : ∀ p ∈ roles.childPorts, lower ∈ (topo.cellBehind? upper p).toList →
        topo.HasRole kind tree upper p .child ∧ topo.cellBehind? upper p = some lower :=
      fun p hp hmem => ⟨(hasRole_iff hroles).2 (PortTree.mem_portsWith.1 hp), by simpa using hmem⟩
    rw [childCells_eq hroles, List.filterMap_eq_flatMap_toList]
    refine Digraph.count_flatMap_le_one (roles.nodup_portsWith .child) (fun p _ _ => ?_) ?_
    · cases topo.cellBehind? upper p with
      | none => simp
      | some cell => exact List.count_le_length
    · intro p hp q hq hmem hmem'
      obtain ⟨hrole, hbehind⟩ := hleads p hp hmem
      obtain ⟨hrole', hbehind'⟩ := hleads q hq hmem'
      exact (two.unique hrole hbehind hrole' hbehind' hlower).2

theorem TwoSided.branching (two : topo.TwoSided kind tree start) :
    (topo.descent kind tree).Branching start where
  start upper hedge := two.not_descends_start upper (edge_descent_iff.1 hedge)
  once _ lower hedge := two.count_childCells_le_one (edge_descent_iff.1 hedge).2.1
  unique upper upper' lower hedge hedge' := by
    obtain ⟨-, hlower, port, hrole, hbehind⟩ := edge_descent_iff.1 hedge
    obtain ⟨-, -, port', hrole', hbehind'⟩ := edge_descent_iff.1 hedge'
    exact (two.unique hrole hbehind hrole' hbehind' hlower).1

/-- The walk warns of a cell reached again exactly when it comes upon one. -/
theorem reachedAgain_mem_warnings_iff :
    .reachedAgain id ∈ (topo.highlightFrom kind tree start keep).warnings ↔
      .again id ∈ (topo.descent kind tree).explore [] [start] := by
  simp only [highlightFrom, List.mem_flatMap]
  constructor
  · rintro ⟨step, hstep, hwarning⟩
    cases step with
    | enter v => simp [stepWarnings] at hwarning
    | again v =>
      simp only [stepWarnings, List.mem_singleton, Warning.reachedAgain.injEq] at hwarning
      rwa [hwarning]
  · exact fun h => ⟨_, h, by simp [stepWarnings]⟩

/-! ## The way back -/

/-- A step back up a tree, through the parent port of a cell and over one of the given links. -/
def Climbs (topo : Topology) (kind : TreeKind) (tree : TreeId) (links : Std.ExtTreeSet LinkId)
    (lower upper : CellId) : Prop :=
  ∃ roles port link, topo.roles? kind tree lower = some roles ∧ roles.parentPort? = some port ∧
    topo.cellBehind? lower port = some upper ∧ topo.linkThrough? lower port = some link ∧
    link ∈ links

/-- The link of a step down is collected when its upper end may be kept. -/
theorem TwoSided.mem_links (two : topo.TwoSided kind tree start) (hkeep : keep upper)
    (hreached : topo.ReachedFrom kind tree start upper)
    (hrole : topo.HasRole kind tree upper port .child)
    (hbehind : topo.cellBehind? upper port = some lower) (hlower : topo.carries kind tree lower)
    (hlink : topo.linkThrough? upper port = some link) :
    link ∈ (topo.highlightFrom kind tree start keep).links := by
  obtain ⟨back, honly, -, hback, hsame⟩ := two.exists_back hrole hbehind hlower
  have hdescends : topo.Descends kind tree upper lower :=
    ⟨hreached.carries, hlower, port, hrole, hbehind⟩
  refine mem_links_highlightFrom.2 ⟨lower, ⟨hreached.1, hreached.2.tail hdescends⟩, ?_⟩
  exact mem_parentLinks.2 ⟨back, _, (honly back).2 rfl, hback, hkeep, hsame.trans hlink⟩

/-- A step down can be climbed back over a collected link. -/
theorem TwoSided.climbs (two : topo.TwoSided kind tree start) (hkeep : keep upper)
    (hreached : topo.ReachedFrom kind tree start upper)
    (hdescends : topo.Descends kind tree upper lower) :
    topo.Climbs kind tree (topo.highlightFrom kind tree start keep).links lower upper := by
  obtain ⟨-, hlower, port, hrole, hbehind⟩ := hdescends
  obtain ⟨back, honly, hfar, hback, hsame⟩ := two.exists_back hrole hbehind hlower
  obtain ⟨roles, hroles⟩ := carries_iff.1 hlower
  have hlink : topo.linkThrough? upper port = some (linkAt upper port ⟨lower, back⟩).id := by
    rw [linkThrough?_eq, hfar, Option.map_some]
  have hport : roles.parentPort? = some back :=
    PortTree.parentPort?_eq_some fun p => (hasRole_iff hroles).symm.trans (honly p)
  exact ⟨roles, back, _, hroles, hport, by rw [cellBehind?_eq, hback, Option.map_some],
    hsame.trans hlink, two.mem_links hkeep hreached hrole hbehind hlower hlink⟩

end Topology

/-- A highlight marks the edges walked from a start cell and each cell once, and its links lead
back. -/
structure Highlight.MarksWalk (h : Highlight) (topo : Topology) (kind : TreeKind) (tree : TreeId)
    (start : CellId) : Prop where
  links : ∀ link, link ∈ h.links ↔ ∃ upper ∈ h.nodes, ∃ port lower,
    topo.HasRole kind tree upper port .child ∧ topo.cellBehind? upper port = some lower ∧
      topo.carries kind tree lower ∧ topo.linkThrough? upper port = some link
  once : ∀ id, .reachedAgain id ∉ h.warnings
  back : ∀ id ∈ h.nodes, Relation.ReflTransGen (topo.Climbs kind tree h.links) id start

namespace Topology

variable {topo : Topology} {kind : TreeKind} {tree : TreeId} {keep : CellId → Bool}
  {start : CellId}

/-- The walk of a two-sided tree marks what it walks, if it keeps the links to members. -/
theorem TwoSided.marksWalk (two : topo.TwoSided kind tree start)
    (hkeep : ∀ id, topo.carries kind tree id → keep id) :
    (topo.highlightFrom kind tree start keep).MarksWalk topo kind tree start where
  links link := by
    constructor
    · intro hlink
      obtain ⟨id, hreached, hparent⟩ := mem_links_highlightFrom.1 hlink
      obtain ⟨port, far, hrole, -, -, hthrough⟩ := mem_parentLinks.1 hparent
      obtain ⟨hstart, hpath⟩ := hreached
      -- The cell with the parent port is not the start, so a step down led to it.
      cases hpath with
      | refl => exact absurd hrole (two.start port)
      | @tail upper _ hupper hdescends =>
        obtain ⟨-, hlower, port', hrole', hbehind⟩ := hdescends
        obtain ⟨back, honly, -, -, hsame⟩ := two.exists_back hrole' hbehind hlower
        rw [(honly port).1 hrole, hsame] at hthrough
        exact ⟨upper, mem_nodes_highlightFrom.2 ⟨hstart, hupper⟩, port', id, hrole', hbehind,
          hlower, hthrough⟩
    · rintro ⟨upper, hupper, port, lower, hrole, hbehind, hlower, hthrough⟩
      exact two.mem_links (hkeep upper hrole.carries) (mem_nodes_highlightFrom.1 hupper) hrole
        hbehind hlower hthrough
  once id hwarning :=
    Digraph.again_notMem_explore two.branching id (reachedAgain_mem_warnings_iff.1 hwarning)
  back id hid := by
    obtain ⟨hstart, hpath⟩ := mem_nodes_highlightFrom.1 hid
    clear hid
    induction hpath with
    | refl => exact .refl
    | tail hupper hdescends ih =>
      exact .head (two.climbs (hkeep _ hdescends.1) ⟨hstart, hupper⟩ hdescends) ih

/-- **Two-sided trees are highlighted as walked**, black trees from the cell they are named after
and stacked trees from their first root. -/
theorem twoSided_highlight (topo : Topology) :
    (∀ root, topo.TwoSided .black (.blackOf root) root →
      (topo.blackHighlight root).MarksWalk topo .black (.blackOf root) root) ∧
    ∀ tree root, topo.IsFirstRoot .stacked tree root → topo.TwoSided .stacked tree root →
      ∃ h, topo.stackedHighlight tree = .ok h ∧ h.MarksWalk topo .stacked tree root := by
  refine ⟨fun root two => two.marksWalk fun _ _ => rfl, fun tree root hroot two => ?_⟩
  have hwalk := two.marksWalk fun id (h : topo.carries .stacked tree id) => h
  refine ⟨_, stackedHighlight_of_isFirstRoot hroot, hwalk.links, fun id hid => ?_, hwalk.back⟩
  rcases List.mem_append.1 hid with hfront | hfound
  · rw [rootWarnings] at hfront
    split_ifs at hfront <;> simp at hfront
  · exact hwalk.once id hfound

/-- A cell `A` with two children `B` and `C`, as the black tree of `A` and as a stacked tree `S`. -/
def fork : Topology :=
  let cell (id : CellId) (neighbors : List (Port × Neighbor)) (roles : List (Port × Role)) : Cell :=
    { id, row := 0, col := 0, isBorder := false
      neighbors := Std.ExtTreeMap.ofList neighbors compare
      blackTrees := (∅ : Std.ExtTreeMap TreeId PortTree).insert (.blackOf ⟨"A"⟩)
        (Std.ExtTreeMap.ofList roles compare)
      stackedTrees := (∅ : Std.ExtTreeMap TreeId PortTree).insert ⟨"S"⟩
        (Std.ExtTreeMap.ofList roles compare) }
  empty
    |>.place (cell ⟨"A"⟩ [(⟨1⟩, ⟨⟨"B"⟩, ⟨0⟩⟩), (⟨2⟩, ⟨⟨"C"⟩, ⟨5⟩⟩)] [(⟨1⟩, .child), (⟨2⟩, .child)])
    |>.place (cell ⟨"B"⟩ [(⟨0⟩, ⟨⟨"A"⟩, ⟨1⟩⟩)] [(⟨0⟩, .parent)])
    |>.place (cell ⟨"C"⟩ [(⟨5⟩, ⟨⟨"A"⟩, ⟨2⟩⟩)] [(⟨5⟩, .parent)])

/-- Both trees of the fork are two-sided and highlighted as walked. -/
theorem twoSided_highlight_fork :
    (fork.TwoSided .black (.blackOf ⟨"A"⟩) ⟨"A"⟩ ∧
      (fork.blackHighlight ⟨"A"⟩).MarksWalk fork .black (.blackOf ⟨"A"⟩) ⟨"A"⟩) ∧
    fork.IsFirstRoot .stacked ⟨"S"⟩ ⟨"A"⟩ ∧ fork.TwoSided .stacked ⟨"S"⟩ ⟨"A"⟩ ∧
      ∃ h, fork.stackedHighlight ⟨"S"⟩ = .ok h ∧ h.MarksWalk fork .stacked ⟨"S"⟩ ⟨"A"⟩ := by
  have hblack : fork.TwoSided .black (.blackOf ⟨"A"⟩) ⟨"A"⟩ := by decide +kernel
  have hroot : fork.IsFirstRoot .stacked ⟨"S"⟩ ⟨"A"⟩ := by decide +kernel
  have hstacked : fork.TwoSided .stacked ⟨"S"⟩ ⟨"A"⟩ := by decide +kernel
  exact ⟨⟨hblack, (twoSided_highlight fork).1 ⟨"A"⟩ hblack⟩, hroot, hstacked,
    (twoSided_highlight fork).2 ⟨"S"⟩ ⟨"A"⟩ hroot hstacked⟩

end Topology

end CellNet
