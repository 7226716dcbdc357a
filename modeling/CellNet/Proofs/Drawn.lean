import CellNet.Proofs.Links
import CellNet.Proofs.TwoSided

/-!
# Does a highlight name only what is drawn?

**Theorem (`highlight_isDrawn_iff`).** The cells a highlight names are placed. The links a stacked
highlight names are drawn. The links a black highlight names are drawn as well, but for those
behind parent ports that lead to unplaced cells: all of them are drawn exactly when each of these
happens to share its name with a link that is.

Three filters have to agree. A link is drawn when the cell behind the port is placed; a stacked
highlight marks the link behind a parent port when that cell is a member, hence placed; a black
highlight marks it whenever the port is connected.

**Counterexample (`strayParent_names_undrawn`).** A parent port of a marked cell that leads to an
unplaced cell puts a link into the black highlight that is not drawn.
-/

namespace CellNet

namespace Highlight.MarksClosure

variable {h : Highlight} {topo : Topology} {kind : TreeKind} {tree : TreeId} {start id : CellId}
  {keep : CellId → Prop}

theorem contains_of_mem_nodes (hmarks : h.MarksClosure topo kind tree start keep)
    (hid : id ∈ h.nodes) : topo.contains id :=
  Topology.contains_iff.2 (Topology.mem_cells_of_carries ((hmarks.nodes id).1 hid).carries)

/-- Of the links that are kept, only those toward unplaced cells may be missing. -/
theorem isDrawn_iff (hmarks : h.MarksClosure topo kind tree start keep) :
    (∀ name ∈ h.links, topo.IsDrawn name) ↔
      ∀ id ∈ h.nodes, ∀ port far, topo.HasRole kind tree id port .parent →
        topo.neighbor? id port = some far → keep far.cell → ¬ topo.contains far.cell →
          topo.IsDrawn (Topology.linkAt id port far).id := by
  have hthrough : ∀ {id port far}, topo.neighbor? id port = some far →
      topo.linkThrough? id port = some (Topology.linkAt id port far).id := by
    intro id port far hfar
    rw [Topology.linkThrough?_eq, hfar, Option.map_some]
  constructor
  · intro hdrawn id hid port far hrole hfar hkeep _
    exact hdrawn _ <| (hmarks.links _).2 ⟨id, hid, port, far, hrole, hfar, hkeep, hthrough hfar⟩
  · intro hunplaced name hname
    obtain ⟨id, hid, port, far, hrole, hfar, hkeep, hlink⟩ := (hmarks.links name).1 hname
    rw [hthrough hfar, Option.some.injEq] at hlink
    subst hlink
    by_cases hplaced : topo.contains far.cell
    · exact Topology.isDrawn_iff.2 ⟨id, port, far, hfar, hplaced, rfl⟩
    · exact hunplaced id hid port far hrole hfar hkeep hplaced

end Highlight.MarksClosure

namespace Topology

/-- **A highlight names what is drawn**, but for links of a black tree behind parent ports that
lead to unplaced cells. -/
theorem highlight_isDrawn_iff (topo : Topology) :
    (∀ root,
      (∀ id ∈ (topo.blackHighlight root).nodes, topo.contains id) ∧
      ((∀ name ∈ (topo.blackHighlight root).links, topo.IsDrawn name) ↔
        ∀ id ∈ (topo.blackHighlight root).nodes, ∀ port far,
          topo.HasRole .black (.blackOf root) id port .parent →
            topo.neighbor? id port = some far → ¬ topo.contains far.cell →
              topo.IsDrawn (linkAt id port far).id)) ∧
    ∀ tree h, topo.stackedHighlight tree = .ok h →
      (∀ id ∈ h.nodes, topo.contains id) ∧ ∀ name ∈ h.links, topo.IsDrawn name := by
  constructor
  · intro root
    have hmarks := topo.marksClosure_highlightFrom .black (.blackOf root) root fun _ => true
    refine ⟨fun id hid => hmarks.contains_of_mem_nodes hid, ?_⟩
    simpa [blackHighlight] using hmarks.isDrawn_iff
  · intro tree h hok
    obtain ⟨start, -, hmarks⟩ := exists_marksClosure_of_eq_ok hok
    refine ⟨fun id hid => hmarks.contains_of_mem_nodes hid, hmarks.isDrawn_iff.2 ?_⟩
    -- The far side of a link that is kept is a member, and members are placed.
    intro id _ port far _ _ hmember hunplaced
    exact absurd (contains_iff.2 (mem_cells_of_carries hmember)) hunplaced

/-- The fork's parent ports all lead to placed cells, so both of its highlights are drawn. -/
theorem highlight_isDrawn_fork :
    (∀ name ∈ (fork.blackHighlight ⟨"A"⟩).links, fork.IsDrawn name) ∧
      ∃ h, fork.stackedHighlight ⟨"S"⟩ = .ok h ∧ (∀ id ∈ h.nodes, fork.contains id) ∧
        ∀ name ∈ h.links, fork.IsDrawn name := by
  have hplaced : ∀ id ∈ fork.members .black (.blackOf ⟨"A"⟩),
      ∀ port ∈ fork.rolePorts .black (.blackOf ⟨"A"⟩) id .parent,
        ∀ far ∈ fork.neighbor? id port, fork.contains far.cell := by decide +kernel
  have hroot : fork.IsFirstRoot .stacked ⟨"S"⟩ ⟨"A"⟩ := by decide +kernel
  have hok := stackedHighlight_of_isFirstRoot hroot
  refine ⟨((highlight_isDrawn_iff fork).1 ⟨"A"⟩).2.2 ?_, _, hok,
    (highlight_isDrawn_iff fork).2 _ _ hok⟩
  intro id _ port far hrole hfar hunplaced
  have hmember := mem_members.2 hrole.carries
  exact absurd (hplaced id hmember port (mem_rolePorts.2 hrole) far hfar) hunplaced

/-- A black tree of `A` with a child `B`, which has a second parent port toward `X`; there is no
cell `X`. -/
def strayParent : Topology :=
  empty
    |>.place (.inTree ⟨"A"⟩ .black (.blackOf ⟨"A"⟩) [(⟨0⟩, ⟨⟨"B"⟩, ⟨0⟩⟩)] [(⟨0⟩, .child)])
    |>.place (.inTree ⟨"B"⟩ .black (.blackOf ⟨"A"⟩)
      [(⟨0⟩, ⟨⟨"A"⟩, ⟨0⟩⟩), (⟨1⟩, ⟨⟨"X"⟩, ⟨0⟩⟩)] [(⟨0⟩, .parent), (⟨1⟩, .parent)])

/-- The black highlight of `A` names the link from `B` to `X`, which is not drawn. -/
theorem strayParent_names_undrawn :
    ¬ ∀ name ∈ (strayParent.blackHighlight ⟨"A"⟩).links, strayParent.IsDrawn name := by
  intro hdrawn
  have hmarks := strayParent.marksClosure_highlightFrom .black (.blackOf ⟨"A"⟩) ⟨"A"⟩ fun _ => true
  have hstart : strayParent.carries .black (.blackOf ⟨"A"⟩) ⟨"A"⟩ := by decide +kernel
  have hchild : strayParent.carries .black (.blackOf ⟨"A"⟩) ⟨"B"⟩ := by decide +kernel
  have hdown : strayParent.Descends .black (.blackOf ⟨"A"⟩) ⟨"A"⟩ ⟨"B"⟩ :=
    ⟨hstart, hchild, mem_childCells.1 (by decide +kernel)⟩
  have hmarked : (⟨"B"⟩ : CellId) ∈ (strayParent.blackHighlight ⟨"A"⟩).nodes :=
    (hmarks.nodes ⟨"B"⟩).2 ⟨hstart, .single hdown⟩
  have hrole : strayParent.HasRole .black (.blackOf ⟨"A"⟩) ⟨"B"⟩ ⟨1⟩ .parent :=
    mem_rolePorts.1 (by decide +kernel)
  have hfar : strayParent.neighbor? ⟨"B"⟩ ⟨1⟩ = some ⟨⟨"X"⟩, ⟨0⟩⟩ := by decide +kernel
  have hname := hmarks.isDrawn_iff.1 hdrawn ⟨"B"⟩ hmarked ⟨1⟩ ⟨⟨"X"⟩, ⟨0⟩⟩ hrole hfar rfl
    (by decide +kernel)
  exact absurd hname (by decide +kernel)

end Topology

end CellNet
