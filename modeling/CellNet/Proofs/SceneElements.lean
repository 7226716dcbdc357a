import CellNet.Proofs.Refusals
import CellNet.Proofs.Runs
import CellNet.Proofs.SortedLinks

/-!
# A scene depicts its topology

**Theorem (`scene_depicts`).** The circles of a scene are those of the cells, in cell order, each
at the place of its cell. The lines are those of the links listed, in the same order, each from the
centre of the circle of its first end to the centre of the circle of its second. And however a
session goes on, its scene has the cells and links that its view has states for.

The line of a link is left out if one of its ends is not placed. The links listed join placed cells
(`Topology.contains_of_mem_links`), so none is left out (`exists_lineShape?`). Scene and view are
derived from a topology independently of one another, the scene from the list of links and the view
from the map of their names; what no gesture changes is which elements a view has (`View.Of`), and
these are listed in the order of their names on both sides.
-/

namespace CellNet

/-- Where a function gives a result for every element, the results are listed one by one. -/
theorem forall₂_filterMap {α : Type u} {β : Type v} {R : α → β → Prop} {f : α → Option β}
    {l : List α} (h : ∀ a ∈ l, ∃ b, f a = some b ∧ R a b) : List.Forall₂ R l (l.filterMap f) := by
  induction l with
  | nil => exact .nil
  | cons a l ih =>
    obtain ⟨hhead, htail⟩ := List.forall_mem_cons.1 h
    obtain ⟨b, hb, hR⟩ := hhead
    rw [List.filterMap_cons_some hb]
    exact .cons hR (ih htail)

namespace Scene

variable {topo : Topology} {layout : Layout} {node : NodeShape} {id : CellId} {link : Link}

/-! ## Circles -/

theorem map_id_nodes (topo : Topology) (layout : Layout) :
    (ofTopology topo layout).nodes.map NodeShape.id = topo.cells.keys := by
  show (topo.cells.toList.map _).map NodeShape.id = _
  rw [List.map_map, ← Std.ExtTreeMap.map_fst_toList_eq_keys]
  rfl

theorem mem_nodes_iff : node ∈ (ofTopology topo layout).nodes ↔
    ∃ cell, topo.cell? node.id = some cell ∧ nodeShape layout node.id cell = node := by
  show node ∈ topo.cells.toList.map _ ↔ _
  simp only [List.mem_map, Prod.exists, Std.ExtTreeMap.mem_toList_iff_getElem?_eq_some]
  refine ⟨fun h => ?_, fun h => ?_⟩
  · obtain ⟨id, cell, hcell, hnode⟩ := h
    subst hnode
    exact ⟨cell, hcell, rfl⟩
  · obtain ⟨cell, hcell, hnode⟩ := h
    exact ⟨node.id, cell, hcell, hnode⟩

/-- A cell has one circle in a scene, and this is its centre. -/
def HasCenter (scene : Scene) (id : CellId) (point : Point) : Prop :=
  ∃ node, (∀ other, other ∈ scene.nodes ∧ other.id = id ↔ other = node) ∧ node.center = point

theorem hasCenter_of_cell? {cell : Cell} (hcell : topo.cell? id = some cell) :
    (ofTopology topo layout).HasCenter id (layout.position cell.row cell.col) := by
  refine ⟨nodeShape layout id cell, fun other => ⟨fun h => ?_, fun h => ?_⟩, rfl⟩
  · obtain ⟨hother, hid⟩ := h
    obtain ⟨found, hfound, hshape⟩ := mem_nodes_iff.1 hother
    rw [hid, hcell, Option.some.injEq] at hfound
    rw [← hshape, hid, hfound]
  · subst h
    exact ⟨mem_nodes_iff.2 ⟨cell, hcell, rfl⟩, rfl⟩

/-! ## Lines -/

/-- A line is drawn for a link between the centres of the circles of its ends. -/
structure Joins (scene : Scene) (link : Link) (line : LineShape) : Prop where
  id_eq : line.id = link.id
  start : scene.HasCenter link.first.cell line.start
  stop : scene.HasCenter link.second.cell line.stop

theorem exists_lineShape? (layout : Layout) (hlink : link ∈ topo.links) :
    ∃ line, lineShape? topo layout link = some line ∧ (ofTopology topo layout).Joins link line := by
  obtain ⟨hfirst, hsecond⟩ := Topology.contains_of_mem_links hlink
  rw [Topology.contains_iff, Std.ExtTreeMap.mem_iff_isSome_getElem?] at hfirst hsecond
  obtain ⟨a, ha⟩ := Option.isSome_iff_exists.1 hfirst
  obtain ⟨b, hb⟩ := Option.isSome_iff_exists.1 hsecond
  have hline : lineShape? topo layout link = some
      { id := link.id
        start := layout.position a.row a.col
        stop := layout.position b.row b.col
        tooltip := tooltipId link.id.text } := by
    rw [lineShape?, Topology.cell?, Topology.cell?, ha, hb]
  exact ⟨_, hline, rfl, hasCenter_of_cell? ha, hasCenter_of_cell? hb⟩

theorem forall₂_joins (topo : Topology) (layout : Layout) :
    List.Forall₂ (ofTopology topo layout).Joins topo.links (ofTopology topo layout).lines :=
  forall₂_filterMap fun _ => exists_lineShape? layout

theorem map_id_lines (topo : Topology) (layout : Layout) :
    (ofTopology topo layout).lines.map LineShape.id = topo.links.map Link.id := by
  symm
  rw [← List.forall₂_eq_eq_eq, List.forall₂_map_left_iff, List.forall₂_map_right_iff]
  exact (forall₂_joins topo layout).imp fun _ _ h => h.id_eq.symm

/-- A scene shows a topology: the cells in their order, each in its place, and the links in theirs,
each between its ends. -/
structure Depicts (scene : Scene) (topo : Topology) (layout : Layout) : Prop where
  nodes : scene.nodes.map NodeShape.id = topo.cells.keys
  sorted : (scene.nodes.map NodeShape.id).Pairwise fun a b => compare a b = .lt
  inPlace : ∀ node ∈ scene.nodes, ∃ cell, topo.cell? node.id = some cell ∧
    node.center = layout.position cell.row cell.col ∧ node.isBorder = cell.isBorder
  lines : scene.lines.map LineShape.id = topo.links.map Link.id
  joined : List.Forall₂ scene.Joins topo.links scene.lines

theorem depicts_ofTopology (topo : Topology) (layout : Layout) :
    (ofTopology topo layout).Depicts topo layout where
  nodes := map_id_nodes topo layout
  sorted := by
    rw [map_id_nodes]
    exact topo.cells.ordered_keys
  inPlace node hnode := by
    obtain ⟨cell, hcell, hshape⟩ := mem_nodes_iff.1 hnode
    exact ⟨cell, hcell, by rw [← hshape]; exact ⟨rfl, rfl⟩⟩
  lines := map_id_lines topo layout
  joined := forall₂_joins topo layout

end Scene

/-! ## Scene and view -/

namespace View

variable {view : View} {topo : Topology}

theorem Of.keys_nodes (h : view.Of topo) : view.nodes.keys = topo.cells.keys := by
  refine eq_of_sorted view.nodes.ordered_keys topo.cells.ordered_keys fun id => ?_
  rw [Std.ExtTreeMap.mem_keys, Std.ExtTreeMap.mem_keys, h.mem_nodes_iff]

theorem Of.keys_links (h : view.Of topo) : view.links.keys = topo.links.map Link.id := by
  rw [Topology.map_id_links]
  refine eq_of_sorted view.links.ordered_keys topo.linkMap.ordered_keys fun link => ?_
  rw [Std.ExtTreeMap.mem_keys, Std.ExtTreeMap.mem_keys, h.mem_links_iff, Topology.mem_linkMap_iff]

end View

namespace Session

/-- What is drawn is what the view has states for, in the same order. -/
structure ElementsAgree (session : Session) : Prop where
  cells : session.scene.nodes.map NodeShape.id = session.view.nodes.keys
  links : session.scene.lines.map LineShape.id = session.view.links.keys

/-- **A scene depicts its topology**, and however the session goes on, the scene stays as it is and
has the elements of the view. -/
theorem scene_depicts (topo : Topology) (layout : Layout) :
    (Scene.ofTopology topo layout).Depicts topo layout ∧ ∀ gestures,
      let session := (start topo layout).after gestures
      session.scene = .ofTopology topo layout ∧ session.ElementsAgree := by
  refine ⟨Scene.depicts_ofTopology topo layout, fun gestures => ?_⟩
  intro session
  have hsession : session = { start topo layout with
      view := viewAfter topo (.ofTopology topo) gestures } := after_eq _ _
  have hview := of_viewAfter (View.of_ofTopology topo) gestures
  rw [hsession]
  refine ⟨rfl, ?_, ?_⟩
  · exact (Scene.map_id_nodes topo layout).trans hview.keys_nodes.symm
  · exact (Scene.map_id_lines topo layout).trans hview.keys_links.symm

end Session

end CellNet
