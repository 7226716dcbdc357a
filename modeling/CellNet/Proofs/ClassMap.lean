import CellNet.Proofs.NameOrder
import CellNet.Proofs.Restyling
import CellNet.Proofs.SceneElements

/-!
# Do the class map and the picture agree?

Two things say how elements look. A drawing writes a class into each line and each circle; a class
map lists classes by name, for the script of a page that is already shown. Lines take their classes
from the links of the view and circles theirs from its cells, but the class map knows only names.

**Theorem (`classMap_agrees_iff`).** After any run on any topology the class map has an entry for
each cell and each link, and lines and circles are drawn as it says, exactly when no cell bears the
name of a link. Every link has its entry in any case (`getElem?_classMap_link`); a cell loses its
own to the link of its name.

A page that was served before and is restyled looks like a new one exactly when

* no name of a cell or link is that of an element in front of the lines, such as `status` or the
  button of a stacked tree: the script would find that element first; and
* each cell that bears the name of a link has kept its class: the script finds the line first, and
  never gets to the circle.

**Counterexample (`namesake_not_classesAgree`).** Of three cells, two are connected and the third
is called like their link. The class map has three entries, not four, and the third cell, drawn as a
cell, is listed as a link.
-/

namespace CellNet

open Markup

/-! ## The entries -/

/-- Where the values of a map are entered under names of their keys, what a name stands for is the
value for its key, or else what it stood for before. -/
theorem getElem?_insertMany_named {κ σ : Type} [Ord κ] [Std.TransOrd κ] [Std.LawfulEqOrd κ]
    (name : κ → String) (key : String → κ) (hkey : ∀ id, key (name id) = id)
    (hname : ∀ text, name (key text) = text) (classes : Std.ExtTreeMap String String)
    (map : Std.ExtTreeMap κ σ) (cssClass : σ → String) (text : String) :
    (classes.insertMany (map.toList.map fun entry => (name entry.1, cssClass entry.2)))[text]? =
      ((map[key text]?).map cssClass).or classes[text]? := by
  cases hstate : map[key text]? with
  | none =>
    have hnew : ((map.toList.map fun entry => (name entry.1, cssClass entry.2)).map
        Prod.fst).contains text = false := by
      rw [Bool.eq_false_iff]
      intro hmem
      rw [List.contains_iff_mem, List.map_map] at hmem
      obtain ⟨⟨id, state⟩, hentry, rfl⟩ := List.mem_map.1 hmem
      rw [Std.ExtTreeMap.mem_toList_iff_getElem?_eq_some] at hentry
      rw [Function.comp_apply, hkey, hentry] at hstate
      simp at hstate
    rw [Std.ExtTreeMap.getElem?_insertMany_list_of_contains_eq_false hnew]
    simp
  | some state =>
    have hmem : (text, cssClass state) ∈
        map.toList.map fun entry => (name entry.1, cssClass entry.2) := by
      rw [List.mem_map]
      refine ⟨(key text, state), Std.ExtTreeMap.mem_toList_iff_getElem?_eq_some.2 hstate, ?_⟩
      rw [hname]
    have hdistinct : (map.toList.map fun entry => (name entry.1, cssClass entry.2)).Pairwise
        fun a b => ¬ compare a.1 b.1 = .eq := by
      rw [List.pairwise_map]
      apply Std.ExtTreeMap.distinct_keys_toList.imp
      intro a b hab heq
      have hkeys := congrArg key (Std.LawfulEqOrd.eq_of_compare heq)
      rw [hkey, hkey] at hkeys
      exact hab (Std.LawfulEqOrd.compare_eq_iff_eq.2 hkeys)
    rw [Std.ExtTreeMap.getElem?_insertMany_list_of_mem (k := text) (by simp) hdistinct hmem]
    simp

namespace View

variable {view : View} {topo : Topology}

theorem getElem?_classMap (view : View) (name : String) :
    view.classMap[name]? =
      ((view.links[(⟨name⟩ : LinkId)]?).map LinkState.cssClass).or
        ((view.nodes[(⟨name⟩ : CellId)]?).map NodeMark.cssClass) := by
  have hnodes := getElem?_insertMany_named CellId.name CellId.mk
    (fun _ => rfl) (fun _ => rfl) ∅ view.nodes NodeMark.cssClass name
  have hlinks := getElem?_insertMany_named LinkId.text LinkId.mk
    (fun _ => rfl) (fun _ => rfl) (.ofList (view.nodes.toList.map fun entry =>
      (entry.1.name, entry.2.cssClass))) view.links LinkState.cssClass name
  rw [Std.ExtTreeMap.ofList_eq_insertMany_empty, hnodes] at hlinks
  rw [classMap, Std.ExtTreeMap.ofList_eq_insertMany_empty, Std.ExtTreeMap.insertMany_append]
  refine hlinks.trans ?_
  simp

/-- The entries of a class map are named as the cells and links are. -/
theorem Of.mem_classMap_iff (hview : view.Of topo) {name : String} :
    name ∈ view.classMap ↔ topo.IsDrawn ⟨name⟩ ∨ ⟨name⟩ ∈ topo.cells := by
  rw [← hview.mem_links_iff, ← hview.mem_nodes_iff, Std.ExtTreeMap.mem_iff_isSome_getElem?,
    Std.ExtTreeMap.mem_iff_isSome_getElem?, Std.ExtTreeMap.mem_iff_isSome_getElem?,
    getElem?_classMap, Option.isSome_or, Option.isSome_map, Option.isSome_map, Bool.or_eq_true]

theorem Of.getElem?_classMap_link (hview : view.Of topo) {link : LinkId}
    (hdrawn : topo.IsDrawn link) : view.classMap[link.text]? = some (view.linkClass link) := by
  rw [← hview.mem_links_iff, Std.ExtTreeMap.mem_iff_isSome_getElem?] at hdrawn
  obtain ⟨state, hstate⟩ := Option.isSome_iff_exists.1 hdrawn
  rw [getElem?_classMap, linkClass, hstate]
  rfl

theorem Of.getElem?_classMap_node (hview : view.Of topo) {id : CellId} (hcell : id ∈ topo.cells)
    (hdrawn : ¬ topo.IsDrawn ⟨id.name⟩) :
    view.classMap[id.name]? = some (view.nodeClass id) := by
  rw [← hview.mem_links_iff, Std.ExtTreeMap.mem_iff_isSome_getElem?, Option.not_isSome_iff_eq_none]
    at hdrawn
  rw [← hview.mem_nodes_iff, Std.ExtTreeMap.mem_iff_isSome_getElem?] at hcell
  obtain ⟨mark, hmark⟩ := Option.isSome_iff_exists.1 hcell
  rw [getElem?_classMap, nodeClass, hdrawn, hmark]
  rfl

theorem head?_nodeClass (view : View) (id : CellId) :
    (view.nodeClass id).toList.head? = some 'n' := by
  rw [nodeClass]
  split
  · rename_i mark _
    obtain ⟨state, isBorder⟩ := mark
    cases state <;> cases isBorder <;> simp [NodeMark.cssClass, NodeState.cssClass]
  · simp

theorem head?_linkClass (view : View) (link : LinkId) :
    (view.linkClass link).toList.head? = some 'l' := by
  rw [linkClass]
  split
  · rename_i state _
    cases state <;> simp [LinkState.cssClass]
  · simp

theorem nodeClass_ne_linkClass (view : View) (id : CellId) (link : LinkId) :
    view.nodeClass id ≠ view.linkClass link := by
  intro heq
  have hhead := view.head?_nodeClass id
  rw [heq, view.head?_linkClass link] at hhead
  simp at hhead

/-- A circle is drawn as the class map says, unless a link bears the cell's name. -/
theorem Of.nodeClass_eq_iff (hview : view.Of topo) {id : CellId} (hcell : id ∈ topo.cells) :
    some (view.nodeClass id) = view.classMap[id.name]? ↔ ¬ topo.IsDrawn ⟨id.name⟩ := by
  constructor
  · intro heq hdrawn
    rw [hview.getElem?_classMap_link hdrawn, Option.some.injEq] at heq
    exact nodeClass_ne_linkClass view id _ heq
  · intro hdrawn
    exact (hview.getElem?_classMap_node hcell hdrawn).symm

theorem mem_map_name_iff {name : String} :
    name ∈ topo.cells.keys.map CellId.name ↔ ⟨name⟩ ∈ topo.cells := by
  rw [List.mem_map]
  constructor
  · rintro ⟨id, hid, rfl⟩
    exact Std.ExtTreeMap.mem_keys.1 hid
  · intro hcell
    exact ⟨⟨name⟩, Std.ExtTreeMap.mem_keys.2 hcell, rfl⟩

theorem nodup_map_text (topo : Topology) :
    ((topo.links.map Link.id).map LinkId.text).Nodup := by
  apply topo.nodup_map_id_links.map
  intro a b hab
  cases a; cases b
  exact congrArg LinkId.mk hab

theorem mem_map_text_iff {name : String} :
    name ∈ (topo.links.map Link.id).map LinkId.text ↔ topo.IsDrawn ⟨name⟩ := by
  rw [List.map_map, List.mem_map]
  constructor
  · rintro ⟨link, hlink, rfl⟩
    exact ⟨link, hlink, rfl⟩
  · rintro ⟨link, hlink, hid⟩
    refine ⟨link, hlink, ?_⟩
    rw [Function.comp_apply, hid]

/-- The cells that bear the name of a link share its entry. -/
theorem Of.size_classMap (hview : view.Of topo) :
    view.classMap.size + (topo.cells.keys.filter fun id => topo.IsDrawn ⟨id.name⟩).length =
      topo.size + topo.links.length := by
  have hnames := CellId.nodup_map_name_keys topo.cells
  have hshared : ((topo.cells.keys.filter fun id => topo.IsDrawn ⟨id.name⟩).map
      CellId.name).Nodup :=
    hnames.sublist (List.filter_sublist.map CellId.name)
  have hunion : view.classMap.keys.toFinset = (topo.cells.keys.map CellId.name).toFinset ∪
      ((topo.links.map Link.id).map LinkId.text).toFinset := by
    ext name
    rw [List.mem_toFinset, Std.ExtTreeMap.mem_keys, hview.mem_classMap_iff, Finset.mem_union,
      List.mem_toFinset, List.mem_toFinset, mem_map_name_iff, mem_map_text_iff, or_comm]
  have hinter : ((topo.cells.keys.filter fun id => topo.IsDrawn ⟨id.name⟩).map
      CellId.name).toFinset = (topo.cells.keys.map CellId.name).toFinset ∩
        ((topo.links.map Link.id).map LinkId.text).toFinset := by
    ext name
    rw [List.mem_toFinset, Finset.mem_inter, List.mem_toFinset, List.mem_toFinset,
      mem_map_name_iff, mem_map_text_iff, List.mem_map]
    constructor
    · rintro ⟨id, hid, rfl⟩
      simpa using hid
    · intro hboth
      exact ⟨⟨name⟩, by simpa using hboth, rfl⟩
  have hcard := Finset.card_union_add_card_inter (topo.cells.keys.map CellId.name).toFinset
    ((topo.links.map Link.id).map LinkId.text).toFinset
  rw [← hunion, ← hinter, List.toFinset_card_of_nodup view.classMap.nodup_keys,
    List.toFinset_card_of_nodup hshared, List.toFinset_card_of_nodup hnames,
    List.toFinset_card_of_nodup (nodup_map_text topo)] at hcard
  simpa [Topology.size] using hcard

end View

/-! ## Lines and circles -/

namespace Drawing

theorem mem_elementTags {tag first : Tag} (h : tag ∈ elementTags first) :
    tag = first ∨ tag.name = "title" ∨ tag.name = "/title" ∨ tag.name = "/" ++ first.name := by
  simp only [elementTags, List.mem_cons, List.not_mem_nil, or_false] at h
  rcases h with rfl | rfl | rfl | rfl
  · exact Or.inl rfl
  · exact Or.inr (Or.inl rfl)
  · exact Or.inr (Or.inr (Or.inl rfl))
  · exact Or.inr (Or.inr (Or.inr rfl))

/-- The tags of a drawing that are named like lines or circles are lines or circles. -/
theorem mem_svgTags {scene : Scene} {view : View} {tag : Tag} (h : tag ∈ svgTags scene view) :
    (∃ shape ∈ scene.lines, tag = lineTag view shape) ∨
      (∃ shape ∈ scene.nodes, tag = circleTag view scene.radius shape) ∨
        tag.name ≠ "line" ∧ tag.name ≠ "circle" := by
  unfold svgTags at h
  rw [List.mem_append, List.mem_append, List.mem_append, List.mem_flatMap, List.mem_flatMap] at h
  rcases h with ((hstart | hline) | hcircle) | hend
  · have hnames : ∀ first ∈ [openingTag scene] ++ definitionTags,
        first.name ≠ "line" ∧ first.name ≠ "circle" := by
      simp [openingTag, definitionTags]
    exact Or.inr (Or.inr (hnames tag hstart))
  · obtain ⟨shape, hshape, htag⟩ := hline
    rcases mem_elementTags htag with rfl | hname | hname | hname
    · exact Or.inl ⟨shape, hshape, rfl⟩
    all_goals simp [hname, lineTag]
  · obtain ⟨shape, hshape, htag⟩ := hcircle
    rcases mem_elementTags htag with rfl | hname | hname | hname
    · exact Or.inr (Or.inl ⟨shape, hshape, rfl⟩)
    all_goals simp [hname, circleTag]
  · rw [List.mem_singleton] at hend
    simp [hend]

end Drawing

/-! ## Restyling a page by a class map -/

namespace Page

variable {topo : Topology} {before after : View}

theorem map_fst_lineElements (topo : Topology) (layout : Layout) (view : View) :
    (Drawing.lineElements (.ofTopology topo layout) view).map Prod.fst =
      (topo.links.map Link.id).map LinkId.text := by
  rw [← Scene.map_id_lines topo layout, Drawing.lineElements, List.map_map, List.map_map]
  rfl

theorem map_fst_circleElements (topo : Topology) (layout : Layout) (view : View) :
    (Drawing.circleElements (.ofTopology topo layout) view).map Prod.fst =
      topo.cells.keys.map CellId.name := by
  rw [← Scene.map_id_nodes topo layout, Drawing.circleElements, List.map_map, List.map_map]
  rfl

theorem head?_of_getElem?_classMap (hafter : after.Of topo) {name c : String}
    (hc : after.classMap[name]? = some c) :
    c.toList.head? = some 'n' ∨ c.toList.head? = some 'l' := by
  have hmem : name ∈ after.classMap := by
    rw [Std.ExtTreeMap.mem_iff_isSome_getElem?, hc]
    rfl
  by_cases hdrawn : topo.IsDrawn ⟨name⟩
  · rw [hafter.getElem?_classMap_link hdrawn, Option.some.injEq] at hc
    rw [← hc]
    exact Or.inr (after.head?_linkClass _)
  · have hcell := (hafter.mem_classMap_iff.1 hmem).resolve_left hdrawn
    rw [hafter.getElem?_classMap_node hcell hdrawn, Option.some.injEq] at hc
    rw [← hc]
    exact Or.inl (after.head?_nodeClass _)

theorem looks_frontElements {scene : Scene} {interactive : Bool} {item : String × Option String}
    (h : item ∈ frontElements scene interactive) :
    item.2 = none ∨ item.2 = some "stackedtreebutton" := by
  have hlooks : ∀ item ∈ frontElements scene interactive,
      item.2 = none ∨ item.2 = some "stackedtreebutton" := by
    cases interactive <;> simp [frontElements, or_imp, forall_and]
  exact hlooks item h

/-- In front of the lines, elements keep their looks exactly when none bears the name of a cell or
link. -/
theorem styled_frontElements_iff (hafter : after.Of topo) (scene : Scene) (interactive : Bool) :
    styled (fun name => after.classMap[name]?) [] (frontElements scene interactive) =
        frontElements scene interactive ↔
      ∀ item ∈ frontElements scene interactive, item.1 ∉ after.classMap := by
  rw [styled_eq_self_iff]
  · simp
  · intro item hitem c hc heq
    have hclass := looks_frontElements hitem
    have hhead := head?_of_getElem?_classMap hafter hc
    rw [heq] at hclass
    simp only [reduceCtorEq, Option.some.injEq, false_or] at hclass
    rw [hclass] at hhead
    simp at hhead

/-- Lines of which no name has come before look as they are drawn anew. -/
theorem styled_lineElements (hafter : after.Of topo) (layout : Layout) {seen : List String}
    (hseen : ∀ name ∈ after.classMap, name ∉ seen) :
    styled (fun name => after.classMap[name]?) seen
        (Drawing.lineElements (.ofTopology topo layout) before) =
      Drawing.lineElements (.ofTopology topo layout) after := by
  have hnames : ((Drawing.lineElements (.ofTopology topo layout) before).map Prod.fst).Nodup := by
    rw [map_fst_lineElements]
    exact View.nodup_map_text topo
  rw [styled_of_nodup hnames, Drawing.lineElements, Drawing.lineElements, List.map_map,
    List.map_inj_left]
  intro shape hshape
  have hdrawn : topo.IsDrawn shape.id := by
    have hid := List.mem_map_of_mem (f := LineShape.id) hshape
    rw [Scene.map_id_lines] at hid
    exact List.mem_map.1 hid
  have hmem : shape.id.text ∈ after.classMap := hafter.mem_classMap_iff.2 (Or.inl hdrawn)
  simp [hseen _ hmem, hafter.getElem?_classMap_link hdrawn]

/-- Circles behind all lines look as they are drawn anew, but for those that bear the name of a
line: they keep the class they had. -/
theorem styled_circleElements_iff (hafter : after.Of topo) (layout : Layout) {seen : List String}
    (hseen : ∀ name ∈ after.classMap, name ∈ seen ↔ topo.IsDrawn ⟨name⟩) :
    styled (fun name => after.classMap[name]?) seen
          (Drawing.circleElements (.ofTopology topo layout) before) =
        Drawing.circleElements (.ofTopology topo layout) after ↔
      ∀ id ∈ topo.cells, topo.IsDrawn ⟨id.name⟩ → before.nodeClass id = after.nodeClass id := by
  have hnames : ((Drawing.circleElements (.ofTopology topo layout) before).map Prod.fst).Nodup := by
    rw [map_fst_circleElements]
    exact CellId.nodup_map_name_keys topo.cells
  have hcells : (∀ shape ∈ (Scene.ofTopology topo layout).nodes,
      topo.IsDrawn ⟨shape.id.name⟩ → before.nodeClass shape.id = after.nodeClass shape.id) ↔
        ∀ id ∈ topo.cells, topo.IsDrawn ⟨id.name⟩ → before.nodeClass id = after.nodeClass id := by
    simp only [← Std.ExtTreeMap.mem_keys, ← Scene.map_id_nodes topo layout, List.forall_mem_map]
  rw [styled_of_nodup hnames, Drawing.circleElements, Drawing.circleElements, List.map_map,
    List.map_inj_left, ← hcells]
  apply forall₂_congr
  intro shape hshape
  have hcell : shape.id ∈ topo.cells := by
    rw [← Std.ExtTreeMap.mem_keys, ← Scene.map_id_nodes topo layout]
    exact List.mem_map_of_mem hshape
  have hmem : shape.id.name ∈ after.classMap := hafter.mem_classMap_iff.2 (Or.inr hcell)
  by_cases hdrawn : topo.IsDrawn ⟨shape.id.name⟩
  · simp [(hseen _ hmem).2 hdrawn, hdrawn]
  · have hnot : shape.id.name ∉ seen := fun h => hdrawn ((hseen _ hmem).1 h)
    simp [hnot, hdrawn, hafter.getElem?_classMap_node hcell hdrawn]

/-- Tooltips behind all elements of the drawing keep their looks. -/
theorem styled_tooltipElements (hafter : after.Of topo) (scene : Scene) {seen : List String}
    (hseen : ∀ name ∈ after.classMap, name ∈ seen) :
    styled (fun name => after.classMap[name]?) seen (tooltipElements scene) =
      tooltipElements scene := by
  rw [styled_eq_self_iff]
  · intro item _
    by_cases hmem : item.1 ∈ after.classMap
    · exact Or.inl (hseen _ hmem)
    · rw [Std.ExtTreeMap.mem_iff_isSome_getElem?, Option.not_isSome_iff_eq_none] at hmem
      exact Or.inr hmem
  · intro item hitem c hc heq
    obtain ⟨tip, -, rfl⟩ := List.mem_map.1 hitem
    have hhead := head?_of_getElem?_classMap hafter hc
    rw [← Option.some.inj heq] at hhead
    simp at hhead

/-- A page restyled by a later class map looks like the later page exactly when no element in front
of the lines bears the name of a cell or link, and cells that bear the name of a link have not
changed their class. -/
theorem restyle_html_iff (hafter : after.Of topo) (layout : Layout) (options : Options) :
    restyle after.classMap.toList
        (elements (tags (html (.ofTopology topo layout) before options))) =
      elements (tags (html (.ofTopology topo layout) after options)) ↔
    (∀ item ∈ frontElements (.ofTopology topo layout) options.interactive,
        item.1 ∉ after.classMap) ∧
      ∀ id ∈ topo.cells, topo.IsDrawn ⟨id.name⟩ → before.nodeClass id = after.nodeClass id := by
  rw [restyle_toList, elements_html, elements_html, styled_append, styled_append, styled_append,
    List.append_eq_append_iff_of_size_eq_left (by simp [length_styled, Drawing.lineElements,
      Drawing.circleElements]),
    List.append_eq_append_iff_of_size_eq_left (by simp [length_styled, Drawing.lineElements]),
    List.append_eq_append_iff_of_size_eq_left length_styled, styled_frontElements_iff hafter]
  simp only [List.map_append, map_fst_lineElements, map_fst_circleElements, List.append_nil,
    List.reverse_append]
  set front := (frontElements (.ofTopology topo layout) options.interactive).map Prod.fst
  have hfront : (∀ item ∈ frontElements (.ofTopology topo layout) options.interactive,
      item.1 ∉ after.classMap) → ∀ name ∈ after.classMap, name ∉ front.reverse := by
    intro hclear name hname hmem
    obtain ⟨item, hitem, rfl⟩ := List.mem_map.1 (List.mem_reverse.1 hmem)
    exact hclear item hitem hname
  have hlines : ∀ {name}, name ∈ ((topo.links.map Link.id).map LinkId.text).reverse ↔
      topo.IsDrawn ⟨name⟩ := by
    intro name
    rw [List.mem_reverse, View.mem_map_text_iff]
  have hcells : ∀ {name}, name ∈ (topo.cells.keys.map CellId.name).reverse ↔
      ⟨name⟩ ∈ topo.cells := by
    intro name
    rw [List.mem_reverse, View.mem_map_name_iff]
  have hbehind : (∀ name ∈ after.classMap, name ∉ front.reverse) → ∀ name ∈ after.classMap,
      name ∈ ((topo.links.map Link.id).map LinkId.text).reverse ++ front.reverse ↔
        topo.IsDrawn ⟨name⟩ := by
    intro hclear name hname
    rw [List.mem_append, hlines]
    exact or_iff_left (hclear name hname)
  have hall : ∀ name ∈ after.classMap, name ∈ (topo.cells.keys.map CellId.name).reverse ++
      (((topo.links.map Link.id).map LinkId.text).reverse ++ front.reverse) := by
    intro name hname
    rw [List.mem_append, List.mem_append, hlines, hcells]
    have hnames := hafter.mem_classMap_iff.1 hname
    tauto
  rw [and_iff_left (styled_tooltipElements hafter _ hall)]
  constructor
  · rintro ⟨⟨hclear, -⟩, hcircles⟩
    exact ⟨hclear, (styled_circleElements_iff hafter layout (hbehind (hfront hclear))).1 hcircles⟩
  · rintro ⟨hclear, hkept⟩
    exact ⟨⟨hclear, styled_lineElements hafter layout (hfront hclear)⟩,
      (styled_circleElements_iff hafter layout (hbehind (hfront hclear))).2 hkept⟩

end Page

/-! ## The picture and the class map -/

namespace View

variable {view : View} {topo : Topology} {layout : Layout} {tag : Tag}

theorem Of.class_line (hview : view.Of topo)
    (htag : tag ∈ tags (Drawing.svg (.ofTopology topo layout) view)) (hname : tag.name = "line") :
    ∃ link, topo.IsDrawn link ∧ tag.attribute? "id" = some link.text ∧
      tag.attribute? "class" = view.classMap[link.text]? := by
  rw [(Drawing.readsAs_svg _ _).tags_eq] at htag
  rcases Drawing.mem_svgTags htag with ⟨shape, hshape, rfl⟩ | ⟨shape, -, rfl⟩ | hother
  · have hid := List.mem_map_of_mem (f := LineShape.id) hshape
    rw [Scene.map_id_lines] at hid
    have hdrawn : topo.IsDrawn shape.id := List.mem_map.1 hid
    refine ⟨shape.id, hdrawn, rfl, ?_⟩
    rw [hview.getElem?_classMap_link hdrawn]
    rfl
  · simp [Drawing.circleTag] at hname
  · exact absurd hname hother.1

theorem Of.class_circle_iff (hview : view.Of topo)
    (htag : tag ∈ tags (Drawing.svg (.ofTopology topo layout) view)) (hname : tag.name = "circle") :
    ∃ id ∈ topo.cells, tag.attribute? "id" = some id.name ∧
      (tag.attribute? "class" = view.classMap[id.name]? ↔ ¬ topo.IsDrawn ⟨id.name⟩) := by
  rw [(Drawing.readsAs_svg _ _).tags_eq] at htag
  rcases Drawing.mem_svgTags htag with ⟨shape, -, rfl⟩ | ⟨shape, hshape, rfl⟩ | hother
  · simp [Drawing.lineTag] at hname
  · have hid := List.mem_map_of_mem (f := NodeShape.id) hshape
    rw [Scene.map_id_nodes, Std.ExtTreeMap.mem_keys] at hid
    exact ⟨shape.id, hid, rfl, hview.nodeClass_eq_iff hid⟩
  · exact absurd hname hother.2

end View

namespace Session

/-- The class map has an entry for each cell and each link, and lines and circles are drawn as it
says. -/
structure ClassesAgree (session : Session) : Prop where
  size : session.view.classMap.size = session.topology.size + session.topology.links.length
  drawn : ∀ tag ∈ tags (Drawing.svg session.scene session.view),
    tag.name = "line" ∨ tag.name = "circle" → ∃ id, tag.attribute? "id" = some id ∧
      tag.attribute? "class" = session.view.classMap[id]?

theorem classesAgree_iff {topo : Topology} {layout : Layout} {view : View} (hview : view.Of topo) :
    ClassesAgree ⟨topo, .ofTopology topo layout, view⟩ ↔
      ∀ id ∈ topo.cells, ¬ topo.IsDrawn ⟨id.name⟩ := by
  have hsize := hview.size_classMap
  have hshared : (topo.cells.keys.filter fun id => topo.IsDrawn ⟨id.name⟩).length = 0 ↔
      ∀ id ∈ topo.cells, ¬ topo.IsDrawn ⟨id.name⟩ := by
    simp [List.filter_eq_nil_iff]
  rw [← hshared]
  constructor
  · intro h
    have hagree := h.size
    simp only at hagree
    omega
  · intro hnone
    refine ⟨?_, ?_⟩
    · show view.classMap.size = topo.size + topo.links.length
      omega
    · intro tag htag hname
      rcases hname with hline | hcircle
      · obtain ⟨link, -, hid, hclass⟩ := hview.class_line htag hline
        exact ⟨link.text, hid, hclass⟩
      · obtain ⟨id, hcell, hid, hclass⟩ := hview.class_circle_iff htag hcircle
        exact ⟨id.name, hid, hclass.2 (hshared.1 hnone id hcell)⟩

/-- **Where the class map and the picture agree**: exactly when no cell bears the name of a link.
In any case there is an entry for each name, lines are drawn as it says, and circles are unless a
link bears their name. A page that is restyled looks like a new one when no name is that of a part
of the page, and cells that share a name with a link have kept their class. -/
theorem classMap_agrees_iff (topo : Topology) (layout : Layout) (gestures later : List Gesture)
    (options : Page.Options) :
    let before := (start topo layout).after gestures
    let after := before.after later
    (after.ClassesAgree ↔ ∀ id ∈ topo.cells, ¬ topo.IsDrawn ⟨id.name⟩) ∧
    (∀ name, name ∈ after.view.classMap ↔ topo.IsDrawn ⟨name⟩ ∨ ⟨name⟩ ∈ topo.cells) ∧
    after.view.classMap.size + (topo.cells.keys.filter fun id => topo.IsDrawn ⟨id.name⟩).length =
      topo.size + topo.links.length ∧
    (∀ tag ∈ tags (Drawing.svg after.scene after.view), tag.name = "line" →
      ∃ link, topo.IsDrawn link ∧ tag.attribute? "id" = some link.text ∧
        tag.attribute? "class" = after.view.classMap[link.text]?) ∧
    (∀ tag ∈ tags (Drawing.svg after.scene after.view), tag.name = "circle" →
      ∃ id ∈ topo.cells, tag.attribute? "id" = some id.name ∧
        (tag.attribute? "class" = after.view.classMap[id.name]? ↔
          ¬ topo.IsDrawn ⟨id.name⟩)) ∧
    (restyle after.view.classMap.toList
          (elements (tags (Page.html before.scene before.view options))) =
        elements (tags (Page.html after.scene after.view options)) ↔
      (∀ item ∈ Page.frontElements after.scene options.interactive,
          item.1 ∉ after.view.classMap) ∧
        ∀ id ∈ topo.cells, topo.IsDrawn ⟨id.name⟩ →
          before.view.nodeClass id = after.view.nodeClass id) := by
  intro before after
  have hbefore : before = ⟨topo, .ofTopology topo layout,
      viewAfter topo (.ofTopology topo) gestures⟩ := after_eq _ _
  have hafter : after = ⟨topo, .ofTopology topo layout,
      viewAfter topo (viewAfter topo (.ofTopology topo) gestures) later⟩ := by
    rw [show after = before.after later from rfl, hbefore, after_eq]
  have hview : after.view.Of topo := by
    rw [hafter]
    exact of_viewAfter (of_viewAfter (View.of_ofTopology topo) gestures) later
  have hscene : after.scene = .ofTopology topo layout := by rw [hafter]
  have hscene' : before.scene = .ofTopology topo layout := by rw [hbefore]
  refine ⟨?_, fun name => hview.mem_classMap_iff, hview.size_classMap, ?_, ?_, ?_⟩
  · rw [hafter] at hview ⊢
    exact classesAgree_iff hview
  · rw [hscene]
    intro tag htag hname
    exact hview.class_line htag hname
  · rw [hscene]
    intro tag htag hname
    exact hview.class_circle_iff htag hname
  · rw [hscene, hscene']
    exact Page.restyle_html_iff hview layout options

end Session

namespace Topology

/-- Two cells that are connected, and one that bears the name of their link. -/
def namesake : Topology :=
  empty
    |>.place (.wired ⟨"A"⟩ [(⟨0⟩, ⟨⟨"B"⟩, ⟨0⟩⟩)])
    |>.place (.wired ⟨"B"⟩ [(⟨0⟩, ⟨⟨"A"⟩, ⟨0⟩⟩)])
    |>.place (.wired ⟨"A:P0-B:P0"⟩ [])

/-- The third cell is drawn as a cell, but listed as the link. -/
theorem namesake_not_classesAgree : ¬ (Session.start namesake {}).ClassesAgree := by
  intro h
  have hcell : (⟨"A:P0-B:P0"⟩ : CellId) ∈ namesake.cells := by decide +kernel
  have hdrawn : namesake.IsDrawn ⟨"A:P0-B:P0"⟩ := by decide +kernel
  exact (Session.classesAgree_iff (View.of_ofTopology namesake)).1 h _ hcell hdrawn

end Topology

end CellNet
