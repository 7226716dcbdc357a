import CellNet.Proofs.Restyling
import CellNet.Proofs.SceneElements

/-!
# Tooltips

The name of a tooltip is that of its element without the separators, so different elements may ask
for the same tooltip. A page has one for all of them, and it shows the name of the first.

**Theorem (`tooltips_match`).** Read back from a page, the names of the tooltips are all different;
each line and circle finds exactly one tooltip under the name in its `data-tooltip` attribute; each
tooltip shows the name of the first element that asks for it, lines before circles in the order of
the scene, so there is none that no element asks for. On the page of a topology no other `div` bears
the name of a tooltip.

The elements of a drawing and the tooltips behind it are written by different functions. They are
compared as they are read: a tooltip with the text it shows, which stands between its tag and the
next (`texts`), and an element with the tooltip it asks for (`drawn?`). That each name is kept once,
for the first who asks, is a fact about lists (`mem_firstOfEach_iff`, `nodup_firstOfEach`).
-/

namespace CellNet

open Markup

/-! ## The first of each name -/

namespace Page

variable {tips : List Tooltip} {tip : Tooltip}

/-- What is kept are those that are the first under their name. -/
theorem mem_firstOfEach_iff :
    tip ∈ firstOfEach tips ↔ tips.find? (fun other => other.id = tip.id) = some tip := by
  induction tips with
  | nil => simp [firstOfEach]
  | cons first others ih =>
    rw [firstOfEach, List.mem_cons, List.mem_filter, ih, List.find?_cons]
    by_cases hid : first.id = tip.id
    · simp [hid, eq_comm]
    · have hne : tip ≠ first := fun heq => hid (by rw [heq])
      simp [hid, hne, Ne.symm hid]

theorem exists_find?_id (htip : tip ∈ tips) :
    ∃ first, tips.find? (fun other => other.id = tip.id) = some first ∧ first.id = tip.id := by
  have hsome : (tips.find? fun other => other.id = tip.id).isSome :=
    List.find?_isSome.2 ⟨tip, htip, by simp⟩
  obtain ⟨first, hfirst⟩ := Option.isSome_iff_exists.1 hsome
  exact ⟨first, hfirst, by simpa using List.find?_some hfirst⟩

theorem nodup_firstOfEach (tips : List Tooltip) :
    ((firstOfEach tips).map Tooltip.id).Nodup := by
  induction tips with
  | nil => exact List.nodup_nil
  | cons first others ih =>
    rw [firstOfEach, List.map_cons, List.nodup_cons]
    refine ⟨by simp, ih.sublist ?_⟩
    exact List.filter_sublist.map Tooltip.id

/-- A link and a cell that share a tooltip: it shows the name of the first. -/
example : firstOfEach [⟨tooltipId "A:P1-B:P2", "A:P1-B:P2"⟩, ⟨tooltipId "C:0", "C:0"⟩,
      ⟨tooltipId "AP1:BP2", "AP1:BP2"⟩] =
    [⟨"tooltipAP1BP2", "A:P1-B:P2"⟩, ⟨"tooltipC0", "C:0"⟩] := by
  decide +kernel

end Page

/-! ## Tags with the text behind them -/

namespace Markup

theorem flatMap_none {α : Type u} {β : Type v} (items : List α) :
    items.flatMap (fun _ => ([] : List β)) = [] := by
  simp

/-- The tag and the text of a piece. -/
def readPiece (piece : List Char × List Char) : Tag × String :=
  (readTag piece.1, String.ofList piece.2)

/-- The tags of a text with what stands behind them. -/
def texts (text : String) : List (Tag × String) := (pieces text.toList).map readPiece

theorem map_fst_texts (text : String) : (texts text).map Prod.fst = tags text := by
  rw [texts, List.map_map, tags, ← map_fst_pieces, List.map_map]
  rfl

/-- What stands in front has no influence on the pieces of a text. -/
theorem suffix_pieces (front text : List Char) : pieces text <:+ pieces (front ++ text) := by
  induction front with
  | nil => exact List.suffix_rfl
  | cons c cs ih =>
    rw [List.cons_append, pieces]
    split
    · exact ih.trans (List.suffix_cons _ _)
    · exact ih

/-- The tags in front are those it reads as; only what stands behind the last may depend on the
text. -/
theorem ReadsAs.texts_append {front : String} {found : List Tag} (h : ReadsAs front found)
    (text : String) :
    ∃ read, texts (front ++ text) = read ++ texts text ∧ read.map Prod.fst = found := by
  obtain ⟨before, hbefore⟩ := suffix_pieces front.toList text.toList
  have htexts : texts (front ++ text) = before.map readPiece ++ texts text := by
    rw [texts, String.toList_append, ← hbefore, List.map_append, texts]
  refine ⟨_, htexts, ?_⟩
  have htags := congrArg (List.map Prod.fst) htexts
  rw [List.map_append, map_fst_texts, map_fst_texts, h text] at htags
  exact (List.append_cancel_right htags).symm

theorem texts_markup {tag : Tag} (h : tag.Proper) {shown behind : String} {rest : List Char}
    (hshown : '<' ∉ shown.toList) (hbehind : behind.toList = '<' :: rest) :
    texts (tag.markup ++ (shown ++ behind)) = (tag, shown) :: texts behind := by
  obtain ⟨hopen, hclose⟩ := h.notMem
  have htext : (tag.markup ++ (shown ++ behind)).toList =
      '<' :: ((tag.name.toList ++ attributesText tag.attributes) ++
        '>' :: (shown.toList ++ '<' :: rest)) := by
    simp [Tag.toList_markup, hbehind]
  have hread : (shown.toList ++ '<' :: rest).takeWhile (· ≠ '<') = shown.toList := by
    rw [List.takeWhile_append_of_pos (forall_ne_of_notMem hshown)]
    simp
  rw [texts, htext, pieces_tag hopen hclose, pieces_text hshown, hread, List.map_cons, readPiece,
    readTag_text h, texts, hbehind]
  simp

/-! ## Tooltips and their elements -/

/-- A tooltip of a page: its name, and the text it shows. -/
structure ShownTooltip where
  id : Option String
  text : String
deriving DecidableEq

/-- A line or circle of a page: its name, and the tooltip it asks for. -/
structure DrawnElement where
  name : Option String
  tooltip : Option String
deriving DecidableEq

def tooltipName? (tag : Tag) : Option (Option String) :=
  if tag.name = "div" ∧ tag.attribute? "class" = some "tooltip" then some (tag.attribute? "id")
  else none

/-- A tooltip, read from its opening tag and the text behind it. -/
def shownTooltip? (read : Tag × String) : Option ShownTooltip :=
  (tooltipName? read.1).map fun id => ⟨id, read.2⟩

def shownTooltips (page : String) : List ShownTooltip := (texts page).filterMap shownTooltip?

/-- A line or circle, read from its tag. -/
def drawn? (tag : Tag) : Option DrawnElement :=
  if tag.name = "line" ∨ tag.name = "circle" then
    some ⟨tag.attribute? "id", tag.attribute? "data-tooltip"⟩
  else none

def drawnElements (page : String) : List DrawnElement := (tags page).filterMap drawn?

def divName? (tag : Tag) : Option (Option String) :=
  if tag.name = "div" then some (tag.attribute? "id") else none

def divNames (page : String) : List (Option String) := (tags page).filterMap divName?

/-- Where no tag is that of a tooltip, there is no tooltip. -/
theorem ReadsAs.shownTooltips_append {front : String} {found : List Tag} (h : ReadsAs front found)
    (hnone : found.filterMap tooltipName? = []) (text : String) :
    shownTooltips (front ++ text) = shownTooltips text := by
  obtain ⟨read, hread, hfound⟩ := h.texts_append text
  have hempty : read.filterMap shownTooltip? = [] := by
    subst hfound
    rw [List.filterMap_eq_nil_iff, List.forall_mem_map] at hnone
    rw [List.filterMap_eq_nil_iff]
    intro item hitem
    rw [shownTooltip?, hnone item hitem]
    rfl
  rw [shownTooltips, hread, List.filterMap_append, hempty, List.nil_append, shownTooltips]

end Markup

namespace Page

theorem shownTooltips_tooltip (tip : Tooltip) (behind : String) :
    shownTooltips (tip.markup ++ behind) =
      ⟨some tip.id, escape tip.label⟩ :: shownTooltips behind := by
  have hclose : ("</div>\n" ++ behind).toList = '<' :: ("/div>\n" ++ behind).toList := by
    simp
  have hread := texts_markup tip.tag_proper (notMem_escape (by simp) tip.label) hclose
  have hshown : shownTooltip? (tip.tag, escape tip.label) =
      some ⟨some tip.id, escape tip.label⟩ := rfl
  rw [tip.markup_eq, String.append_assoc, String.append_assoc, shownTooltips, hread,
    List.filterMap_cons_some hshown, ← shownTooltips, readsAs_closeDiv.shownTooltips_append rfl]

theorem shownTooltips_join (tips : List Tooltip) (behind : String) :
    shownTooltips (String.join (tips.map Tooltip.markup) ++ behind) =
      tips.map (fun tip => ⟨some tip.id, escape tip.label⟩) ++ shownTooltips behind := by
  induction tips with
  | nil => simp [String.join]
  | cons tip tips ih =>
    have hjoin : String.join ((tip :: tips).map Tooltip.markup) ++ behind =
        tip.markup ++ (String.join (tips.map Tooltip.markup) ++ behind) := by
      rw [← String.toList_inj]
      simp [String.toList_join]
    rw [hjoin, shownTooltips_tooltip, ih, List.map_cons, List.cons_append]

section read

variable (scene : Scene) (view : View) (options : Options)

theorem tooltipNames_front :
    (frontTags scene options.interactive ++ Drawing.svgTags scene view).filterMap tooltipName? =
      [] := by
  have hstart : List.filterMap tooltipName? (headTags ++ [⟨"div", [("id", "buttons")]⟩] ++
      serverButtonTags options.interactive) = [] := by
    cases options.interactive <;> rfl
  rw [List.filterMap_append,
    filterMap_frontTags tooltipName? scene _ [] [] (fun _ => []) hstart (fun _ => rfl) rfl,
    Drawing.filterMap_svgTags tooltipName? scene view [] (fun _ => []) (fun _ => [])
      rfl (fun _ => rfl) (fun _ => rfl) rfl]
  simp

theorem shownTooltips_html :
    shownTooltips (html scene view options) =
      (tooltips scene).map fun tip => ⟨some tip.id, escape tip.label⟩ := by
  have hend : shownTooltips (endMarkup options.interactive) = [] := by
    have hskip := (readsAs_endMarkup options.interactive).shownTooltips_append
      (by cases options.interactive <;> rfl) ""
    rw [String.append_empty] at hskip
    rw [hskip]
    rfl
  rw [html_eq, (readsAs_frontMarkup scene view options).shownTooltips_append
    (tooltipNames_front scene view options), shownTooltips_join, hend, List.append_nil]

/-- What the lines and circles of a scene ask for: the name of a tooltip, and their own to be
shown. -/
def labels (scene : Scene) : List Tooltip :=
  scene.lines.map (fun shape => ⟨shape.tooltip, shape.id.text⟩) ++
    scene.nodes.map (fun shape => ⟨shape.tooltip, shape.id.name⟩)

theorem drawnElements_html :
    drawnElements (html scene view options) =
      (labels scene).map fun tip => ⟨some tip.label, some tip.id⟩ := by
  have hstart : List.filterMap drawn? (headTags ++ [⟨"div", [("id", "buttons")]⟩] ++
      serverButtonTags options.interactive) = [] := by
    cases options.interactive <;> rfl
  rw [drawnElements, tags_html, List.filterMap_append, List.filterMap_append,
    filterMap_frontTags drawn? scene _ [] [] (fun _ => []) hstart (fun _ => rfl) rfl,
    Drawing.filterMap_svgTags drawn? scene view [] (fun shape => [⟨shape.id.text, shape.tooltip⟩])
      (fun shape => [⟨shape.id.name, shape.tooltip⟩]) rfl (fun _ => rfl) (fun _ => rfl) rfl,
    filterMap_backTags drawn? scene _ (fun _ => []) (fun _ => rfl)
      (by cases options.interactive <;> rfl)]
  simp [labels, flatMap_none, ← List.map_eq_flatMap, Function.comp_def]

/-- Besides the tooltips, a page has two `div` elements. -/
theorem divNames_html :
    divNames (html scene view options) =
      [some "buttons", some "status"] ++ (tooltips scene).map fun tip => some tip.id := by
  have hstart : List.filterMap divName? (headTags ++ [⟨"div", [("id", "buttons")]⟩] ++
      serverButtonTags options.interactive) = [some "buttons"] := by
    cases options.interactive <;> rfl
  rw [divNames, tags_html, List.filterMap_append, List.filterMap_append,
    filterMap_frontTags divName? scene _ [some "buttons"] [some "status"] (fun _ => [])
      hstart (fun _ => rfl) rfl,
    Drawing.filterMap_svgTags divName? scene view [] (fun _ => []) (fun _ => [])
      rfl (fun _ => rfl) (fun _ => rfl) rfl,
    filterMap_backTags divName? scene _ (fun tip => [some tip.id]) (fun _ => rfl)
      (by cases options.interactive <;> rfl)]
  simp [flatMap_none, ← List.map_eq_flatMap]

end read

/-! ## Who finds which tooltip -/

/-- The tooltips of a page match its lines and circles. -/
structure TooltipsMatch (scene : Scene) (page : String) : Prop where
  /-- The lines are drawn before the circles, both in the order of the scene. -/
  drawn : drawnElements page =
    scene.lines.map (fun shape => ⟨some shape.id.text, some shape.tooltip⟩) ++
      scene.nodes.map (fun shape => ⟨some shape.id.name, some shape.tooltip⟩)
  nodup : ((shownTooltips page).map ShownTooltip.id).Nodup
  served : ∀ element ∈ drawnElements page,
    ∃! tip, tip ∈ shownTooltips page ∧ tip.id = element.tooltip
  /-- A tooltip shows the name of the first element that asks for it. -/
  labelled : ∀ tip ∈ shownTooltips page, ∃ element,
    (drawnElements page).find? (fun other => other.tooltip = tip.id) = some element ∧
      element.name.map escape = some tip.text

section served

variable {scene : Scene} {view : View} {options : Options} {tip : Tooltip}

/-- Whoever asks for a tooltip finds the first under its name. -/
theorem exists_tooltip (htip : tip ∈ labels scene) :
    ∃ first ∈ tooltips scene, first.id = tip.id := by
  obtain ⟨first, hfirst, hid⟩ := exists_find?_id htip
  refine ⟨first, ?_, hid⟩
  rw [tooltips, mem_firstOfEach_iff, hid]
  exact hfirst

theorem nodup_names (scene : Scene) : ((tooltips scene).map fun tip => some tip.id).Nodup := by
  have hids := (nodup_firstOfEach (labels scene)).map (Option.some_injective _)
  rwa [List.map_map] at hids

theorem nodup_shownTooltips (scene : Scene) (view : View) (options : Options) :
    ((shownTooltips (html scene view options)).map ShownTooltip.id).Nodup := by
  rw [shownTooltips_html, List.map_map]
  exact nodup_names scene

/-- What an element asks for is the name of a tooltip. -/
theorem exists_tooltip_of_drawn {element : DrawnElement}
    (helement : element ∈ drawnElements (html scene view options)) :
    ∃ first ∈ tooltips scene, some first.id = element.tooltip := by
  rw [drawnElements_html, List.mem_map] at helement
  obtain ⟨label, hlabel, helement⟩ := helement
  obtain ⟨first, hfirst, hid⟩ := exists_tooltip hlabel
  exact ⟨first, hfirst, by rw [← helement, hid]⟩

theorem existsUnique_shownTooltip {element : DrawnElement}
    (helement : element ∈ drawnElements (html scene view options)) :
    ∃! tip, tip ∈ shownTooltips (html scene view options) ∧ tip.id = element.tooltip := by
  obtain ⟨first, hfirst, hname⟩ := exists_tooltip_of_drawn helement
  have hmem : (⟨some first.id, escape first.label⟩ : ShownTooltip) ∈
      shownTooltips (html scene view options) := by
    rw [shownTooltips_html]
    exact List.mem_map_of_mem hfirst
  refine ⟨_, ⟨hmem, hname⟩, fun other hother => ?_⟩
  exact List.inj_on_of_nodup_map (nodup_shownTooltips scene view options) hother.1 hmem
    (hother.2.trans hname.symm)

/-- The first element to ask for a tooltip is the one whose name it shows. -/
theorem find?_drawnElements (htip : tip ∈ tooltips scene) :
    (drawnElements (html scene view options)).find? (fun other => other.tooltip = some tip.id) =
      some ⟨some tip.label, some tip.id⟩ := by
  rw [tooltips, mem_firstOfEach_iff] at htip
  rw [drawnElements_html, List.find?_map]
  simp only [Function.comp_def, Option.some.injEq]
  rw [labels, htip]
  rfl

theorem tooltipsMatch_html (scene : Scene) (view : View) (options : Options) :
    TooltipsMatch scene (html scene view options) where
  drawn := by
    rw [drawnElements_html]
    simp [labels, Function.comp_def]
  nodup := nodup_shownTooltips scene view options
  served _ helement := existsUnique_shownTooltip helement
  labelled tip htip := by
    rw [shownTooltips_html, List.mem_map] at htip
    obtain ⟨first, hfirst, htip⟩ := htip
    subst htip
    exact ⟨_, find?_drawnElements hfirst, rfl⟩

end served

/-! ## The page of a topology -/

theorem tooltipId_of_mem_labels {topo : Topology} {layout : Layout} {tip : Tooltip}
    (htip : tip ∈ labels (.ofTopology topo layout)) : tip.id = tooltipId tip.label := by
  rw [labels, List.mem_append, List.mem_map, List.mem_map] at htip
  rcases htip with hline | hnode
  · obtain ⟨line, hline, htip⟩ := hline
    obtain ⟨link, -, hshape⟩ := List.mem_filterMap.1 hline
    rw [Scene.lineShape?] at hshape
    split at hshape
    · injection hshape with hshape
      subst htip hshape
      rfl
    · contradiction
  · obtain ⟨node, hnode, htip⟩ := hnode
    obtain ⟨cell, -, hshape⟩ := Scene.mem_nodes_iff.1 hnode
    subst htip
    rw [← hshape]
    rfl

theorem tooltipId_ne (name : String) : tooltipId name ≠ "buttons" ∧ tooltipId name ≠ "status" := by
  rw [tooltipId]
  refine ⟨fun h => ?_, fun h => ?_⟩
  · simpa using congrArg String.toList h
  · simpa using congrArg String.toList h

/-- Every line and circle asks for a name that one `div` bears. -/
def OneDivEach (page : String) : Prop :=
  ∀ element ∈ drawnElements page, (divNames page).count element.tooltip = 1

theorem oneDivEach_html (topo : Topology) (layout : Layout) (view : View) (options : Options) :
    OneDivEach (html (.ofTopology topo layout) view options) := by
  intro element helement
  obtain ⟨first, hfirst, hname⟩ := exists_tooltip_of_drawn helement
  have hothers : [some "buttons", some "status"].count (some first.id) = 0 := by
    have hlabel := List.mem_of_find?_eq_some (mem_firstOfEach_iff.1 hfirst)
    obtain ⟨hbuttons, hstatus⟩ := tooltipId_ne first.label
    rw [tooltipId_of_mem_labels hlabel]
    simp [hbuttons.symm, hstatus.symm]
  have hone : ((tooltips (.ofTopology topo layout)).map fun tip => some tip.id).count
      (some first.id) = 1 :=
    List.count_eq_one_of_mem (nodup_names _) (List.mem_map_of_mem hfirst)
  rw [← hname, divNames_html, List.count_append, hothers, hone]

/-- **Every line and circle has its tooltip**, and on the page of a topology there is no other `div`
of that name. -/
theorem tooltips_match (view : View) (options : Options) :
    (∀ scene, TooltipsMatch scene (html scene view options)) ∧
      ∀ topo layout, OneDivEach (html (.ofTopology topo layout) view options) :=
  ⟨fun scene => tooltipsMatch_html scene view options,
    fun topo layout => oneDivEach_html topo layout view options⟩

end Page

end CellNet
