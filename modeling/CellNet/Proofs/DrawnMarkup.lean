import CellNet.Page
import CellNet.Proofs.MarkupReader
import Mathlib.Data.List.Basic

/-!
# The markup of a drawing and of a page

Names of cells, links and trees come from outside and may be any text; so may the title and the
notice of a page. They are written into attributes and between tags at a dozen places.

**Theorem (`markup_unbroken`).** A drawing has `7 + 4 · (lines + nodes)` characters `<`; a page has
those of its drawing, two for each button of a stacked tree, two for each tooltip, and a number of
its own that depends on nothing but whether it is interactive. Reading back the names that stand in
the `id` attributes of the lines and circles, and of the buttons, gives the ids of the scene, in its
order, all lines before all circles.

The number of tags alone would not do: a name might close one tag and open another. So the whole
text is read back (`tags_svg`, `tags_html`), tag by tag with all attributes. Numbers and classes are
written without being escaped; they are plain, whatever float (`plain_coordinate`) and view.
-/

namespace CellNet

open Markup

/-! ## Numbers and classes are plain -/

namespace Decimal

/-- The characters of numbers. -/
def IsNumeral (c : Char) : Prop := c.isDigit ∨ c = '-' ∨ c = '.'

theorem entity_of_isNumeral {c : Char} (h : IsNumeral c) : entity c = [c] := by
  unfold entity
  split <;> simp_all [IsNumeral]

theorem plain_of_isNumeral {text : String} (h : ∀ c ∈ text.toList, IsNumeral c) : Plain text := by
  intro c hc
  exact entity_of_isNumeral (h c hc)

theorem isDigit_ofNat (n : Nat) (point : Int) (count : Nat) :
    ∀ c ∈ (Digits.ofNat n point count).digits, c.isDigit := by
  intro c hc
  rw [Digits.ofNat, trimZeros, List.mem_reverse] at hc
  have hmem : c ∈ (toString n).toList := by
    simpa using (List.dropWhile_sublist _).subset hc
  rw [Nat.toString_eq_repr, Nat.toList_repr] at hmem
  exact Nat.isDigit_of_mem_toDigits (by decide) (by decide) hmem

theorem isDigit_shortest (tie : Tie) (significand : Nat) (exponent : Int) :
    ∀ c ∈ (shortest tie significand exponent).digits, c.isDigit := by
  simp only [shortest]
  generalize hfound : List.findSome? _ (List.range maxDigits) = found
  cases found with
  | none => simp
  | some digits =>
    obtain ⟨k, -, hk⟩ := List.exists_of_findSome?_eq_some hfound
    obtain ⟨n, -, rfl⟩ := Option.map_eq_some_iff.1 hk
    exact isDigit_ofNat n _ _

theorem isNumeral_positional {d : Digits} (h : ∀ c ∈ d.digits, c.isDigit) :
    ∀ c ∈ d.positional.toList, IsNumeral c := by
  have hdigits : ∀ c ∈ d.digits, IsNumeral c := by
    intro c hc
    exact Or.inl (h c hc)
  have hzeros : ∀ n, ∀ c ∈ (zeros n).toList, IsNumeral c := by
    intro n c hc
    rw [zeros, String.toList_ofList] at hc
    rw [List.eq_of_mem_replicate hc]
    exact Or.inl (by decide)
  have hpoint : ∀ c ∈ ".".toList, IsNumeral c := by
    simp [IsNumeral]
  have hzero : ∀ c ∈ "0.".toList, IsNumeral c := by
    simp [IsNumeral]
  intro c hc
  simp only [Digits.positional] at hc
  split_ifs at hc
  · simp only [String.toList_append, String.toList_ofList, List.mem_append] at hc
    rcases hc with (hc | hc) | hc
    · exact hzero c hc
    · exact hzeros _ c hc
    · exact hdigits c hc
  · simp only [String.toList_append, String.toList_ofList, List.mem_append] at hc
    rcases hc with hc | hc
    · exact hdigits c hc
    · exact hzeros _ c hc
  · simp only [String.toList_append, String.toList_ofList, List.mem_append] at hc
    rcases hc with (hc | hc) | hc
    · exact hdigits c (List.mem_of_mem_take hc)
    · exact hpoint c hc
    · exact hdigits c (List.mem_of_mem_drop hc)

theorem plain_signed (negative : Bool) {text : String} (h : Plain text) :
    Plain (signed negative text) := by
  cases negative with
  | false => exact h
  | true => exact plain_append (plain_ofList rfl (by decide)) h

/-- A coordinate is written without any character that needs an entity. -/
theorem plain_coordinate (x : Float) : Plain (coordinate x) := by
  unfold coordinate
  split
  · exact plain_ofList rfl (by decide)
  · exact plain_signed _ (plain_ofList rfl (by decide))
  · rename_i negative significand exponent _
    by_cases hzero : significand = 0
    · rw [if_pos hzero]
      exact plain_ofList rfl (by decide)
    · rw [if_neg hzero]
      apply plain_signed
      apply plain_of_isNumeral
      exact isNumeral_positional (isDigit_shortest .up significand exponent)

end Decimal

theorem NodeState.plain_cssClass (state : NodeState) (isBorder : Bool) :
    Plain (state.cssClass isBorder) := by
  cases state <;> cases isBorder <;> exact plain_ofList rfl (by decide)

theorem LinkState.plain_cssClass (state : LinkState) : Plain state.cssClass := by
  cases state <;> exact plain_ofList rfl (by decide)

theorem View.plain_nodeClass (view : View) (id : CellId) : Plain (view.nodeClass id) := by
  unfold nodeClass
  split
  · exact NodeState.plain_cssClass _ _
  · exact plain_ofList rfl (by decide)

theorem View.plain_linkClass (view : View) (id : LinkId) : Plain (view.linkClass id) := by
  unfold linkClass
  split
  · exact LinkState.plain_cssClass _
  · exact plain_ofList rfl (by decide)

/-! ## Names are proper -/

namespace Markup

/-- The names of the tags and attributes that are written with values in them. -/
def writtenNames : List String :=
  ["svg", "line", "circle", "button", "div", "id", "class", "style", "xmlns", "width", "height",
    "viewBox", "x1", "y1", "x2", "y2", "cx", "cy", "r", "data-tooltip"]

theorem properName_of_written {name : String} (h : name ∈ writtenNames) : ProperName name := by
  have hnames : ∀ name ∈ writtenNames, ProperName name := by
    simp only [writtenNames, List.forall_mem_cons]
    and_intros
    all_goals first | exact properName_ofList rfl (by decide) | simp
  exact hnames name h

theorem Tag.proper_of_written {tag : Tag}
    (h : tag.name ∈ writtenNames ∧ ∀ a ∈ tag.attributes, a.1 ∈ writtenNames) : tag.Proper :=
  ⟨properName_of_written h.1, fun a ha => properName_of_written (h.2 a ha)⟩

end Markup

/-! ## The drawing -/

namespace Drawing

open Decimal

/-- The tags of an element with a title. -/
def elementTags (tag : Tag) : List Tag :=
  [tag, ⟨"title", []⟩, ⟨"/title", []⟩, ⟨"/" ++ tag.name, []⟩]

def lineTag (view : View) (shape : LineShape) : Tag where
  name := "line"
  attributes := [("id", shape.id.text), ("class", view.linkClass shape.id),
    ("x1", coordinate shape.start.x), ("y1", coordinate shape.start.y),
    ("x2", coordinate shape.stop.x), ("y2", coordinate shape.stop.y),
    ("data-tooltip", shape.tooltip)]

def circleTag (view : View) (radius : Float) (shape : NodeShape) : Tag where
  name := "circle"
  attributes := [("id", shape.id.name), ("class", view.nodeClass shape.id),
    ("cx", coordinate shape.center.x), ("cy", coordinate shape.center.y),
    ("r", coordinate radius), ("data-tooltip", shape.tooltip)]

def openingTag (scene : Scene) : Tag where
  name := "svg"
  attributes := [("id", "viz-canvas"), ("xmlns", "http://www.w3.org/2000/svg"),
    ("width", coordinate scene.width), ("height", coordinate scene.height),
    ("viewBox", "0 0 " ++ coordinate scene.width ++ " " ++ coordinate scene.height)]

def definitionTags : List Tag := [
  ⟨"defs", []⟩,
  ⟨"marker", [("id", "arrow-head"), ("markerWidth", "10"), ("markerHeight", "10"), ("refX", "10"),
    ("refY", "3"), ("orient", "auto"), ("markerUnits", "strokeWidth"), ("viewBox", "0 0 20 20")]⟩,
  ⟨"path", [("d", "M0,0 L0,6 L9,3 z"), ("fill", "black")]⟩,
  ⟨"/marker", []⟩,
  ⟨"/defs", []⟩]

def svgTags (scene : Scene) (view : View) : List Tag :=
  [openingTag scene] ++ definitionTags
    ++ scene.lines.flatMap (fun shape => elementTags (lineTag view shape))
    ++ scene.nodes.flatMap (fun shape => elementTags (circleTag view scene.radius shape))
    ++ [⟨"/svg", []⟩]

theorem readsAs_element {tag : Tag} (h : tag.Proper) (title : String) :
    ReadsAs (tag.markup ++ "<title>" ++ escape title ++ "</title></" ++ tag.name ++ ">\n")
      (elementTags tag) := by
  have htext : tag.markup ++ "<title>" ++ escape title ++ "</title></" ++ tag.name ++ ">\n" =
      tag.markup ++ ("<title>" ++ (escape title ++ ("</title>" ++
        (Tag.markup ⟨"/" ++ tag.name, []⟩ ++ "\n")))) := by
    rw [← String.toList_inj]
    simp [Tag.toList_markup, attributesText]
  have hend : Tag.Proper ⟨"/" ++ tag.name, []⟩ := by
    refine ⟨?_, by simp⟩
    intro c hc
    rw [String.toList_append, List.mem_append] at hc
    rcases hc with hc | hc
    · exact (properName_ofList rfl (by decide) : ProperName "/") c hc
    · exact h.1 c hc
  rw [htext]
  have hopen : ReadsAs "<title>" [⟨"title", []⟩] := readsAs_ofList rfl rfl rfl
  have hclose : ReadsAs "</title>" [⟨"/title", []⟩] := readsAs_ofList rfl rfl rfl
  have hbreak : ReadsAs "\n" [] := readsAs_ofList rfl rfl rfl
  exact (readsAs_markup h).append <| hopen.append <| (readsAs_escape title).append <|
    hclose.append <| (readsAs_markup hend).append hbreak

theorem closing_title : "><title>" = ">" ++ "<title>" := by
  rw [← String.toList_inj]
  simp

theorem readsAs_line (view : View) (shape : LineShape) :
    ReadsAs (line view shape) (elementTags (lineTag view shape)) := by
  have hproper : (lineTag view shape).Proper :=
    Tag.proper_of_written (by simp [lineTag, writtenNames])
  have htext : line view shape = (lineTag view shape).markup ++ "<title>" ++
      escape shape.id.text ++ "</title></" ++ (lineTag view shape).name ++ ">\n" := by
    simp [line, element, lineTag, Tag.markup, String.join, escape_of_plain, plain_coordinate,
      View.plain_linkClass, closing_title, String.append_assoc]
  rw [htext]
  exact readsAs_element hproper shape.id.text

theorem readsAs_circle (view : View) (radius : Float) (shape : NodeShape) :
    ReadsAs (circle view radius shape) (elementTags (circleTag view radius shape)) := by
  have hproper : (circleTag view radius shape).Proper :=
    Tag.proper_of_written (by simp [circleTag, writtenNames])
  have htext : circle view radius shape = (circleTag view radius shape).markup ++ "<title>" ++
      escape shape.id.name ++ "</title></" ++ (circleTag view radius shape).name ++ ">\n" := by
    simp [circle, element, circleTag, Tag.markup, String.join, escape_of_plain, plain_coordinate,
      View.plain_nodeClass, closing_title, String.append_assoc]
  rw [htext]
  exact readsAs_element hproper shape.id.name

theorem readsAs_opening (scene : Scene) : ReadsAs (opening scene) [openingTag scene] := by
  have hproper : (openingTag scene).Proper :=
    Tag.proper_of_written (by simp [openingTag, writtenNames])
  have hbox : Plain ("0 0 " ++ coordinate scene.width ++ " " ++ coordinate scene.height) := by
    apply plain_append
    · apply plain_append
      · exact plain_append (plain_ofList rfl (by decide)) (plain_coordinate _)
      · exact plain_ofList rfl (by decide)
    · exact plain_coordinate _
  have hid : Plain "viz-canvas" := plain_ofList rfl (by decide)
  have hspace : Plain "http://www.w3.org/2000/svg" := plain_ofList rfl (by decide)
  have hend : ">\n" = ">" ++ "\n" := by
    rw [← String.toList_inj]
    simp
  have htext : opening scene = (openingTag scene).markup ++ "\n" := by
    simp only [opening, openingTag, Tag.markup, List.map_cons, List.map_nil,
      escape_of_plain hid, escape_of_plain hspace, escape_of_plain (plain_coordinate _),
      escape_of_plain hbox, hend]
    simp [String.join, String.append_assoc]
  rw [htext]
  exact (readsAs_markup hproper).append (readsAs_ofList rfl rfl rfl)

theorem append_ofList {s t : String} {l m : List Char} (hs : s = .ofList l) (ht : t = .ofList m) :
    s ++ t = .ofList (l ++ m) := by
  rw [hs, ht, String.ofList_append]

theorem readsAs_definitions : ReadsAs definitions definitionTags := by
  apply readsAs_ofList (append_ofList (append_ofList rfl rfl) rfl)
  · decide +kernel
  · rfl

theorem readsAs_svg (scene : Scene) (view : View) :
    ReadsAs (svg scene view) (svgTags scene view) := by
  apply ReadsAs.append
  · apply ReadsAs.append
    · apply ReadsAs.append
      · exact (readsAs_opening scene).append readsAs_definitions
      · apply ReadsAs.join
        intro shape _
        exact readsAs_line view shape
    · apply ReadsAs.join
      intro shape _
      exact readsAs_circle view scene.radius shape
  · exact readsAs_ofList rfl rfl rfl

end Drawing

/-! ## The page -/

namespace Page

def headTags : List Tag := [
  ⟨"!DOCTYPE", []⟩, ⟨"html", [("lang", "en")]⟩, ⟨"head", []⟩, ⟨"meta", [("charset", "UTF-8")]⟩,
  ⟨"title", []⟩, ⟨"/title", []⟩, ⟨"style", []⟩, ⟨"/style", []⟩, ⟨"/head", []⟩,
  ⟨"body", [("id", "body")]⟩]

/-- The tags of the buttons that talk to the server. -/
def serverButtonTags (interactive : Bool) : List Tag :=
  if interactive then
    [⟨"button", [("id", "visualize")]⟩, ⟨"/button", []⟩, ⟨"button", [("id", "reset")]⟩,
      ⟨"/button", []⟩]
  else []

def treeButtonTags (tree : TreeId) : List Tag :=
  [⟨"button", [("id", tree.name), ("class", "stackedtreebutton")]⟩, ⟨"/button", []⟩]

def Tooltip.tags (tip : Tooltip) : List Tag :=
  [⟨"div", [("id", tip.id), ("class", "tooltip"), ("style", "display:none")]⟩, ⟨"/div", []⟩]

def scriptTags (interactive : Bool) : List Tag :=
  if interactive then [⟨"script", []⟩, ⟨"/script", []⟩] else []

/-- The tags of a page before its drawing. -/
def frontTags (scene : Scene) (interactive : Bool) : List Tag :=
  headTags ++ [⟨"div", [("id", "buttons")]⟩] ++ serverButtonTags interactive
    ++ scene.stackedTrees.flatMap treeButtonTags
    ++ [⟨"/div", []⟩, ⟨"div", [("id", "status")]⟩, ⟨"/div", []⟩]

/-- The tags of a page behind its drawing. -/
def backTags (scene : Scene) (interactive : Bool) : List Tag :=
  (tooltips scene).flatMap Tooltip.tags ++ scriptTags interactive
    ++ [⟨"/body", []⟩, ⟨"/html", []⟩]

set_option maxRecDepth 1024 in
theorem notMem_stylesheet : '<' ∉ stylesheet.toList := by
  have hrules : ∀ rule ∈ rules, '<' ∉ rule.selector.toList ∧ '<' ∉ rule.declarations.toList := by
    simp only [rules, List.forall_mem_cons]
    and_intros
    all_goals first | exact notMem_ofList rfl (by decide) | simp
  have htext : ∀ rule ∈ rules, '<' ∉ rule.text.toList := by
    intro rule hrule
    simp [Rule.text, hrules rule hrule]
  intro hmem
  rw [stylesheet, String.toList_append, String.toList_join, List.flatMap_map, List.mem_append,
    List.mem_flatMap] at hmem
  rcases hmem with hmem | hmem
  · exact notMem_ofList (c := '<') rfl (by decide) hmem
  · obtain ⟨rule, hrule, hmem⟩ := hmem
    exact htext rule hrule hmem

theorem notMem_script : '<' ∉ script.toList := by
  have hlines : ∀ line ∈ scriptLines, '<' ∉ line.toList := by
    simp only [scriptLines, List.forall_mem_cons]
    and_intros
    all_goals first | exact notMem_ofList rfl (by decide) | simp
  intro hmem
  rw [script, String.toList_append, String.toList_join, List.flatMap_map, List.mem_append,
    List.mem_flatMap] at hmem
  rcases hmem with hmem | hmem
  · exact notMem_ofList (c := '<') rfl (by decide) hmem
  · obtain ⟨line, hline, hmem⟩ := hmem
    rw [String.toList_append, List.mem_append] at hmem
    rcases hmem with hmem | hmem
    · exact hlines line hline hmem
    · exact notMem_ofList (c := '<') rfl (by decide) hmem

theorem readsAs_head (title : String) : ReadsAs (head title) headTags := by
  have hfirst : ReadsAs
      "<!DOCTYPE html>\n<html lang=\"en\">\n<head>\n<meta charset=\"UTF-8\">\n<title>"
      (headTags.take 5) := by
    apply readsAs_ofList rfl
    · decide +kernel
    · rfl
  have hstyle : ReadsAs "</title>\n<style>" [⟨"/title", []⟩, ⟨"style", []⟩] :=
    readsAs_ofList rfl rfl rfl
  have hlast : ReadsAs "</style>\n</head>\n<body id=\"body\">\n" (headTags.drop 7) :=
    readsAs_ofList rfl rfl rfl
  exact (((hfirst.append (readsAs_escape title)).append hstyle).append
    (readsAs_text notMem_stylesheet)).append hlast

theorem readsAs_serverButtons (interactive : Bool) :
    ReadsAs (serverButtons interactive) (serverButtonTags interactive) := by
  cases interactive with
  | false => exact readsAs_ofList rfl rfl rfl
  | true => exact readsAs_ofList rfl rfl rfl

theorem readsAs_treeButton (tree : TreeId) : ReadsAs (treeButton tree) (treeButtonTags tree) := by
  have hproper : Tag.Proper ⟨"button", [("id", tree.name), ("class", "stackedtreebutton")]⟩ :=
    Tag.proper_of_written (by simp [writtenNames])
  have hclass : Plain "stackedtreebutton" := plain_ofList rfl (by decide)
  have htext : treeButton tree =
      Tag.markup ⟨"button", [("id", tree.name), ("class", "stackedtreebutton")]⟩ ++
        escape tree.name ++ "</button>\n" := by
    simp [treeButton, Tag.markup, String.join, escape_of_plain hclass, String.append_assoc]
  have hend : ReadsAs "</button>\n" [⟨"/button", []⟩] := readsAs_ofList rfl rfl rfl
  rw [htext]
  exact ((readsAs_markup hproper).append (readsAs_escape _)).append hend

/-- The opening tag of a tooltip. -/
def Tooltip.tag (tip : Tooltip) : Tag :=
  ⟨"div", [("id", tip.id), ("class", "tooltip"), ("style", "display:none")]⟩

theorem Tooltip.tag_proper (tip : Tooltip) : tip.tag.Proper :=
  Tag.proper_of_written (by simp [tag, writtenNames])

theorem Tooltip.markup_eq (tip : Tooltip) :
    tip.markup = tip.tag.markup ++ (escape tip.label ++ "</div>\n") := by
  have hclass : Plain "tooltip" := plain_ofList rfl (by decide)
  have hstyle : Plain "display:none" := plain_ofList rfl (by decide)
  simp [markup, tag, Tag.markup, String.join, escape_of_plain hclass, escape_of_plain hstyle,
    String.append_assoc]

theorem readsAs_closeDiv : ReadsAs "</div>\n" [⟨"/div", []⟩] := readsAs_ofList rfl rfl rfl

theorem readsAs_tooltip (tip : Tooltip) : ReadsAs tip.markup tip.tags := by
  rw [tip.markup_eq]
  exact (readsAs_markup tip.tag_proper).append ((readsAs_escape _).append readsAs_closeDiv)

theorem readsAs_scriptMarkup (interactive : Bool) :
    ReadsAs (scriptMarkup interactive) (scriptTags interactive) := by
  cases interactive with
  | false => exact readsAs_ofList rfl rfl rfl
  | true =>
    have hstart : ReadsAs "<script>" [⟨"script", []⟩] := readsAs_ofList rfl rfl rfl
    have hend : ReadsAs "</script>\n" [⟨"/script", []⟩] := readsAs_ofList rfl rfl rfl
    exact (hstart.append (readsAs_text notMem_script)).append hend

theorem readsAs_notice (notice : String) :
    ReadsAs ("<div id=\"status\">" ++ escape notice ++ "</div>\n")
      [⟨"div", [("id", "status")]⟩, ⟨"/div", []⟩] := by
  have hstart : ReadsAs "<div id=\"status\">" [⟨"div", [("id", "status")]⟩] :=
    readsAs_ofList rfl rfl rfl
  exact (hstart.append (readsAs_escape notice)).append readsAs_closeDiv

/-- A page up to its drawing. -/
def frontMarkup (scene : Scene) (view : View) (options : Options) : String :=
  head options.title ++ "<div id=\"buttons\">\n" ++ serverButtons options.interactive
    ++ String.join (scene.stackedTrees.map treeButton) ++ "</div>\n"
    ++ ("<div id=\"status\">" ++ escape options.notice ++ "</div>\n")
    ++ Drawing.svg scene view

/-- A page behind its tooltips. -/
def endMarkup (interactive : Bool) : String := scriptMarkup interactive ++ "</body>\n</html>\n"

theorem html_eq (scene : Scene) (view : View) (options : Options) :
    html scene view options = frontMarkup scene view options ++
      (String.join ((tooltips scene).map Tooltip.markup) ++ endMarkup options.interactive) := by
  simp only [html, frontMarkup, endMarkup, String.append_assoc]

theorem readsAs_frontMarkup (scene : Scene) (view : View) (options : Options) :
    ReadsAs (frontMarkup scene view options)
      (frontTags scene options.interactive ++ Drawing.svgTags scene view) := by
  have hbuttons : ReadsAs "<div id=\"buttons\">\n" [⟨"div", [("id", "buttons")]⟩] :=
    readsAs_ofList rfl rfl rfl
  have htrees : ReadsAs (String.join (scene.stackedTrees.map treeButton))
      (scene.stackedTrees.flatMap treeButtonTags) := by
    apply ReadsAs.join
    intro tree _
    exact readsAs_treeButton tree
  have hfront := ((((readsAs_head options.title).append hbuttons).append
    (readsAs_serverButtons options.interactive)).append htrees).append readsAs_closeDiv
  have hpage := (hfront.append (readsAs_notice options.notice)).append
    (Drawing.readsAs_svg scene view)
  simpa only [frontMarkup, frontTags, List.append_assoc, List.cons_append, List.nil_append]
    using hpage

theorem readsAs_tooltips (tips : List Tooltip) :
    ReadsAs (String.join (tips.map Tooltip.markup)) (tips.flatMap Tooltip.tags) := by
  apply ReadsAs.join
  intro tip _
  exact readsAs_tooltip tip

theorem readsAs_endMarkup (interactive : Bool) :
    ReadsAs (endMarkup interactive)
      (scriptTags interactive ++ [⟨"/body", []⟩, ⟨"/html", []⟩]) :=
  (readsAs_scriptMarkup interactive).append (readsAs_ofList rfl rfl rfl)

theorem tags_html (scene : Scene) (view : View) (options : Options) :
    tags (html scene view options) = frontTags scene options.interactive ++
      Drawing.svgTags scene view ++ backTags scene options.interactive := by
  have hpage := (readsAs_frontMarkup scene view options).append
    ((readsAs_tooltips (tooltips scene)).append (readsAs_endMarkup options.interactive))
  rw [html_eq, hpage.tags_eq, backTags, List.append_assoc (List.flatMap _ _)]

end Page

/-! ## Reading something off the tags -/

section filterMap

variable {β : Type} (read : Tag → Option β) (scene : Scene) (view : View) (interactive : Bool)

theorem Drawing.filterMap_svgTags (start : List β) (ofLine : LineShape → List β)
    (ofCircle : NodeShape → List β)
    (hstart : ([openingTag scene] ++ definitionTags).filterMap read = start)
    (hline : ∀ shape, (elementTags (lineTag view shape)).filterMap read = ofLine shape)
    (hcircle : ∀ shape,
      (elementTags (circleTag view scene.radius shape)).filterMap read = ofCircle shape)
    (hend : List.filterMap read [⟨"/svg", []⟩] = []) :
    (svgTags scene view).filterMap read =
      start ++ scene.lines.flatMap ofLine ++ scene.nodes.flatMap ofCircle := by
  unfold svgTags
  rw [List.filterMap_append, List.filterMap_append, List.filterMap_append, hstart, hend,
    List.filterMap_flatMap, List.filterMap_flatMap, List.append_nil]
  simp only [hline, hcircle]

theorem Page.filterMap_frontTags (start status : List β) (ofTree : TreeId → List β)
    (hstart : List.filterMap read
      (headTags ++ [⟨"div", [("id", "buttons")]⟩] ++ serverButtonTags interactive) = start)
    (htree : ∀ tree, (treeButtonTags tree).filterMap read = ofTree tree)
    (hstatus : List.filterMap read
      [⟨"/div", []⟩, ⟨"div", [("id", "status")]⟩, ⟨"/div", []⟩] = status) :
    (frontTags scene interactive).filterMap read =
      start ++ scene.stackedTrees.flatMap ofTree ++ status := by
  unfold frontTags
  rw [List.filterMap_append, List.filterMap_append, hstart, hstatus, List.filterMap_flatMap]
  simp only [htree]

theorem Page.filterMap_backTags (ofTip : Tooltip → List β)
    (htip : ∀ tip, (Tooltip.tags tip).filterMap read = ofTip tip)
    (hend : List.filterMap read (scriptTags interactive ++ [⟨"/body", []⟩, ⟨"/html", []⟩]) = []) :
    (backTags scene interactive).filterMap read = (tooltips scene).flatMap ofTip := by
  unfold backTags
  rw [List.append_assoc, List.filterMap_append, hend, List.filterMap_flatMap, List.append_nil]
  simp only [htip]

end filterMap

/-! ## Nothing breaks out -/

namespace Markup

/-- The kind and the name of a line or circle. -/
def drawnName? (tag : Tag) : Option (String × Option String) :=
  if tag.name = "line" ∨ tag.name = "circle" then some (tag.name, tag.attribute? "id") else none

def treeButtonName? (tag : Tag) : Option (Option String) :=
  if tag.name = "button" ∧ tag.attribute? "class" = some "stackedtreebutton" then
    some (tag.attribute? "id")
  else none

end Markup

/-- The kinds and names of the lines and circles of a scene, lines first. -/
def Scene.names (scene : Scene) : List (String × Option String) :=
  scene.lines.map (fun shape => ("line", some shape.id.text)) ++
    scene.nodes.map (fun shape => ("circle", some shape.id.name))

theorem drawnNames_svgTags (scene : Scene) (view : View) :
    (Drawing.svgTags scene view).filterMap drawnName? = scene.names := by
  rw [Drawing.filterMap_svgTags drawnName? scene view []
    (fun shape => [("line", some shape.id.text)]) (fun shape => [("circle", some shape.id.name)])
    rfl (fun _ => rfl) (fun _ => rfl) rfl]
  simp [Scene.names, List.map_eq_flatMap]

theorem drawnNames_frontTags (scene : Scene) (interactive : Bool) :
    (Page.frontTags scene interactive).filterMap drawnName? = [] := by
  rw [Page.filterMap_frontTags drawnName? scene interactive [] [] (fun _ => [])
    (by cases interactive <;> rfl) (fun _ => rfl) rfl]
  simp

theorem drawnNames_backTags (scene : Scene) (interactive : Bool) :
    (Page.backTags scene interactive).filterMap drawnName? = [] := by
  rw [Page.filterMap_backTags drawnName? scene interactive (fun _ => []) (fun _ => rfl)
    (by cases interactive <;> rfl)]
  simp

theorem treeButtonNames_svgTags (scene : Scene) (view : View) :
    (Drawing.svgTags scene view).filterMap treeButtonName? = [] := by
  rw [Drawing.filterMap_svgTags treeButtonName? scene view [] (fun _ => []) (fun _ => [])
    rfl (fun _ => rfl) (fun _ => rfl) rfl]
  simp

theorem treeButtonNames_frontTags (scene : Scene) (interactive : Bool) :
    (Page.frontTags scene interactive).filterMap treeButtonName? =
      scene.stackedTrees.map fun tree => some tree.name := by
  rw [Page.filterMap_frontTags treeButtonName? scene interactive [] []
    (fun tree => [some tree.name]) (by cases interactive <;> rfl) (fun _ => rfl) rfl]
  simp [List.map_eq_flatMap]

theorem treeButtonNames_backTags (scene : Scene) (interactive : Bool) :
    (Page.backTags scene interactive).filterMap treeButtonName? = [] := by
  rw [Page.filterMap_backTags treeButtonName? scene interactive (fun _ => []) (fun _ => rfl)
    (by cases interactive <;> rfl)]
  simp

theorem length_svgTags (scene : Scene) (view : View) :
    (Drawing.svgTags scene view).length =
      7 + 4 * (scene.lines.length + scene.nodes.length) := by
  simp [Drawing.svgTags, Drawing.definitionTags, Drawing.elementTags, List.length_flatMap]
  omega

theorem length_frontTags (scene : Scene) (interactive : Bool) :
    (Page.frontTags scene interactive).length =
      2 * scene.stackedTrees.length + if interactive then 18 else 14 := by
  cases interactive <;>
    simp [Page.frontTags, Page.headTags, Page.serverButtonTags, Page.treeButtonTags,
      List.length_flatMap] <;> omega

theorem length_backTags (scene : Scene) (interactive : Bool) :
    (Page.backTags scene interactive).length =
      2 * (Page.tooltips scene).length + if interactive then 4 else 2 := by
  cases interactive <;>
    simp [Page.backTags, Page.Tooltip.tags, Page.scriptTags, List.length_flatMap] <;> omega

/-- No name breaks out of the markup: the tags of a drawing and of a page can be counted from the
scene alone, and the names of its elements are read back from them. -/
theorem markup_unbroken (scene : Scene) (view : View) (options : Page.Options) :
    (Drawing.svg scene view).toList.count '<' =
        7 + 4 * (scene.lines.length + scene.nodes.length) ∧
      (Page.html scene view options).toList.count '<' =
        (Drawing.svg scene view).toList.count '<' + 2 * scene.stackedTrees.length +
          2 * (Page.tooltips scene).length + (if options.interactive then 22 else 16) ∧
      (tags (Drawing.svg scene view)).filterMap drawnName? = scene.names ∧
      (tags (Page.html scene view options)).filterMap drawnName? = scene.names ∧
      (tags (Page.html scene view options)).filterMap treeButtonName? =
        scene.stackedTrees.map fun tree => some tree.name := by
  have hsvg := (Drawing.readsAs_svg scene view).tags_eq
  have hhtml := Page.tags_html scene view options
  refine ⟨?_, ?_, ?_, ?_, ?_⟩
  · rw [count_eq_length_tags, hsvg, length_svgTags]
  · rw [count_eq_length_tags, count_eq_length_tags, hsvg, hhtml, List.length_append,
      List.length_append, length_frontTags, length_backTags]
    split <;> omega
  · rw [hsvg, drawnNames_svgTags]
  · rw [hhtml, List.filterMap_append, List.filterMap_append, drawnNames_frontTags,
      drawnNames_svgTags, drawnNames_backTags, List.nil_append, List.append_nil]
  · rw [hhtml, List.filterMap_append, List.filterMap_append, treeButtonNames_frontTags,
      treeButtonNames_svgTags, treeButtonNames_backTags, List.append_nil, List.append_nil]

end CellNet
