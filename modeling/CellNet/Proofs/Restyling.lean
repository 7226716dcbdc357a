import CellNet.Proofs.DrawnMarkup

/-!
# Restyling a page

The script of a page finds elements by name and gives them classes: for each entry of a class map,
the first element in the document that bears the name gets the class (`restyle`). Other elements of
that name keep theirs.

* `restyle_toList` — the order of the entries does not matter: each element that is the first of
  its name gets the class the map has for the name, if it has one (`styled`).
* `styled_of_nodup` — where the names are all different, the first is the only one.
* `styled_eq_self_iff` — elements are left alone when the map has nothing for their names.
* `elements_html` — the elements of a page: those in front of the lines, the lines, the circles, the
  tooltips.
-/

namespace CellNet.Markup

/-! ## Elements and their classes -/

/-- Elements by their names, in the order of the document, each with its class if it has one. -/
abbrev Elements := List (String × Option String)

/-- The name and the class of a tag that has a name. -/
def element? (tag : Tag) : Option (String × Option String) :=
  (tag.attribute? "id").map fun id => (id, tag.attribute? "class")

def elements (found : List Tag) : Elements := found.filterMap element?

/-- Gives a class to the first element of a name. -/
def setClass (name cssClass : String) : Elements → Elements
  | [] => []
  | first :: others =>
    if first.1 = name then (name, some cssClass) :: others
    else first :: setClass name cssClass others

/-- Gives classes to elements, one entry after the other. -/
def restyle (entries : List (String × String)) (items : Elements) : Elements :=
  entries.foldl (fun items entry => setClass entry.1 entry.2 items) items

/-- Gives a class to every element that is the first of its name and for whose name there is one;
the names in `seen` have come before. -/
def styled (look : String → Option String) (seen : List String) : Elements → Elements
  | [] => []
  | first :: others =>
    (if first.1 ∈ seen then first else (first.1, (look first.1).or first.2)) ::
      styled look (first.1 :: seen) others

section styled

variable {look other : String → Option String} {seen : List String}
  {items : Elements}

theorem styled_congr (h : ∀ name, name ∉ seen → look name = other name) :
    styled look seen items = styled other seen items := by
  induction items generalizing seen with
  | nil => rfl
  | cons first others ih =>
    have hothers : ∀ name, name ∉ first.1 :: seen → look name = other name := by
      intro name hname
      rw [List.mem_cons, not_or] at hname
      exact h name hname.2
    rw [styled, styled, ih hothers]
    by_cases hfirst : first.1 ∈ seen
    · rw [if_pos hfirst, if_pos hfirst]
    · rw [if_neg hfirst, if_neg hfirst, h first.1 hfirst]

theorem styled_append (behind : Elements) :
    styled look seen (items ++ behind) =
      styled look seen items ++ styled look ((items.map Prod.fst).reverse ++ seen) behind := by
  induction items generalizing seen with
  | nil => rfl
  | cons first others ih =>
    rw [List.cons_append, styled, styled, ih]
    simp

theorem length_styled : (styled look seen items).length = items.length := by
  induction items generalizing seen with
  | nil => rfl
  | cons first others ih => rw [styled, List.length_cons, ih, List.length_cons]

/-- Where all names are different, each element is the first of its name, unless the name has come
before. -/
theorem styled_of_nodup (h : (items.map Prod.fst).Nodup) :
    styled look seen items = items.map fun item =>
      if item.1 ∈ seen then item else (item.1, (look item.1).or item.2) := by
  induction items generalizing seen with
  | nil => rfl
  | cons first others ih =>
    rw [List.map_cons, List.nodup_cons] at h
    rw [styled, ih h.2, List.map_cons]
    congr 1
    apply List.map_congr_left
    intro item hitem
    have hne : item.1 ≠ first.1 := by
      intro heq
      exact h.1 (heq ▸ List.mem_map_of_mem hitem)
    simp [hne]

/-- Elements are left alone exactly when there is nothing for their names, provided that a class
for the name would be a new one. -/
theorem styled_eq_self_iff (h : ∀ item ∈ items, ∀ c, look item.1 = some c → item.2 ≠ some c) :
    styled look seen items = items ↔ ∀ item ∈ items, item.1 ∈ seen ∨ look item.1 = none := by
  induction items generalizing seen with
  | nil => simp [styled]
  | cons first others ih =>
    obtain ⟨hfirst, hothers⟩ := List.forall_mem_cons.1 h
    rw [styled, List.cons_eq_cons, ih hothers, List.forall_mem_cons]
    have hhead : (if first.1 ∈ seen then first else (first.1, (look first.1).or first.2)) = first ↔
        first.1 ∈ seen ∨ look first.1 = none := by
      by_cases hseen : first.1 ∈ seen
      · simp [hseen]
      · cases hlook : look first.1 with
        | none => simp
        | some c =>
          have hne := hfirst c hlook
          simp only [hseen, if_false, Option.some_or, false_or, reduceCtorEq, iff_false]
          intro heq
          exact hne (congrArg Prod.snd heq).symm
    rw [hhead]
    constructor
    · rintro ⟨hnow, hlater⟩
      refine ⟨hnow, ?_⟩
      intro item hitem
      rcases hlater item hitem with hseen | hnone
      · rcases List.mem_cons.1 hseen with heq | hseen
        · rwa [heq]
        · exact Or.inl hseen
      · exact Or.inr hnone
    · rintro ⟨hnow, hlater⟩
      refine ⟨hnow, ?_⟩
      intro item hitem
      rcases hlater item hitem with hseen | hnone
      · exact Or.inl (List.mem_cons_of_mem _ hseen)
      · exact Or.inr hnone

/-- The class for one name may as well be given beforehand. -/
theorem styled_setClass {name cssClass : String} (hlook : look name = some cssClass)
    (hseen : name ∉ seen) :
    styled (Function.update look name none) seen (setClass name cssClass items) =
      styled look seen items := by
  induction items generalizing seen with
  | nil => rfl
  | cons first others ih =>
    by_cases hfirst : first.1 = name
    · have hothers : styled (Function.update look name none) (name :: seen) others =
          styled look (name :: seen) others := by
        apply styled_congr
        intro other hother
        rw [List.mem_cons, not_or] at hother
        exact Function.update_of_ne hother.1 _ _
      rw [setClass, if_pos hfirst, styled, styled, hfirst, hothers]
      simp [hseen, hlook]
    · have hothers : name ∉ first.1 :: seen := by
        rw [List.mem_cons, not_or]
        exact ⟨Ne.symm hfirst, hseen⟩
      rw [setClass, if_neg hfirst, styled, styled, ih hothers, Function.update_of_ne hfirst]

end styled

/-- Entries under different names are given independently of one another. -/
theorem restyle_eq {entries : List (String × String)} {look : String → Option String}
    (hnodup : (entries.map Prod.fst).Nodup)
    (hlook : ∀ name c, look name = some c ↔ (name, c) ∈ entries)
    (items : Elements) : restyle entries items = styled look [] items := by
  induction entries generalizing look items with
  | nil =>
    have hnone : ∀ name, look name = none := by
      intro name
      rw [Option.eq_none_iff_forall_ne_some]
      intro c hc
      simpa using (hlook name c).1 hc
    symm
    apply (styled_eq_self_iff ?_).2
    · intro item _
      exact Or.inr (hnone item.1)
    · intro item _ c hc
      simp [hnone] at hc
  | cons entry entries ih =>
    obtain ⟨name, c⟩ := entry
    rw [List.map_cons, List.nodup_cons] at hnodup
    have hlater : ∀ other d,
        Function.update look name none other = some d ↔ (other, d) ∈ entries := by
      intro other d
      by_cases hother : other = name
      · subst hother
        have hnot : (other, d) ∉ entries := by
          intro hmem
          exact hnodup.1 (List.mem_map.2 ⟨_, hmem, rfl⟩)
        simp [hnot]
      · rw [Function.update_of_ne hother, hlook]
        simp [hother]
    have hname : look name = some c := (hlook name c).2 (by simp)
    rw [restyle, List.foldl_cons, ← restyle, ih hnodup.2 hlater,
      styled_setClass hname (by simp)]

theorem restyle_toList (classes : Std.ExtTreeMap String String)
    (items : Elements) :
    restyle classes.toList items = styled (fun name => classes[name]?) [] items := by
  apply restyle_eq
  · rw [Std.ExtTreeMap.map_fst_toList_eq_keys]
    exact classes.nodup_keys
  · intro name c
    exact Std.ExtTreeMap.mem_toList_iff_getElem?_eq_some.symm

end CellNet.Markup

/-! ## The elements of a page -/

namespace CellNet

open Markup

namespace Drawing

def lineElements (scene : Scene) (view : View) : Elements :=
  scene.lines.map fun shape => (shape.id.text, some (view.linkClass shape.id))

def circleElements (scene : Scene) (view : View) : Elements :=
  scene.nodes.map fun shape => (shape.id.name, some (view.nodeClass shape.id))

theorem elements_svgTags (scene : Scene) (view : View) :
    elements (svgTags scene view) =
      [("viz-canvas", none), ("arrow-head", none)] ++ lineElements scene view ++
        circleElements scene view := by
  unfold elements
  rw [filterMap_svgTags element? scene view [("viz-canvas", none), ("arrow-head", none)]
    (fun shape => [(shape.id.text, some (view.linkClass shape.id))])
    (fun shape => [(shape.id.name, some (view.nodeClass shape.id))])
    rfl (fun _ => rfl) (fun _ => rfl) rfl]
  simp [lineElements, circleElements, List.map_eq_flatMap]

end Drawing

namespace Page

/-- The elements of a page in front of the lines. -/
def frontElements (scene : Scene) (interactive : Bool) : Elements :=
  [("body", none), ("buttons", none)]
    ++ (if interactive then [("visualize", none), ("reset", none)] else [])
    ++ scene.stackedTrees.map (fun tree => (tree.name, some "stackedtreebutton"))
    ++ [("status", none), ("viz-canvas", none), ("arrow-head", none)]

def tooltipElements (scene : Scene) : Elements :=
  (tooltips scene).map fun tip => (tip.id, some "tooltip")

theorem elements_frontTags (scene : Scene) (interactive : Bool) :
    elements (frontTags scene interactive) ++ [("viz-canvas", none), ("arrow-head", none)] =
      frontElements scene interactive := by
  have hstart : List.filterMap element?
      (headTags ++ [⟨"div", [("id", "buttons")]⟩] ++ serverButtonTags interactive) =
        [("body", none), ("buttons", none)] ++
          (if interactive then [("visualize", none), ("reset", none)] else []) := by
    cases interactive <;> rfl
  unfold elements
  rw [filterMap_frontTags element? scene interactive _ [("status", none)]
    (fun tree => [(tree.name, some "stackedtreebutton")]) hstart (fun _ => rfl) rfl]
  simp [frontElements, List.map_eq_flatMap]

theorem elements_backTags (scene : Scene) (interactive : Bool) :
    elements (backTags scene interactive) = tooltipElements scene := by
  unfold elements
  rw [filterMap_backTags element? scene interactive (fun tip => [(tip.id, some "tooltip")])
    (fun _ => rfl) (by cases interactive <;> rfl)]
  simp [tooltipElements, List.map_eq_flatMap]

theorem elements_html (scene : Scene) (view : View) (options : Options) :
    elements (tags (html scene view options)) =
      frontElements scene options.interactive ++ Drawing.lineElements scene view ++
        Drawing.circleElements scene view ++ tooltipElements scene := by
  have hfront := elements_frontTags scene options.interactive
  have hdrawing := Drawing.elements_svgTags scene view
  have hback := elements_backTags scene options.interactive
  unfold elements at hfront hdrawing hback ⊢
  rw [tags_html, List.filterMap_append, List.filterMap_append, hdrawing, hback, ← hfront]
  simp

end Page

end CellNet
