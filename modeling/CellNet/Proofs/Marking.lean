import CellNet.Proofs.Refusals
import CellNet.Proofs.SameView

/-!
# Marking something as broken

A double click changes the state of one element and nothing else, and what any gesture does to an
element leaves it broken if it is. So it makes no difference whether something is marked before
another gesture or after it (`attemptView_marked`), and of a list of marks only the members matter
(`marked_congr`). A gesture that is refused is refused before and after, and a name to be broken
comes down to the same double click on every view of a topology (`resolveBroken_eq_named`).
-/

namespace CellNet

inductive Element where
  | cell (id : CellId)
  | link (id : LinkId)
deriving DecidableEq, Repr

/-- The gesture that marks an element as broken. -/
def Element.doubleClick : Element → Gesture
  | .cell id => .doubleClickNode id
  | .link id => .doubleClickLink id

/-- The element a name to be broken stands for: a link that is drawn, or else a cell. -/
def Topology.named (topo : Topology) (name : String) : Element :=
  match LinkId.read? name with
  | some link => if link ∈ topo.linkMap then .link link else .cell ⟨name⟩
  | none => .cell ⟨name⟩

namespace Session

variable {view v w : View} {topo : Topology}

/-! ## Gestures on views of a topology -/

theorem resolveBroken_eq_named (hview : view.Of topo) (name : String) :
    resolveBroken view name = (topo.named name).doubleClick := by
  rw [resolveBroken, Topology.named]
  cases LinkId.read? name with
  | none => rfl
  | some link =>
    have hlink : link ∈ view.links ↔ link ∈ topo.linkMap :=
      View.mem_links_iff.trans (hview.links link)
    by_cases hdrawn : link ∈ topo.linkMap
    · simp [hlink.2 hdrawn, hdrawn, Element.doubleClick]
    · simp [mt hlink.1 hdrawn, hdrawn, Element.doubleClick]

theorem settle_eq_settle (hv : v.Of topo) (hw : w.Of topo) (gesture : Gesture) :
    settle v gesture = settle w gesture := by
  cases gesture with
  | markBroken name =>
    rw [settle, settle, resolveBroken_eq_named hv, resolveBroken_eq_named hw]
  | _ => rfl

/-! ## Marks -/

/-- The view after some elements were double clicked. -/
def marked (topo : Topology) (view : View) (marks : List Element) : View :=
  viewAfter topo view (marks.map Element.doubleClick)

theorem doubleClick_changed (topo : Topology) (view : View) (mark : Element) :
    view.Changed (attemptView topo view mark.doubleClick)
      (fun id s => if mark = .cell id then .broken else s)
      (fun link s => if mark = .link link then .broken else s) view.active := by
  cases hnext : changeView topo view mark.doubleClick with
  | ok next =>
    rw [attemptView_of_ok hnext]
    cases mark with
    | cell id =>
      rw [Element.doubleClick, changeView_doubleClickNode] at hnext
      simpa [eq_comm] using (View.doubleClickNode_eq_ok hnext).2
    | link link =>
      rw [Element.doubleClick, changeView_doubleClickLink] at hnext
      simpa [eq_comm] using (View.doubleClickLink_eq_ok hnext).2
  | error error =>
    -- What is not on display has no state to change.
    rw [attemptView_of_error hnext]
    cases mark with
    | cell id =>
      rw [Element.doubleClick, changeView_doubleClickNode] at hnext
      have hid : view.nodeState? id = none := by
        simpa using mt View.mem_nodes_iff.2 (View.doubleClickNode_eq_error_iff.1 hnext).1
      refine ⟨fun c => ?_, fun link => by simp, rfl⟩
      by_cases hc : id = c
      · rw [← hc, hid]; rfl
      · simp [hc]
    | link link =>
      rw [Element.doubleClick, changeView_doubleClickLink] at hnext
      have hlink : view.linkState? link = none := by
        simpa using mt View.mem_links_iff.2 (View.doubleClickLink_eq_error_iff.1 hnext).1
      refine ⟨fun c => by simp, fun l => ?_, rfl⟩
      by_cases hl : link = l
      · rw [← hl, hlink]; rfl
      · simp [hl]

/-- Marks break their members and change nothing else. -/
theorem marked_changed (topo : Topology) (view : View) (marks : List Element) :
    view.Changed (marked topo view marks) (fun id s => if .cell id ∈ marks then .broken else s)
      (fun link s => if .link link ∈ marks then .broken else s) view.active := by
  induction marks generalizing view with
  | nil =>
    exact ⟨fun id => by simp [marked, viewAfter], fun link => by simp [marked, viewAfter], rfl⟩
  | cons mark marks ih =>
    have hmark := doubleClick_changed topo view mark
    have hmarks := ih (attemptView topo view mark.doubleClick)
    refine ⟨fun id => (hmarks.nodes id).trans ?_, fun link => (hmarks.links link).trans ?_,
      hmarks.active.trans hmark.active⟩
    · rw [hmark.nodes, Option.map_map]
      refine congrArg (Option.map · _) (funext fun s => ?_)
      by_cases hid : mark = .cell id <;> simp [hid, eq_comm]
    · rw [hmark.links, Option.map_map]
      refine congrArg (Option.map · _) (funext fun s => ?_)
      by_cases hlink : mark = .link link <;> simp [hlink, eq_comm]

@[simp] theorem border?_marked {id : CellId} (marks : List Element) :
    (marked topo view marks).border? id = view.border? id := border?_viewAfter topo view _

/-- Of a list of marks only the members matter, neither their order nor how often they occur. -/
theorem marked_congr (topo : Topology) (view : View) {marks others : List Element}
    (hsame : ∀ mark, mark ∈ marks ↔ mark ∈ others) :
    marked topo view marks = marked topo view others := by
  have hmarks := marked_changed topo view marks
  have hothers := marked_changed topo view others
  refine View.eq_of_lookup (fun id => ?_) (fun id => by simp) (fun link => ?_) ?_
  · rw [hmarks.nodes, hothers.nodes]; simp [hsame]
  · rw [hmarks.links, hothers.links]; simp [hsame]
  · rw [hmarks.active, hothers.active]

/-- Marking elements and any other gesture have the same effect in either order. -/
theorem attemptView_marked (hview : view.Of topo) (gesture : Gesture) (marks : List Element) :
    attemptView topo (marked topo view marks) gesture =
      marked topo (attemptView topo view gesture) marks := by
  have hmarked : (marked topo view marks).Of topo := of_viewAfter hview _
  rw [← attemptView_settle, ← attemptView_settle topo view, settle_eq_settle hmarked hview]
  obtain ⟨node, line, shown, hchanged, hnode, hline⟩ :=
    exists_uniform_change topo (settle_ne_markBroken view gesture)
  rcases changeView_alike hmarked hview (settle view gesture) with
    ⟨error, hafter, hbefore⟩ | ⟨after, before, hafter, hbefore⟩
  · rw [attemptView_of_error hafter, attemptView_of_error hbefore]
  · rw [attemptView_of_ok hafter, attemptView_of_ok hbefore]
    have hmarks := marked_changed topo view marks
    have hfirst := hchanged _ _ hafter
    have hsecond := marked_changed topo before marks
    have hgesture := hchanged _ _ hbefore
    refine View.eq_of_lookup (fun id => ?_) (fun id => ?_) (fun link => ?_) ?_
    · -- An element that is marked is broken in the end, any other as the gesture leaves it.
      rw [hfirst.nodes, hmarks.nodes, hsecond.nodes, hgesture.nodes, Option.map_map, Option.map_map]
      refine congrArg (Option.map · _) (funext fun s => ?_)
      by_cases hid : Element.cell id ∈ marks <;> simp [hid, (hnode id .broken).2 (Or.inl rfl)]
    · rw [border?_changeView hafter, border?_marked, border?_marked, border?_changeView hbefore]
    · rw [hfirst.links, hmarks.links, hsecond.links, hgesture.links, Option.map_map, Option.map_map]
      refine congrArg (Option.map · _) (funext fun s => ?_)
      by_cases hlink : Element.link link ∈ marks <;>
        simp [hlink, (hline link .broken).2 (Or.inl rfl)]
    · rw [hfirst.active, hmarks.active, hsecond.active, hgesture.active]

/-- Names to be broken are double clicks on what they stand for. -/
theorem viewAfter_markBroken (hview : view.Of topo) (names : List String) :
    viewAfter topo view (names.map .markBroken) = marked topo view (names.map topo.named) := by
  induction names generalizing view with
  | nil => rfl
  | cons name names ih =>
    have hname : attemptView topo view (.markBroken name) =
        attemptView topo view (topo.named name).doubleClick := by
      rw [← attemptView_settle, settle, resolveBroken_eq_named hview]
    have hnext : (attemptView topo view (topo.named name).doubleClick).Of topo :=
      of_viewAfter hview [_]
    show viewAfter topo (attemptView topo view (.markBroken name)) _ = _
    rw [hname, ih hnext]
    rfl

end Session

end CellNet
