import CellNet.Proofs.Runs
import CellNet.Proofs.Links
import CellNet.Proofs.TwoSided

/-!
# What a session refuses

**Theorem (`perform_refuses_iff`).** After any run, whether a gesture is refused, and with which
error, depends on the topology alone (`Refused`): a click or double click on a cell is refused when
there is no such cell, one on a link when no link of that name is drawn, a stacked tree when it has
no root, a name to be marked as broken when it is neither the name of a link drawn nor that of a
cell, and a reset never. A gesture that is refused leaves the session as it was, so a run does the
same without it.

The requests look for their element in the maps of the view. These change with every gesture, but
never in what they have entries for (`View.Of`), and at the start that is read off the topology.
They change the view in place, and nothing puts it back: that it is left as it was rests on each of
them looking for its element, or its tree, before the first change (`isAtomic_requestView`).
-/

namespace CellNet

theorem Topology.mem_linkMap_iff {topo : Topology} {name : LinkId} :
    name ∈ topo.linkMap ↔ topo.IsDrawn name := by
  rw [isDrawn_iff_reported, Std.ExtTreeMap.mem_iff_isSome_getElem?, getElem?_linkMap,
    List.find?_isSome]
  simp

/-! ## Requests to a view -/

namespace View

variable {view : View} {topo : Topology} {id : CellId} {link : LinkId} {tree : TreeId}
  {error : ViewError}

theorem clickNode_eq_error_iff : (clickNode topo id).outcome view = .error error ↔
    id ∉ view.nodes ∧ error = .unknownCell id := by
  rw [EStateM.outcome_eq_error_iff, run_clickNode]
  split_ifs with h <;> simp [h, eq_comm]

theorem doubleClickNode_eq_error_iff : (doubleClickNode id).outcome view = .error error ↔
    id ∉ view.nodes ∧ error = .unknownCell id := by
  rw [EStateM.outcome_eq_error_iff, run_doubleClickNode]
  split_ifs with h <;> simp [h, eq_comm]

theorem clickLink_eq_error_iff : (clickLink link).outcome view = .error error ↔
    link ∉ view.links ∧ error = .unknownLink link.text := by
  rw [EStateM.outcome_eq_error_iff, run_clickLink, mem_links_iff, linkState?]
  cases view.links[link]? <;> simp [eq_comm]

theorem doubleClickLink_eq_error_iff : (doubleClickLink link).outcome view = .error error ↔
    link ∉ view.links ∧ error = .unknownLink link.text := by
  rw [EStateM.outcome_eq_error_iff, run_doubleClickLink, mem_links_iff, linkState?]
  cases view.links[link]? <;> simp [eq_comm]

theorem showStacked_eq_error_iff : (showStacked topo tree).outcome view = .error error ↔
    (¬ ∃ id, topo.IsRoot .stacked tree id) ∧ error = .highlight (.noRoot tree) := by
  rw [EStateM.outcome_eq_error_iff, run_showStacked]
  by_cases hroot : ∃ id, topo.IsRoot .stacked tree id
  · obtain ⟨start, hstart⟩ := hroot.choose_spec.exists_isFirstRoot
    simp [Topology.stackedHighlight_of_isFirstRoot hstart, hroot]
  · rw [Topology.stackedHighlight_eq_error_iff.2 hroot]
    simp [hroot, eq_comm]

theorem Of.mem_nodes_iff (h : view.Of topo) : id ∈ view.nodes ↔ id ∈ topo.cells :=
  View.mem_nodes_iff.trans (h.nodes id)

theorem Of.mem_links_iff (h : view.Of topo) : link ∈ view.links ↔ topo.IsDrawn link :=
  (View.mem_links_iff.trans (h.links link)).trans Topology.mem_linkMap_iff

end View

/-! ## Gestures -/

namespace Session

variable {view : View} {topo : Topology} {gesture : Gesture} {error : ViewError}

/-- When a gesture is refused, and with which error. -/
def Refused (topo : Topology) : Gesture → ViewError → Prop
  | .clickNode id, error | .doubleClickNode id, error =>
    id ∉ topo.cells ∧ error = .unknownCell id
  | .clickLink link, error | .doubleClickLink link, error =>
    ¬ topo.IsDrawn link ∧ error = .unknownLink link.text
  | .showStacked tree, error =>
    (¬ ∃ id, topo.IsRoot .stacked tree id) ∧ error = .highlight (.noRoot tree)
  | .reset, _ => False
  | .markBroken name, error =>
    (¬ ∃ link, LinkId.read? name = some link ∧ topo.IsDrawn link) ∧
      (⟨name⟩ : CellId) ∉ topo.cells ∧ error = .unknownCell ⟨name⟩

/-- A name to be broken is taken for a link if it reads as one that is drawn. -/
theorem resolveBroken_eq_doubleClickLink_iff (hview : view.Of topo) {name : String}
    {link : LinkId} : resolveBroken view name = .doubleClickLink link ↔
      LinkId.read? name = some link ∧ topo.IsDrawn link := by
  rw [resolveBroken]
  cases hread : LinkId.read? name with
  | none => simp
  | some found =>
    by_cases hfound : found ∈ view.links
    · have hdrawn := hview.mem_links_iff.1 hfound
      simp only [hfound, if_true, Gesture.doubleClickLink.injEq, Option.some.injEq]
      exact ⟨fun h => ⟨h, h ▸ hdrawn⟩, And.left⟩
    · have hdrawn := mt hview.mem_links_iff.2 hfound
      simp only [hfound, if_false, reduceCtorEq, Option.some.injEq, false_iff, not_and]
      exact fun h => h ▸ hdrawn

/-- A gesture is refused for what the topology says. -/
theorem changeView_eq_error_iff (hview : view.Of topo) :
    changeView topo view gesture = .error error ↔ Refused topo gesture error := by
  cases gesture with
  | clickNode id =>
    rw [changeView_clickNode, View.clickNode_eq_error_iff, hview.mem_nodes_iff, Refused]
  | doubleClickNode id =>
    rw [changeView_doubleClickNode, View.doubleClickNode_eq_error_iff, hview.mem_nodes_iff, Refused]
  | clickLink link =>
    rw [changeView_clickLink, View.clickLink_eq_error_iff, hview.mem_links_iff, Refused]
  | doubleClickLink link =>
    rw [changeView_doubleClickLink, View.doubleClickLink_eq_error_iff, hview.mem_links_iff, Refused]
  | showStacked tree => rw [changeView_showStacked, View.showStacked_eq_error_iff, Refused]
  | reset => simp [Refused]
  | markBroken name =>
    rw [← changeView_settle, settle, Refused]
    rcases resolveBroken_eq view name with ⟨link, hlink⟩ | hcell
    · -- A name that reads as a link drawn is granted.
      have hdrawn := (resolveBroken_eq_doubleClickLink_iff hview).1 hlink
      have hmem : link ∈ view.links := hview.mem_links_iff.2 hdrawn.2
      rw [hlink, changeView_doubleClickLink, View.doubleClickLink_eq_error_iff]
      exact ⟨fun h => absurd hmem h.1, fun h => absurd ⟨link, hdrawn⟩ h.1⟩
    · have hnone : ¬ ∃ link, LinkId.read? name = some link ∧ topo.IsDrawn link := by
        rintro ⟨link, hlink⟩
        rw [(resolveBroken_eq_doubleClickLink_iff hview).2 hlink] at hcell
        cases hcell
      rw [hcell, changeView_doubleClickNode, View.doubleClickNode_eq_error_iff, hview.mem_nodes_iff]
      exact ⟨fun h => ⟨hnone, h⟩, And.right⟩

theorem changeView_alike {v w : View} (hv : v.Of topo) (hw : w.Of topo) (gesture : Gesture) :
    (∃ error, changeView topo v gesture = .error error ∧
        changeView topo w gesture = .error error) ∨
      ∃ vnext wnext, changeView topo v gesture = .ok vnext ∧
        changeView topo w gesture = .ok wnext := by
  have hsame : ∀ error, changeView topo v gesture = .error error ↔
      changeView topo w gesture = .error error := fun error => by
    rw [changeView_eq_error_iff hv, changeView_eq_error_iff hw]
  cases hvnext : changeView topo v gesture with
  | error error => exact Or.inl ⟨error, rfl, (hsame error).1 hvnext⟩
  | ok vnext =>
    cases hwnext : changeView topo w gesture with
    | error error => rw [(hsame error).2 hwnext] at hvnext; cases hvnext
    | ok wnext => exact Or.inr ⟨vnext, wnext, rfl, rfl⟩

theorem perform_eq_error_iff {session : Session} : session.perform gesture = .error error ↔
    changeView session.topology session.view gesture = .error error := by
  rw [perform, changeView, EStateM.outcome, EStateM.outcome, run_request]
  cases (requestView session.topology gesture).run session.view <;> simp

/-- A session is left alone by what its view is left alone by. -/
theorem isAtomic_request (gesture : Gesture) : (request gesture).IsAtomic :=
  fun session error left h => by
    rw [run_request] at h
    cases hview : (requestView session.topology gesture).run session.view with
    | ok drawn view => rw [hview] at h; cases h
    | error reason view =>
      rw [hview] at h
      obtain ⟨-, rfl⟩ := EStateM.Result.error.inj h
      rw [isAtomic_requestView session.topology gesture hview]

/-- **What a session refuses** is known from the topology, and a gesture that is refused has changed
nothing by then. -/
theorem perform_refuses_iff (topo : Topology) (layout : Layout) (gestures : List Gesture) :
    let fresh := start topo layout
    let session := fresh.after gestures
    session.topology = topo ∧ session.scene = .ofTopology topo layout ∧
    ∀ gesture,
      (∀ error, session.perform gesture = .error error ↔ Refused topo gesture error) ∧
      ∀ error left, (request gesture).run session = .error error left → left = session ∧
        ∀ rest, fresh.after (gestures ++ gesture :: rest) = fresh.after (gestures ++ rest) := by
  intro fresh session
  have hsession : session = { fresh with view := viewAfter topo (.ofTopology topo) gestures } :=
    after_eq fresh gestures
  have hview : session.view.Of topo := hsession ▸ of_viewAfter (View.of_ofTopology topo) gestures
  have htopo : session.topology = topo := hsession ▸ rfl
  refine ⟨htopo, hsession ▸ rfl, fun gesture => ⟨fun error => ?_, fun error left hrun => ?_⟩⟩
  · rw [perform_eq_error_iff, htopo, changeView_eq_error_iff hview]
  · have hsame : session.attempt gesture = session :=
      (isAtomic_request gesture).leaves_of_outcome (EStateM.outcome_eq_error_iff.2 ⟨left, hrun⟩)
    refine ⟨isAtomic_request gesture hrun, fun rest => ?_⟩
    show (gestures ++ gesture :: rest).foldl attempt fresh = (gestures ++ rest).foldl attempt fresh
    rw [List.foldl_append, List.foldl_cons, List.foldl_append]
    exact congrArg (rest.foldl attempt) hsame

/-- On the fork, a stacked tree that nothing carries is refused after a click, and so is a name that
stands for nothing; the click stays. -/
theorem perform_refuses_fork :
    let session := (start Topology.fork {}).after [.clickNode ⟨"A"⟩]
    (request (.showStacked ⟨"T"⟩)).run session = .error (.highlight (.noRoot ⟨"T"⟩)) session ∧
      (request (.markBroken "D")).run session = .error (.unknownCell ⟨"D"⟩) session := by
  intro session
  obtain ⟨-, -, hrefuses⟩ := perform_refuses_iff Topology.fork {} [.clickNode ⟨"A"⟩]
  have hrun : ∀ gesture error, Refused Topology.fork gesture error →
      (request gesture).run session = .error error session := fun gesture error hrefused => by
    obtain ⟨left, hrun⟩ := EStateM.outcome_eq_error_iff.1 (((hrefuses gesture).1 error).2 hrefused)
    rw [hrun, ((hrefuses gesture).2 error left hrun).1]
  refine ⟨hrun _ _ ⟨?_, rfl⟩, hrun _ _ ⟨?_, by decide +kernel, rfl⟩⟩
  · exact Topology.roots_eq_nil_iff.1 (by decide +kernel)
  · rintro ⟨link, hread, -⟩
    have hnone : LinkId.read? "D" = none := by decide +kernel
    rw [hnone] at hread
    cases hread

end Session

end CellNet
