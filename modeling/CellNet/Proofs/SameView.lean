import CellNet.Proofs.Runs

/-!
# When two views are the same

A view is what can be asked of it: the state of each cell and whether it lies on the border, the
state of each link, and the highlight on display (`eq_of_lookup`). No gesture moves the border
(`border?_viewAfter`), so two views that runs on one topology lead to are the same view when they
show the same states and the same highlight.
-/

namespace CellNet

namespace View

variable {view next v w : View} {topo : Topology} {id : CellId}

def border? (view : View) (id : CellId) : Option Bool := (view.nodes[id]?).map NodeMark.isBorder

theorem eq_of_lookup (hnodes : ∀ id, v.nodeState? id = w.nodeState? id)
    (hborders : ∀ id, v.border? id = w.border? id)
    (hlinks : ∀ link, v.linkState? link = w.linkState? link) (hactive : v.active = w.active) :
    v = w := by
  have hmarks : v.nodes = w.nodes := by
    refine Std.ExtTreeMap.ext_getElem? fun id => ?_
    have hstate := hnodes id
    have hborder := hborders id
    rw [nodeState?, nodeState?] at hstate
    rw [border?, border?] at hborder
    cases hv : v.nodes[id]? <;> cases hw : w.nodes[id]? <;> simp [hv, hw] at hstate hborder
    · rfl
    · rename_i a b
      cases a; cases b
      simp_all
  have hstates : v.links = w.links := Std.ExtTreeMap.ext_getElem? hlinks
  cases v; cases w
  simp_all

/-! ## The border -/

@[simp] theorem border?_markNodes (which : CellId → Bool) (state : NodeState) :
    (view.markNodes which state).border? id = view.border? id := by
  simp only [markNodes, border?, Std.ExtTreeMap.getElem?_map, Option.map_map]
  refine congrArg (Option.map · _) (funext fun mark => ?_)
  by_cases h : which id <;> simp [h]

@[simp] theorem border?_markLinks (which : LinkId → Bool) (state : LinkState) :
    (view.markLinks which state).border? id = view.border? id := rfl

@[simp] theorem border?_reset : view.reset.border? id = view.border? id := by
  show ((view.markNodes (fun _ => true) .normal).markLinks (fun _ => true) .normal).border? id = _
  simp

theorem border?_clickNode {root : CellId} (h : (clickNode topo root).outcome view = .ok next) :
    next.border? id = view.border? id := by
  obtain ⟨_, h⟩ := EStateM.outcome_eq_ok_iff.1 h
  rw [run_clickNode] at h
  split_ifs at h
  cases h
  exact (border?_markNodes (· = root) .root).trans border?_reset

theorem border?_showStacked {tree : TreeId} (h : (showStacked topo tree).outcome view = .ok next) :
    next.border? id = view.border? id := by
  obtain ⟨_, h⟩ := EStateM.outcome_eq_ok_iff.1 h
  rw [run_showStacked] at h
  split at h
  · rename_i found _
    obtain ⟨-, rfl⟩ := EStateM.Result.ok.inj h
    exact (border?_markNodes (· ∈ found.nodes) .stacked).trans border?_reset
  · cases h

theorem border?_doubleClickNode {hit : CellId} (h : (doubleClickNode hit).outcome view = .ok next) :
    next.border? id = view.border? id := by
  obtain ⟨_, h⟩ := EStateM.outcome_eq_ok_iff.1 h
  rw [run_doubleClickNode] at h
  split_ifs at h
  cases h
  simp only [border?, Std.ExtTreeMap.getElem?_modify, Std.LawfulEqOrd.compare_eq_iff_eq]
  by_cases hid : hit = id
  · subst hid; simp [Function.comp_def]
  · simp [hid]

theorem border?_clickLink {link : LinkId} (h : (clickLink link).outcome view = .ok next) :
    next.border? id = view.border? id := by
  obtain ⟨_, h⟩ := EStateM.outcome_eq_ok_iff.1 h
  rw [run_clickLink] at h
  split at h
  · cases h; rfl
  · cases h

theorem border?_doubleClickLink {link : LinkId}
    (h : (doubleClickLink link).outcome view = .ok next) :
    next.border? id = view.border? id := by
  obtain ⟨_, h⟩ := EStateM.outcome_eq_ok_iff.1 h
  rw [run_doubleClickLink] at h
  split at h
  · cases h; rfl
  · cases h

end View

namespace Session

variable {view next : View} {topo : Topology} {gesture : Gesture} {id : CellId}

theorem border?_changeView (h : changeView topo view gesture = .ok next) :
    next.border? id = view.border? id := by
  rw [← changeView_settle] at h
  cases hg : settle view gesture <;> rw [hg] at h
  case clickNode root => exact View.border?_clickNode (changeView_clickNode root ▸ h)
  case doubleClickNode hit =>
    exact View.border?_doubleClickNode (changeView_doubleClickNode hit ▸ h)
  case clickLink link => exact View.border?_clickLink (changeView_clickLink link ▸ h)
  case doubleClickLink link =>
    exact View.border?_doubleClickLink (changeView_doubleClickLink link ▸ h)
  case showStacked tree => exact View.border?_showStacked (changeView_showStacked tree ▸ h)
  case reset => cases h; exact View.border?_reset
  case markBroken name => exact absurd hg (settle_ne_markBroken view gesture name)

theorem border?_viewAfter (topo : Topology) (view : View) (gestures : List Gesture) :
    (viewAfter topo view gestures).border? id = view.border? id :=
  run_induction (motive := fun after _ => after.border? id = view.border? id) rfl
    (fun _ _ _ _ h hok => (border?_changeView hok).trans h) gestures

end Session

end CellNet
