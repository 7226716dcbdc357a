import CellNet.Proofs.Runs

/-!
# Broken is for good

**Theorem (`broken_iff_doubleClicked`).** After any run of a session, the broken cells are exactly
those a gesture of the run has broken: a double click on the cell, or marking a name as broken that
came down to one, if it was carried out. The same holds of the links. No gesture takes an element
out of this state, and no other gesture puts one in.

The run lemma (`broken_viewAfter`) rests on one step (`nodeState?_eq_broken_iff`,
`linkState?_eq_broken_iff`): every request but the double clicks changes elements through `become`
or `toggle`, which let an element be broken afterwards exactly when it was broken before.
-/

namespace CellNet

namespace Session

variable {topo : Topology} {view next : View} {gesture : Gesture}

/-! ## One gesture -/

/-- A change that breaks nothing but what it hits leaves broken what it hits and what was before. -/
theorem map_eq_broken_iff {σ : Type} {change : σ → σ} {broken : σ} {hit : Prop} {old : Option σ}
    (hchange : ∀ state, change state = broken ↔ state = broken ∨ hit) (hold : hit → old.isSome) :
    old.map change = some broken ↔ old = some broken ∨ hit := by
  cases old with
  | none => simpa using hold
  | some state => simp [hchange]

/-- A cell is broken after a gesture if it was before, or if the gesture comes down to a double
click on it. -/
theorem nodeState?_eq_broken_iff (h : changeView topo view gesture = .ok next) (id : CellId) :
    next.nodeState? id = some .broken ↔
      view.nodeState? id = some .broken ∨ settle view gesture = .doubleClickNode id := by
  obtain ⟨node, line, active, hchanged, hnode, -⟩ := exists_changed h
  rw [hchanged.nodes]
  refine map_eq_broken_iff (hnode id) fun hhit => ?_
  rw [← changeView_settle, hhit, changeView_doubleClickNode] at h
  exact View.mem_nodes_iff.1 (View.doubleClickNode_eq_ok h).1

/-- A link is broken after a gesture if it was before, or if the gesture comes down to a double
click on it. -/
theorem linkState?_eq_broken_iff (h : changeView topo view gesture = .ok next) (link : LinkId) :
    next.linkState? link = some .broken ↔
      view.linkState? link = some .broken ∨ settle view gesture = .doubleClickLink link := by
  obtain ⟨node, line, active, hchanged, -, hline⟩ := exists_changed h
  rw [hchanged.links]
  refine map_eq_broken_iff (hline link) fun hhit => ?_
  rw [← changeView_settle, hhit, changeView_doubleClickLink] at h
  exact View.mem_links_iff.1 (View.doubleClickLink_eq_ok h).1

/-! ## Along a run -/

/-- Some gesture of a run was carried out and came down to a given one. -/
def Did (session : Session) (gestures : List Gesture) (what : Gesture) : Prop :=
  ∃ before gesture rest next, gestures = before ++ gesture :: rest ∧
    (session.after before).perform gesture = .ok next ∧
    settle (session.after before).view gesture = what

theorem did_iff {session : Session} {gestures : List Gesture} {what : Gesture} :
    session.Did gestures what ↔
      ∃ step ∈ carriedOut session.topology session.view gestures, settle step.1 step.2 = what := by
  constructor
  · rintro ⟨before, gesture, rest, next, hsplit, hnext, hwhat⟩
    obtain ⟨view, hview, -⟩ := perform_eq_ok_iff.1 hnext
    rw [after_eq] at hview hwhat
    exact ⟨(_, gesture), mem_carriedOut.2 ⟨before, rest, view, hsplit, rfl, hview⟩, hwhat⟩
  · rintro ⟨⟨on, gesture⟩, hmem, hwhat⟩
    obtain ⟨before, rest, view, hsplit, rfl, hview⟩ := mem_carriedOut.1 hmem
    refine ⟨before, gesture, rest, _, hsplit, perform_eq_ok_iff.2 ⟨view, ?_, rfl⟩, ?_⟩
    · rwa [after_eq]
    · rwa [after_eq]

/-- The broken elements of a view after a run are those that a gesture carried out has broken. -/
theorem broken_viewAfter (topo : Topology) (gestures : List Gesture) :
    let view := viewAfter topo (.ofTopology topo) gestures
    let done := carriedOut topo (.ofTopology topo) gestures
    (∀ id, view.nodeState? id = some .broken ↔
      ∃ step ∈ done, settle step.1 step.2 = .doubleClickNode id) ∧
    ∀ link, view.linkState? link = some .broken ↔
      ∃ step ∈ done, settle step.1 step.2 = .doubleClickLink link := by
  refine run_induction
    (motive := fun view done =>
      (∀ id, view.nodeState? id = some .broken ↔
        ∃ step ∈ done, settle step.1 step.2 = .doubleClickNode id) ∧
      ∀ link, view.linkState? link = some .broken ↔
        ∃ step ∈ done, settle step.1 step.2 = .doubleClickLink link)
    ⟨fun id => by simp, fun link => by simp⟩ (fun view next gesture done ih hok => ?_) gestures
  constructor
  · intro id
    rw [nodeState?_eq_broken_iff hok, ih.1]
    simp [or_and_right, exists_or]
  · intro link
    rw [linkState?_eq_broken_iff hok, ih.2]
    simp [or_and_right, exists_or]

/-- **Broken is for good.** After any run the broken cells and links are those that a gesture of
the run has broken, and the next gesture breaks at most the element it comes down to a double click
on and repairs none. -/
theorem broken_iff_doubleClicked (topo : Topology) (layout : Layout) (gestures : List Gesture) :
    let fresh := start topo layout
    let session := fresh.after gestures
    (∀ id, session.view.nodeState? id = some .broken ↔
      fresh.Did gestures (.doubleClickNode id)) ∧
    (∀ link, session.view.linkState? link = some .broken ↔
      fresh.Did gestures (.doubleClickLink link)) ∧
    ∀ gesture next, session.perform gesture = .ok next →
      (∀ id, next.view.nodeState? id = some .broken ↔
        session.view.nodeState? id = some .broken ∨
          settle session.view gesture = .doubleClickNode id) ∧
      ∀ link, next.view.linkState? link = some .broken ↔
        session.view.linkState? link = some .broken ∨
          settle session.view gesture = .doubleClickLink link := by
  intro fresh session
  have hrun := broken_viewAfter topo gestures
  have hview : session.view = viewAfter topo (.ofTopology topo) gestures := by
    show (fresh.after gestures).view = _
    rw [after_eq]
    rfl
  refine ⟨fun id => ?_, fun link => ?_, fun gesture next hnext => ?_⟩
  · rw [hview, hrun.1, did_iff]
    rfl
  · rw [hview, hrun.2, did_iff]
    rfl
  · obtain ⟨view, hok, rfl⟩ := perform_eq_ok_iff.1 hnext
    exact ⟨nodeState?_eq_broken_iff hok, linkState?_eq_broken_iff hok⟩

end Session

end CellNet
