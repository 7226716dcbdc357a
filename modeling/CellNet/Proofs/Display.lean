import CellNet.Proofs.Runs

/-!
# The display

**Theorem (`view_shows`).** After any run, what a view looks like is determined by the drawing done
last and by what is broken. After a reset, or when nothing was drawn, every cell is normal or
broken. After a click on a cell the black tree of that cell is on display, the cell is the root or
broken, and every other cell is normal or broken. After a stacked tree was shown it is on display,
the stacked cells are its nodes that are not broken, and every other cell is normal or broken. A
link looks like one of a stacked tree only if it belongs to the tree on display. So there is never
more than one root, and never a root beside a stacked cell.

Every drawing gives each cell a target state (`Follows`), and a cell that is not broken is in its
target state. The gestures that draw nothing only break elements and take links in and out of the
tree style, so they keep the targets.
-/

namespace CellNet

/-! ## What was drawn last -/

/-- What the latest drawing among the gestures done has put on display. -/
def latestExhibit (done : List (View × Gesture)) : Exhibit :=
  (done.filterMap fun step => step.2.exhibit?).getLast?.getD .nothing

theorem latestExhibit_snoc (done : List (View × Gesture)) (view : View) (gesture : Gesture) :
    latestExhibit (done ++ [(view, gesture)]) = gesture.exhibit?.getD (latestExhibit done) := by
  rw [latestExhibit, List.filterMap_append]
  cases h : gesture.exhibit? with
  | none => simp [h, latestExhibit]
  | some exhibit => simp [h]

namespace View

variable {view next : View} {topo : Topology} {node target : CellId → NodeState}
  {stacked : LinkId → Prop} {active : Option Highlight}

/-! ## How it looks -/

/-- A cell, if it is on display, is normal or broken. -/
def Plain (view : View) (id : CellId) : Prop :=
  ∀ state, view.nodeState? id = some state → state = .normal ∨ state = .broken

/-- How a view looks with an exhibit on display. -/
def Shows (view : View) (topo : Topology) : Exhibit → Prop
  | .nothing =>
    view.active = none ∧ (∀ id, view.Plain id) ∧
      ∀ link, view.linkState? link ≠ some .stackedTree
  | .blackTree root =>
    view.active = some (topo.blackHighlight root) ∧
      (view.nodeState? root = some .root ∨ view.nodeState? root = some .broken) ∧
      (∀ id, id ≠ root → view.Plain id) ∧
      ∀ link, view.linkState? link ≠ some .stackedTree
  | .stackedTree tree =>
    ∃ found, topo.stackedHighlight tree = .ok found ∧ view.active = some found ∧
      (∀ id, view.nodeState? id = some .stacked ↔
        id ∈ found.nodes ∧ view.nodeState? id ≠ some .broken) ∧
      (∀ id, view.nodeState? id ≠ some .stacked → view.Plain id) ∧
      ∀ link, view.linkState? link = some .stackedTree → link ∈ found.links

/-! ## Targets -/

/-- Every cell on display is in its target state or broken, only some links may look like links of
a stacked tree, and a given highlight is on display. -/
structure Follows (view : View) (target : CellId → NodeState) (stacked : LinkId → Prop)
    (active : Option Highlight) : Prop where
  nodes : ∀ id state, view.nodeState? id = some state → state = target id ∨ state = .broken
  links : ∀ link, view.linkState? link = some .stackedTree → stacked link
  active : view.active = active

/-- A drawing sets the targets. -/
theorem Changed.follows (target : CellId → NodeState) (line : LinkId → LinkState)
    (h : view.Changed next (fun id => (target id).become) (fun link => (line link).become) active)
    (hline : ∀ link, line link = .stackedTree → stacked link) :
    next.Follows target stacked active where
  nodes id state hstate := by
    rw [h.nodes, Option.map_eq_some_iff] at hstate
    obtain ⟨old, -, rfl⟩ := hstate
    exact NodeState.become_eq_or (target id) old
  links link hstate := by
    rw [h.links, Option.map_eq_some_iff] at hstate
    obtain ⟨old, -, hold⟩ := hstate
    rcases LinkState.become_eq_or (line link) old with heq | heq
    · exact hline link (heq ▸ hold)
    · rw [heq] at hold; cases hold
  active := h.active

/-- A gesture that only breaks cells and makes no link look like one of a stacked tree keeps the
targets. -/
theorem Follows.changed {node : CellId → NodeState → NodeState}
    {line : LinkId → LinkState → LinkState} (h : view.Follows target stacked active)
    (hc : view.Changed next node line view.active)
    (hnode : ∀ id state, node id state = state ∨ node id state = .broken)
    (hline : ∀ link state, line link state = .stackedTree → state = .stackedTree) :
    next.Follows target stacked active where
  nodes id state hstate := by
    rw [hc.nodes, Option.map_eq_some_iff] at hstate
    obtain ⟨old, hold, rfl⟩ := hstate
    rcases hnode id old with heq | heq
    · rw [heq]; exact h.nodes id old hold
    · exact Or.inr heq
  links link hstate := by
    rw [hc.links, Option.map_eq_some_iff] at hstate
    obtain ⟨old, hold, heq⟩ := hstate
    exact h.links link (hold.trans (congrArg some (hline link old heq)))
  active := hc.active.trans h.active

/-- The targets an exhibit sets. -/
def Displays (view : View) (topo : Topology) : Exhibit → Prop
  | .nothing => view.Follows (fun _ => .normal) (fun _ => False) none
  | .blackTree root =>
    root ∈ topo.cells ∧
      view.Follows (fun id => if id = root then .root else .normal) (fun _ => False)
        (some (topo.blackHighlight root))
  | .stackedTree tree =>
    ∃ found, topo.stackedHighlight tree = .ok found ∧
      view.Follows (fun id => if id ∈ found.nodes then .stacked else .normal) (· ∈ found.links)
        (some found)

theorem Displays.changed {exhibit : Exhibit} {node : CellId → NodeState → NodeState}
    {line : LinkId → LinkState → LinkState} (h : view.Displays topo exhibit)
    (hc : view.Changed next node line view.active)
    (hnode : ∀ id state, node id state = state ∨ node id state = .broken)
    (hline : ∀ link state, line link state = .stackedTree → state = .stackedTree) :
    next.Displays topo exhibit := by
  cases exhibit with
  | nothing => exact Follows.changed h hc hnode hline
  | blackTree root => exact ⟨h.1, h.2.changed hc hnode hline⟩
  | stackedTree tree =>
    obtain ⟨found, hfound, hfollows⟩ := h
    exact ⟨found, hfound, hfollows.changed hc hnode hline⟩

/-! ## Along a run -/

theorem displays_ofTopology (topo : Topology) : (ofTopology topo).Displays topo .nothing where
  nodes id state h := by
    rw [nodeState?_ofTopology, Option.map_eq_some_iff] at h
    obtain ⟨_, -, rfl⟩ := h
    exact Or.inl rfl
  links link h := by
    rw [linkState?_ofTopology, Option.map_eq_some_iff] at h
    obtain ⟨_, -, h⟩ := h
    cases h
  active := rfl

theorem exhibit?_settle (view : View) (gesture : Gesture) :
    (Session.settle view gesture).exhibit? = gesture.exhibit? := by
  cases gesture with
  | markBroken name =>
    rcases Session.resolveBroken_eq view name with ⟨link, h⟩ | h <;>
      rw [Session.settle, h] <;> rfl
  | _ => rfl

/-- A gesture that is carried out puts its exhibit on display, or keeps the one on display. -/
theorem displays_step {exhibit : Exhibit} {gesture : Gesture} (hview : view.Of topo)
    (h : view.Displays topo exhibit) (hok : Session.changeView topo view gesture = .ok next) :
    next.Displays topo (gesture.exhibit?.getD exhibit) := by
  rw [← Session.changeView_settle] at hok
  rw [← exhibit?_settle view gesture]
  cases hg : Session.settle view gesture <;> rw [hg] at hok
  case clickNode root =>
    obtain ⟨hroot, hchanged⟩ := clickNode_eq_ok (Session.changeView_clickNode root ▸ hok)
    refine ⟨(hview.nodes root).1 (mem_nodes_iff.1 hroot), hchanged.follows _ _ fun link hlink => ?_⟩
    split_ifs at hlink
  case showStacked tree =>
    obtain ⟨found, hfound, hchanged⟩ :=
      showStacked_eq_ok (Session.changeView_showStacked tree ▸ hok)
    refine ⟨found, hfound, hchanged.follows _ _ fun link hlink => ?_⟩
    by_contra hnot
    rw [if_neg hnot] at hlink
    cases hlink
  case reset =>
    have hchanged := Except.ok.inj hok ▸ view.reset_changed
    exact hchanged.follows (fun _ => .normal) (fun _ => .normal) fun _ => LinkState.noConfusion
  case doubleClickNode id =>
    rw [Session.changeView_doubleClickNode] at hok
    refine h.changed (doubleClickNode_eq_ok hok).2 (fun c state => ?_) fun _ _ hs => hs
    split_ifs <;> simp
  case clickLink id =>
    rw [Session.changeView_clickLink] at hok
    refine h.changed (clickLink_eq_ok hok).2 (fun _ _ => Or.inl rfl) fun link state hs => ?_
    split_ifs at hs
    · exact absurd hs (LinkState.toggle_ne_stackedTree state)
    · exact hs
  case doubleClickLink id =>
    rw [Session.changeView_doubleClickLink] at hok
    refine h.changed (doubleClickLink_eq_ok hok).2 (fun _ _ => Or.inl rfl) fun link state hs => ?_
    split_ifs at hs
    exact hs
  case markBroken name => exact absurd hg (Session.settle_ne_markBroken view gesture name)

/-- A view that follows the targets of an exhibit looks as the exhibit says. -/
theorem Displays.shows {exhibit : Exhibit} (hview : view.Of topo)
    (h : view.Displays topo exhibit) : view.Shows topo exhibit := by
  -- A cell whose target state is a given one is in that state or broken, if it is placed.
  have hplaced : ∀ {target stacked active}, view.Follows target stacked active →
      ∀ id ∈ topo.cells, view.nodeState? id = some (target id) ∨
        view.nodeState? id = some .broken := by
    intro target stacked active hfollows id hid
    obtain ⟨state, hstate⟩ := Option.isSome_iff_exists.1 ((hview.nodes id).2 hid)
    rw [hstate, Option.some.injEq, Option.some.injEq]
    exact hfollows.nodes id state hstate
  cases exhibit with
  | nothing => exact ⟨h.active, h.nodes, h.links⟩
  | blackTree root =>
    obtain ⟨hroot, hfollows⟩ := h
    refine ⟨hfollows.active, ?_, fun id hid state hstate => ?_, hfollows.links⟩
    · simpa using hplaced hfollows root hroot
    · simpa [hid] using hfollows.nodes id state hstate
  | stackedTree tree =>
    obtain ⟨found, hfound, hfollows⟩ := h
    refine ⟨found, hfound, hfollows.active, fun id => ?_, fun id hid state hstate => ?_,
      hfollows.links⟩
    · constructor
      · intro hstate
        rcases hfollows.nodes id _ hstate with heq | heq
        · refine ⟨?_, by simp [hstate]⟩
          by_contra hnot
          rw [if_neg hnot] at heq
          cases heq
        · cases heq
      · rintro ⟨hmem, hbroken⟩
        obtain ⟨start, -, hclosure⟩ := Topology.exists_marksClosure_of_eq_ok hfound
        have hcell := Topology.mem_cells_of_carries ((hclosure.nodes id).1 hmem).carries
        rcases hplaced hfollows id hcell with hstate | hstate
        · rwa [if_pos hmem] at hstate
        · exact absurd hstate hbroken
    · have htarget := hfollows.nodes id state hstate
      split_ifs at htarget
      · rcases htarget with rfl | hbroken
        · exact absurd hstate hid
        · exact Or.inr hbroken
      · exact htarget

/-- Nothing shows two roots, or a root beside a stacked cell. -/
theorem Shows.root_unique {exhibit : Exhibit} (h : view.Shows topo exhibit) (a b : CellId) :
    ¬ (view.nodeState? a = some .root ∧
      (view.nodeState? b = some .root ∧ a ≠ b ∨ view.nodeState? b = some .stacked)) := by
  have hplain : ∀ id, view.Plain id → view.nodeState? id ≠ some .root ∧
      view.nodeState? id ≠ some .stacked :=
    fun id hid => ⟨fun hs => by simpa using hid _ hs, fun hs => by simpa using hid _ hs⟩
  cases exhibit with
  | nothing => exact fun ⟨ha, _⟩ => (hplain a (h.2.1 a)).1 ha
  | blackTree root =>
    obtain ⟨-, -, hother, -⟩ := h
    have hroot : ∀ id, view.nodeState? id = some .root → id = root := fun id hid => by
      by_contra hne
      exact (hplain id (hother id hne)).1 hid
    rintro ⟨ha, ⟨hb, hne⟩ | hb⟩
    · exact hne ((hroot a ha).trans (hroot b hb).symm)
    · by_cases hbr : b = root
      · rw [hbr, ← hroot a ha, ha] at hb; cases hb
      · exact (hplain b (hother b hbr)).2 hb
  | stackedTree tree =>
    obtain ⟨found, -, -, -, hother, -⟩ := h
    rintro ⟨ha, -⟩
    exact (hplain a (hother a (by simp [ha]))).1 ha

/-- **What a view shows** after any run is the exhibit drawn last, and there is never more than one
root nor a root beside a stacked cell. -/
theorem view_shows (topo : Topology) (gestures : List Gesture) :
    let view := Session.viewAfter topo (ofTopology topo) gestures
    let done := Session.carriedOut topo (ofTopology topo) gestures
    view.Shows topo (latestExhibit done) ∧
      (∀ a b, ¬ (view.nodeState? a = some .root ∧ view.nodeState? b = some .root ∧ a ≠ b)) ∧
      ∀ a b, ¬ (view.nodeState? a = some .root ∧ view.nodeState? b = some .stacked) := by
  intro view done
  have hinv : view.Of topo ∧ view.Displays topo (latestExhibit done) := by
    refine Session.run_induction
      (motive := fun view done => view.Of topo ∧ view.Displays topo (latestExhibit done))
      ⟨of_ofTopology topo, displays_ofTopology topo⟩ (fun view next gesture done h hok => ?_)
      gestures
    rw [latestExhibit_snoc]
    exact ⟨Session.of_changeView h.1 hok, displays_step h.1 h.2 hok⟩
  have hshows := hinv.2.shows hinv.1
  exact ⟨hshows, fun a b h => hshows.root_unique a b ⟨h.1, Or.inl h.2⟩,
    fun a b h => hshows.root_unique a b ⟨h.1, Or.inr h.2⟩⟩

end View

end CellNet
