import CellNet.Session
import CellNet.Proofs.Closure

/-!
# What a gesture does to a view

Every gesture that is carried out changes the states of cells and links one by one: the state of an
element afterwards is a function of its name and its state before (`Changed`). There is one lemma
for each request, saying when it is granted, what becomes of each element, and what is on display
afterwards. Marking a name as broken comes down to one of the double clicks (`settle`), and only
these break anything. A drawing gives every element a state to become (`exists_drawing`), and no
gesture does anything to an element that depends on the rest of the view (`exists_uniform_change`).

The elements of a view are those of its topology (`View.Of`); no gesture adds or removes any.
-/

/-! ## Outcomes -/

namespace EStateM

variable {ε σ α : Type}

theorem outcome_eq_ok_iff {request : EStateM ε σ α} {state next : σ} :
    request.outcome state = .ok next ↔ ∃ value, request.run state = .ok value next := by
  rw [outcome]
  cases request.run state <;> simp

theorem outcome_eq_error_iff {request : EStateM ε σ α} {state : σ} {error : ε} :
    request.outcome state = .error error ↔ ∃ next, request.run state = .error error next := by
  rw [outcome]
  cases request.run state <;> simp

theorem leaves_of_outcome {request : EStateM ε σ α} {state next : σ}
    (h : request.outcome state = .ok next) : request.leaves state = next := by
  obtain ⟨value, hrun⟩ := outcome_eq_ok_iff.1 h
  rw [leaves, hrun]

@[simp] theorem outcome_map {β : Type} (f : α → β) (request : EStateM ε σ α) (state : σ) :
    (f <$> request).outcome state = request.outcome state := by
  simp only [outcome, run, Functor.map, EStateM.map]
  cases request state <;> rfl

/-- A request is atomic if it has changed nothing when it is refused. -/
def IsAtomic (request : EStateM ε σ α) : Prop :=
  ∀ ⦃state error next⦄, request.run state = .error error next → next = state

theorem IsAtomic.map {β : Type} {request : EStateM ε σ α} (h : request.IsAtomic) (f : α → β) :
    (f <$> request).IsAtomic := fun state error next hrun => by
  simp only [run, Functor.map, EStateM.map] at hrun
  cases hstate : request state with
  | ok value left => rw [hstate] at hrun; cases hrun
  | error reason left =>
    rw [hstate] at hrun
    cases hrun
    exact h hstate

/-- What looks first, and cannot be refused once it has begun to change things, is atomic. -/
theorem IsAtomic.bind {β : Type} {look : EStateM ε σ α} {act : α → EStateM ε σ β}
    (h : look.IsAtomic)
    (hact : ∀ value state, ∃ result next, (act value).run state = .ok result next) :
    (look >>= act).IsAtomic := fun state error left hrun => by
  rw [run_bind] at hrun
  cases hlook : look.run state with
  | ok value next =>
    obtain ⟨result, last, hgranted⟩ := hact value next
    simp only [hlook] at hrun
    rw [hgranted] at hrun
    cases hrun
  | error reason next =>
    simp only [hlook] at hrun
    cases hrun
    exact h hlook

theorem isAtomic_ofExcept (outcome : Except ε α) :
    (ofExcept outcome : EStateM ε σ α).IsAtomic := fun state error left hrun => by
  cases outcome with
  | ok value => cases hrun
  | error reason =>
    cases hrun
    rfl

theorem IsAtomic.leaves_of_outcome {request : EStateM ε σ α} (h : request.IsAtomic) {state : σ}
    {error : ε} (houtcome : request.outcome state = .error error) :
    request.leaves state = state := by
  obtain ⟨next, hrun⟩ := outcome_eq_error_iff.1 houtcome
  rw [leaves, hrun]
  exact h hrun

end EStateM

namespace CellNet

/-! ## Becoming -/

namespace NodeState

@[simp] theorem become_normal_become (next s : NodeState) :
    next.become (NodeState.normal.become s) = next.become s := by
  cases s <;> rfl

theorem become_eq_or (next s : NodeState) : next.become s = next ∨ next.become s = .broken := by
  cases s <;> simp [become]

theorem become_eq_broken_iff {next s : NodeState} :
    next.become s = .broken ↔ next = .broken ∨ s = .broken := by
  cases s <;> simp [become]

end NodeState

namespace LinkState

@[simp] theorem become_normal_become (next s : LinkState) :
    next.become (LinkState.normal.become s) = next.become s := by
  cases s <;> rfl

theorem become_eq_or (next s : LinkState) : next.become s = next ∨ next.become s = .broken := by
  cases s <;> simp [become]

theorem become_eq_broken_iff {next s : LinkState} :
    next.become s = .broken ↔ next = .broken ∨ s = .broken := by
  cases s <;> simp [become]

theorem toggle_eq_broken_iff {s : LinkState} : s.toggle = .broken ↔ s = .broken := by
  cases s <;> simp [toggle]

theorem toggle_ne_stackedTree (s : LinkState) : s.toggle ≠ .stackedTree := by
  cases s <;> simp [toggle]

end LinkState

/-! ## Drawings -/

/-- What a view may have on display. -/
inductive Exhibit where
  | nothing
  | blackTree (root : CellId)
  | stackedTree (tree : TreeId)
deriving DecidableEq, Repr

/-- What a gesture puts on display; `none` for one that draws nothing. -/
def Gesture.exhibit? : Gesture → Option Exhibit
  | .clickNode id => some (.blackTree id)
  | .showStacked tree => some (.stackedTree tree)
  | .reset => some .nothing
  | .doubleClickNode _ | .clickLink _ | .doubleClickLink _ | .markBroken _ => none

namespace View

variable {view next : View} {topo : Topology} {id : CellId} {link : LinkId} {tree : TreeId}

/-! ## Elements -/

theorem mem_nodes_iff : id ∈ view.nodes ↔ (view.nodeState? id).isSome := by
  rw [nodeState?, Option.isSome_map, Std.ExtTreeMap.mem_iff_isSome_getElem?]

theorem mem_links_iff : link ∈ view.links ↔ (view.linkState? link).isSome := by
  rw [linkState?, Std.ExtTreeMap.mem_iff_isSome_getElem?]

/-- The elements of a view are the cells and links of a topology. -/
structure Of (view : View) (topo : Topology) : Prop where
  nodes : ∀ id, (view.nodeState? id).isSome ↔ id ∈ topo.cells
  links : ∀ link, (view.linkState? link).isSome ↔ link ∈ topo.linkMap

@[simp] theorem nodeState?_ofTopology : (ofTopology topo).nodeState? id =
    (topo.cells[id]?).map fun _ => .normal := by
  rw [ofTopology, nodeState?, Std.ExtTreeMap.getElem?_map, Option.map_map]; rfl

@[simp] theorem linkState?_ofTopology : (ofTopology topo).linkState? link =
    (topo.linkMap[link]?).map fun _ => .normal := by
  simp [ofTopology, linkState?]

theorem of_ofTopology (topo : Topology) : (ofTopology topo).Of topo where
  nodes id := by simp
  links link := by simp

/-! ## Changes element by element -/

/-- The next view has the same elements, each in a state that its name and its state before
determine, and a given highlight on display. -/
structure Changed (view next : View) (node : CellId → NodeState → NodeState)
    (line : LinkId → LinkState → LinkState) (active : Option Highlight) : Prop where
  nodes : ∀ id, next.nodeState? id = (view.nodeState? id).map (node id)
  links : ∀ link, next.linkState? link = (view.linkState? link).map (line link)
  active : next.active = active

theorem Changed.of {node : CellId → NodeState → NodeState} {line : LinkId → LinkState → LinkState}
    {active : Option Highlight} (h : view.Changed next node line active) (hview : view.Of topo) :
    next.Of topo where
  nodes id := by rw [h.nodes, Option.isSome_map, hview.nodes]
  links link := by rw [h.links, Option.isSome_map, hview.links]

@[simp] theorem nodeState?_markNodes (which : CellId → Bool) (state : NodeState) :
    (view.markNodes which state).nodeState? id =
      (view.nodeState? id).map fun s => if which id then state.become s else s := by
  simp only [markNodes, nodeState?, Std.ExtTreeMap.getElem?_map, Option.map_map]
  refine congrArg (Option.map · _) (funext fun mark => ?_)
  by_cases h : which id <;> simp [h]

@[simp] theorem linkState?_markNodes (which : CellId → Bool) (state : NodeState) :
    (view.markNodes which state).linkState? link = view.linkState? link := rfl

@[simp] theorem nodeState?_markLinks (which : LinkId → Bool) (state : LinkState) :
    (view.markLinks which state).nodeState? id = view.nodeState? id := rfl

@[simp] theorem linkState?_markLinks (which : LinkId → Bool) (state : LinkState) :
    (view.markLinks which state).linkState? link =
      (view.linkState? link).map fun s => if which link then state.become s else s := by
  simp [markLinks, linkState?]

theorem reset_changed (view : View) :
    view.Changed view.reset (fun _ => NodeState.normal.become) (fun _ => LinkState.normal.become)
      none where
  nodes id := by
    show ((view.markNodes (fun _ => true) .normal).markLinks (fun _ => true) .normal).nodeState?
      id = _
    simp
  links link := by
    show ((view.markNodes (fun _ => true) .normal).markLinks (fun _ => true) .normal).linkState?
      link = _
    simp
  active := rfl

/-- Drawing over a reset view gives the marked elements a state and makes the others normal. -/
theorem drawn_changed (view : View) (node : NodeState) (line : LinkState)
    (whichNode : CellId → Bool) (whichLink : LinkId → Bool) (active : Option Highlight) :
    view.Changed
      { (view.reset.markNodes whichNode node).markLinks whichLink line with active }
      (fun id => NodeState.become (if whichNode id then node else .normal))
      (fun link => LinkState.become (if whichLink link then line else .normal)) active where
  nodes id := by
    show ((view.reset.markNodes whichNode node).markLinks whichLink line).nodeState? id = _
    rw [nodeState?_markLinks, nodeState?_markNodes, view.reset_changed.nodes, Option.map_map]
    refine congrArg (Option.map · _) (funext fun s => ?_)
    by_cases h : whichNode id <;> simp [h]
  links link := by
    show ((view.reset.markNodes whichNode node).markLinks whichLink line).linkState? link = _
    rw [linkState?_markLinks, linkState?_markNodes, view.reset_changed.links, Option.map_map]
    refine congrArg (Option.map · _) (funext fun s => ?_)
    by_cases h : whichLink link <;> simp [h]
  active := rfl

/-! ## Requests

Every request that can be refused is refused before it changes anything. -/

theorem run_requireNode : (requireNode id).run view =
    if id ∈ view.nodes then .ok () view else .error (.unknownCell id) view := by
  by_cases h : id ∈ view.nodes <;> simp [requireNode, h]

theorem run_requireLink : (requireLink link).run view =
    match view.links[link]? with
    | some state => .ok state view
    | none => .error (.unknownLink link.text) view := by
  simp only [requireLink, EStateM.run_bind, EStateM.run_get]
  cases view.links[link]? <;> rfl

theorem run_clickNode : (clickNode topo id).run view =
    if id ∈ view.nodes then
      .ok (topo.blackHighlight id)
        { (view.reset.markNodes (· = id) .root).markLinks
            (· ∈ (topo.blackHighlight id).links) .tree with
          active := some (topo.blackHighlight id) }
    else .error (.unknownCell id) view := by
  rw [clickNode, EStateM.run_bind, run_requireNode]
  split_ifs <;> rfl

theorem run_doubleClickNode : (doubleClickNode id).run view =
    if id ∈ view.nodes then
      .ok () { view with nodes := view.nodes.modify id ({ · with state := .broken }) }
    else .error (.unknownCell id) view := by
  rw [doubleClickNode, EStateM.run_bind, run_requireNode]
  split_ifs <;> rfl

theorem run_clickLink : (clickLink link).run view =
    match view.links[link]? with
    | some state =>
      .ok state.toggle { view with links := view.links.modify link LinkState.toggle }
    | none => .error (.unknownLink link.text) view := by
  rw [clickLink, EStateM.run_bind, run_requireLink]
  cases view.links[link]? <;> rfl

theorem run_doubleClickLink : (doubleClickLink link).run view =
    match view.links[link]? with
    | some _ => .ok () { view with links := view.links.modify link fun _ => .broken }
    | none => .error (.unknownLink link.text) view := by
  rw [doubleClickLink, EStateM.run_bind, run_requireLink]
  cases view.links[link]? <;> rfl

theorem run_showStacked : (showStacked topo tree).run view =
    match topo.stackedHighlight tree with
    | .ok found =>
      .ok found
        { (view.reset.markNodes (· ∈ found.nodes) .stacked).markLinks (· ∈ found.links)
            .stackedTree with
          active := some found }
    | .error error => .error (.highlight error) view := by
  rw [showStacked, EStateM.run_bind]
  cases topo.stackedHighlight tree <;> rfl

theorem isAtomic_requireNode : (requireNode id).IsAtomic := fun view error next h => by
  rw [run_requireNode] at h
  split_ifs at h
  exact (EStateM.Result.error.inj h).2.symm

theorem isAtomic_requireLink : (requireLink link).IsAtomic := fun view error next h => by
  rw [run_requireLink] at h
  split at h
  · cases h
  · exact (EStateM.Result.error.inj h).2.symm

theorem isAtomic_clickNode : (clickNode topo id).IsAtomic :=
  isAtomic_requireNode.bind fun _ _ => ⟨_, _, rfl⟩

theorem isAtomic_doubleClickNode : (doubleClickNode id).IsAtomic :=
  isAtomic_requireNode.bind fun _ _ => ⟨_, _, rfl⟩

theorem isAtomic_clickLink : (clickLink link).IsAtomic :=
  isAtomic_requireLink.bind fun _ _ => ⟨_, _, rfl⟩

theorem isAtomic_doubleClickLink : (doubleClickLink link).IsAtomic :=
  isAtomic_requireLink.bind fun _ _ => ⟨_, _, rfl⟩

theorem isAtomic_showStacked : (showStacked topo tree).IsAtomic :=
  (EStateM.isAtomic_ofExcept _).bind fun _ _ => ⟨_, _, rfl⟩

theorem clickNode_eq_ok (h : (clickNode topo id).outcome view = .ok next) :
    id ∈ view.nodes ∧
      view.Changed next (fun c => NodeState.become (if c = id then .root else .normal))
        (fun l => LinkState.become (if l ∈ (topo.blackHighlight id).links then .tree else .normal))
        (some (topo.blackHighlight id)) := by
  obtain ⟨found, h⟩ := EStateM.outcome_eq_ok_iff.1 h
  rw [run_clickNode] at h
  split_ifs at h with hid
  cases h
  refine ⟨hid, ?_⟩
  simpa using view.drawn_changed .root .tree (· = id) (· ∈ (topo.blackHighlight id).links)
    (some (topo.blackHighlight id))

theorem showStacked_eq_ok (h : (showStacked topo tree).outcome view = .ok next) :
    ∃ found, topo.stackedHighlight tree = .ok found ∧
      view.Changed next (fun c => NodeState.become (if c ∈ found.nodes then .stacked else .normal))
        (fun l => LinkState.become (if l ∈ found.links then .stackedTree else .normal))
        (some found) := by
  obtain ⟨drawn, h⟩ := EStateM.outcome_eq_ok_iff.1 h
  rw [run_showStacked] at h
  cases hfound : topo.stackedHighlight tree with
  | error error => rw [hfound] at h; cases h
  | ok found =>
    rw [hfound] at h
    obtain ⟨-, rfl⟩ := EStateM.Result.ok.inj h
    refine ⟨found, rfl, ?_⟩
    simpa using view.drawn_changed .stacked .stackedTree (· ∈ found.nodes) (· ∈ found.links)
      (some found)

theorem doubleClickNode_eq_ok (h : (doubleClickNode id).outcome view = .ok next) :
    id ∈ view.nodes ∧
      view.Changed next (fun c s => if c = id then .broken else s) (fun _ s => s) view.active := by
  obtain ⟨_, h⟩ := EStateM.outcome_eq_ok_iff.1 h
  rw [run_doubleClickNode] at h
  split_ifs at h with hid
  cases h
  refine ⟨hid, fun c => ?_, fun l => by simp [linkState?], rfl⟩
  simp only [nodeState?, Std.ExtTreeMap.getElem?_modify, Std.LawfulEqOrd.compare_eq_iff_eq]
  by_cases hc : c = id
  · subst hc; simp [Function.comp_def]
  · simp [hc, Ne.symm hc, Function.comp_def]

/-- Changing one link leaves the rest of the view as it is. -/
theorem modifyLink_changed (view : View) (link : LinkId) (change : LinkState → LinkState) :
    view.Changed { view with links := view.links.modify link change } (fun _ s => s)
      (fun l s => if l = link then change s else s) view.active where
  nodes c := by simp [nodeState?, Function.comp_def]
  links l := by
    simp only [linkState?, Std.ExtTreeMap.getElem?_modify, Std.LawfulEqOrd.compare_eq_iff_eq]
    by_cases hl : l = link
    · subst hl; simp
    · simp [hl, Ne.symm hl]
  active := rfl

theorem clickLink_eq_ok (h : (clickLink link).outcome view = .ok next) :
    link ∈ view.links ∧
      view.Changed next (fun _ s => s) (fun l s => if l = link then s.toggle else s)
        view.active := by
  obtain ⟨_, h⟩ := EStateM.outcome_eq_ok_iff.1 h
  rw [run_clickLink] at h
  cases hlink : view.links[link]? with
  | none => rw [hlink] at h; cases h
  | some state =>
    rw [hlink] at h
    cases h
    exact ⟨mem_links_iff.2 (Option.isSome_of_eq_some hlink), view.modifyLink_changed link _⟩

theorem doubleClickLink_eq_ok (h : (doubleClickLink link).outcome view = .ok next) :
    link ∈ view.links ∧
      view.Changed next (fun _ s => s) (fun l s => if l = link then .broken else s)
        view.active := by
  obtain ⟨_, h⟩ := EStateM.outcome_eq_ok_iff.1 h
  rw [run_doubleClickLink] at h
  cases hlink : view.links[link]? with
  | none => rw [hlink] at h; cases h
  | some state =>
    rw [hlink] at h
    cases h
    exact ⟨mem_links_iff.2 (Option.isSome_of_eq_some hlink), view.modifyLink_changed link _⟩

end View

/-! ## Gestures -/

namespace Session

variable {view next : View} {topo : Topology} {gesture : Gesture} {name : String}

/-- What comes of a gesture on a view. -/
def changeView (topo : Topology) (view : View) (gesture : Gesture) : Except ViewError View :=
  (requestView topo gesture).outcome view

@[simp] theorem changeView_clickNode (id : CellId) :
    changeView topo view (.clickNode id) = (View.clickNode topo id).outcome view :=
  EStateM.outcome_map ..

@[simp] theorem changeView_doubleClickNode (id : CellId) :
    changeView topo view (.doubleClickNode id) = (View.doubleClickNode id).outcome view :=
  EStateM.outcome_map ..

@[simp] theorem changeView_clickLink (link : LinkId) :
    changeView topo view (.clickLink link) = (View.clickLink link).outcome view :=
  EStateM.outcome_map ..

@[simp] theorem changeView_doubleClickLink (link : LinkId) :
    changeView topo view (.doubleClickLink link) = (View.doubleClickLink link).outcome view :=
  EStateM.outcome_map ..

@[simp] theorem changeView_showStacked (tree : TreeId) :
    changeView topo view (.showStacked tree) = (View.showStacked topo tree).outcome view :=
  EStateM.outcome_map ..

@[simp] theorem changeView_reset : changeView topo view .reset = .ok view.reset := rfl

/-- The gesture a gesture comes down to: marking a name as broken is one of the double clicks. -/
def settle (view : View) : Gesture → Gesture
  | .markBroken name => resolveBroken view name
  | gesture => gesture

/-- A name to be broken is a link on display, or else taken for a cell. -/
theorem resolveBroken_eq (view : View) (name : String) :
    (∃ link, resolveBroken view name = .doubleClickLink link) ∨
      resolveBroken view name = .doubleClickNode ⟨name⟩ := by
  rw [resolveBroken]
  split
  · split_ifs
    · exact Or.inl ⟨_, rfl⟩
    · exact Or.inr rfl
  · exact Or.inr rfl

theorem run_settle (topo : Topology) (view : View) (gesture : Gesture) :
    (requestView topo (settle view gesture)).run view = (requestView topo gesture).run view := by
  cases gesture with
  | markBroken name =>
    rw [settle, requestView, EStateM.run_bind, EStateM.run_get]
    rcases resolveBroken_eq view name with ⟨link, h⟩ | h <;> simp only [h, requestView]
  | _ => rfl

theorem changeView_settle (topo : Topology) (view : View) (gesture : Gesture) :
    changeView topo view (settle view gesture) = changeView topo view gesture := by
  rw [changeView, EStateM.outcome, run_settle]
  rfl

theorem settle_ne_markBroken (view : View) (gesture : Gesture) (name : String) :
    settle view gesture ≠ .markBroken name := by
  cases gesture with
  | markBroken given =>
    rw [settle]
    rcases resolveBroken_eq view given with ⟨link, h⟩ | h <;> rw [h] <;> exact Gesture.noConfusion
  | _ => exact Gesture.noConfusion

theorem isAtomic_requestView (topo : Topology) (gesture : Gesture) :
    (requestView topo gesture).IsAtomic := by
  cases gesture with
  | clickNode => exact View.isAtomic_clickNode.map _
  | doubleClickNode => exact View.isAtomic_doubleClickNode.map _
  | clickLink => exact View.isAtomic_clickLink.map _
  | doubleClickLink => exact View.isAtomic_doubleClickLink.map _
  | showStacked => exact View.isAtomic_showStacked.map _
  | reset => exact fun view error next h => nomatch h
  | markBroken name =>
    intro view error next h
    rw [← run_settle, settle] at h
    rcases resolveBroken_eq view name with ⟨link, hlink⟩ | hcell
    · rw [hlink] at h
      exact View.isAtomic_doubleClickLink.map _ h
    · rw [hcell] at h
      exact View.isAtomic_doubleClickNode.map _ h

/-- A drawing gives every cell and link a state to become, whatever the view looks like. It breaks
nothing. -/
theorem exists_drawing (topo : Topology) (hdraws : gesture.exhibit?.isSome) :
    ∃ (target : CellId → NodeState) (line : LinkId → LinkState) (active : Option Highlight),
      (∀ id, target id ≠ .broken) ∧ (∀ link, line link ≠ .broken) ∧
      ∀ view next, changeView topo view gesture = .ok next → view.Changed next
        (fun id => (target id).become) (fun link => (line link).become) active := by
  cases gesture with
  | clickNode root =>
    refine ⟨_, _, _, fun id => ?_, fun link => ?_,
      fun view next h => (View.clickNode_eq_ok (changeView_clickNode root ▸ h)).2⟩
    · split_ifs <;> simp
    · split_ifs <;> simp
  | showStacked tree =>
    cases hfound : topo.stackedHighlight tree with
    | error reason =>
      -- No view grants the request, so any targets will do.
      refine ⟨fun _ => .normal, fun _ => .normal, none, by simp, by simp, fun view next h => ?_⟩
      rw [changeView_showStacked] at h
      obtain ⟨found, hok, -⟩ := View.showStacked_eq_ok h
      rw [hfound] at hok
      cases hok
    | ok found =>
      refine ⟨fun id => if id ∈ found.nodes then .stacked else .normal,
        fun link => if link ∈ found.links then .stackedTree else .normal, some found,
        fun id => ?_, fun link => ?_, fun view next h => ?_⟩
      · by_cases hid : id ∈ found.nodes <;> simp [hid]
      · by_cases hlink : link ∈ found.links <;> simp [hlink]
      · rw [changeView_showStacked] at h
        obtain ⟨found', hok, hchanged⟩ := View.showStacked_eq_ok h
        rw [hfound, Except.ok.injEq] at hok
        exact hok ▸ hchanged
  | reset =>
    exact ⟨fun _ => .normal, fun _ => .normal, none, by simp, by simp,
      fun view next h => Except.ok.inj h ▸ view.reset_changed⟩
  | doubleClickNode | clickLink | doubleClickLink | markBroken => cases hdraws

/-- A gesture changes every view it is carried out on in the same way, element by element. It breaks
the element it is a double click on, and neither breaks nor repairs any other. -/
theorem exists_uniform_change (topo : Topology) (hgesture : ∀ name, gesture ≠ .markBroken name) :
    ∃ (node : CellId → NodeState → NodeState) (line : LinkId → LinkState → LinkState)
      (shown : Option Highlight → Option Highlight),
      (∀ view next, changeView topo view gesture = .ok next →
        view.Changed next node line (shown view.active)) ∧
      (∀ id s, node id s = .broken ↔ s = .broken ∨ gesture = .doubleClickNode id) ∧
      ∀ link s, line link s = .broken ↔ s = .broken ∨ gesture = .doubleClickLink link := by
  by_cases hdraws : gesture.exhibit?.isSome
  · obtain ⟨target, line, active, htarget, hline, hchanged⟩ := exists_drawing topo hdraws
    refine ⟨_, _, fun _ => active, hchanged, fun id s => ?_, fun link s => ?_⟩
    · rw [NodeState.become_eq_broken_iff]
      have hne : gesture ≠ .doubleClickNode id := by rintro rfl; cases hdraws
      simp [htarget, hne]
    · rw [LinkState.become_eq_broken_iff]
      have hne : gesture ≠ .doubleClickLink link := by rintro rfl; cases hdraws
      simp [hline, hne]
  cases gesture with
  | clickNode | showStacked | reset => exact absurd rfl hdraws
  | doubleClickNode hit =>
    refine ⟨_, _, id,
      fun view next h => (View.doubleClickNode_eq_ok (changeView_doubleClickNode hit ▸ h)).2,
      fun id s => ?_, fun link s => by simp⟩
    split_ifs with hid
    · simp [hid]
    · simp [Ne.symm hid]
  | clickLink clicked =>
    refine ⟨_, _, id,
      fun view next h => (View.clickLink_eq_ok (changeView_clickLink clicked ▸ h)).2,
      fun id s => by simp, fun link s => ?_⟩
    split_ifs <;> simp [LinkState.toggle_eq_broken_iff]
  | doubleClickLink hit =>
    refine ⟨_, _, id,
      fun view next h => (View.doubleClickLink_eq_ok (changeView_doubleClickLink hit ▸ h)).2,
      fun id s => by simp, fun link s => ?_⟩
    split_ifs with hlink
    · simp [hlink]
    · simp [Ne.symm hlink]
  | markBroken name => exact absurd rfl (hgesture name)

/-- A gesture that is carried out changes a view element by element. It breaks the element it comes
down to a double click on, and neither breaks nor repairs any other. -/
theorem exists_changed (h : changeView topo view gesture = .ok next) :
    ∃ node line active, view.Changed next node line active ∧
      (∀ id s, node id s = .broken ↔ s = .broken ∨ settle view gesture = .doubleClickNode id) ∧
      ∀ link s, line link s = .broken ↔
        s = .broken ∨ settle view gesture = .doubleClickLink link := by
  obtain ⟨node, line, shown, hchanged, hbroken⟩ :=
    exists_uniform_change topo (settle_ne_markBroken view gesture)
  rw [← changeView_settle] at h
  exact ⟨node, line, shown view.active, hchanged view next h, hbroken⟩

theorem of_changeView (hview : view.Of topo) (h : changeView topo view gesture = .ok next) :
    next.Of topo := by
  obtain ⟨node, line, active, hchanged, -⟩ := exists_changed h
  exact hchanged.of hview

end Session

end CellNet
