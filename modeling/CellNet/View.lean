import CellNet.Highlight

/-!
# The view

A view holds the visual state of every cell and link of a topology and the highlight on display.
Clicking a cell draws its black tree, showing a stacked tree draws that one, and either forgets what
was drawn before. A double click marks a cell or link as broken, and nothing takes that back: every
other change of state goes through `become`, which leaves broken elements alone. A request that
names something unknown is refused, and the view stays as it was.
-/

/-! ## Requests to a state -/

namespace EStateM

variable {ε σ α : Type}

/-- What comes of a request: the state it leaves if it is granted, the reason if it is refused. -/
def outcome (request : EStateM ε σ α) (state : σ) : Except ε σ :=
  match request.run state with
  | .ok _ next => .ok next
  | .error error _ => .error error

/-- The state a request leaves, granted or refused. -/
def leaves (request : EStateM ε σ α) (state : σ) : σ :=
  match request.run state with
  | .ok _ next => next
  | .error _ next => next

end EStateM

namespace CellNet

/-! ## States of elements -/

/-- The visual state of a cell. -/
inductive NodeState where
  | normal
  /-- Clicked: the root of the black tree on display. -/
  | root
  /-- On the stacked tree on display. -/
  | stacked
  /-- Out of order, for good. -/
  | broken
deriving DecidableEq, Repr

/-- The visual state of a link. -/
inductive LinkState where
  | normal
  | tree
  | stackedTree
  /-- Out of order, for good. -/
  | broken
deriving DecidableEq, Repr

namespace NodeState

/-- The class a cell is drawn with. -/
def cssClass : NodeState → (isBorder : Bool) → String
  | .normal, false => "node"
  | .normal, true => "nodeborder"
  | .root, false => "noderoot"
  | .root, true => "noderootborder"
  | .stacked, false => "nodestacked"
  | .stacked, true => "nodestackedborder"
  | .broken, _ => "nodebroken"

/-- The next state, unless the cell is broken. -/
def become (next : NodeState) : NodeState → NodeState
  | .broken => .broken
  | _ => next

end NodeState

namespace LinkState

/-- The class a link is drawn with. -/
def cssClass : LinkState → String
  | .normal => "link"
  | .tree => "linktree"
  | .stackedTree => "linkstackedtree"
  | .broken => "linkbroken"

/-- The next state, unless the link is broken. -/
def become (next : LinkState) : LinkState → LinkState
  | .broken => .broken
  | _ => next

/-- What a click makes of a link: it goes in and out of the tree style. -/
def toggle : LinkState → LinkState
  | .normal => .tree
  | .tree | .stackedTree => .normal
  | .broken => .broken

end LinkState

/-- A cell on display: its state, and whether it lies on the border. -/
structure NodeMark where
  state : NodeState
  isBorder : Bool
deriving DecidableEq, Repr

/-- The class a cell on display is drawn with. -/
def NodeMark.cssClass (mark : NodeMark) : String := mark.state.cssClass mark.isBorder

/-- The visual state of a topology. -/
structure View where
  nodes : Std.ExtTreeMap CellId NodeMark
  links : Std.ExtTreeMap LinkId LinkState
  /-- The highlight on display. -/
  active : Option Highlight
deriving DecidableEq

/-- Why a request is refused. -/
inductive ViewError where
  | unknownCell (id : CellId)
  /-- The text names no link on display. -/
  | unknownLink (text : String)
  | highlight (error : HighlightError)
deriving DecidableEq, Repr

def ViewError.message : ViewError → String
  | .unknownCell id => "Unknown cell: " ++ id.name
  | .unknownLink text => "Unknown link: " ++ text
  | .highlight error => error.message

namespace View

/-- Every cell and link of a topology, in normal state. -/
def ofTopology (topo : Topology) : View where
  nodes := topo.cells.map fun _ cell => ⟨.normal, cell.isBorder⟩
  links := topo.linkMap.map fun _ _ => .normal
  active := none

/-! ## Queries -/

def nodeState? (view : View) (id : CellId) : Option NodeState :=
  (view.nodes[id]?).map NodeMark.state

def linkState? (view : View) (id : LinkId) : Option LinkState := view.links[id]?

/-- The class a cell is drawn with; a cell that is not on display looks normal. -/
def nodeClass (view : View) (id : CellId) : String :=
  match view.nodes[id]? with
  | some mark => mark.cssClass
  | none => "node"

/-- The class a link is drawn with; a link that is not on display looks normal. -/
def linkClass (view : View) (id : LinkId) : String :=
  match view.links[id]? with
  | some state => state.cssClass
  | none => "link"

/-- The classes of all elements by element name, cells and links alike. Where a cell bears the name
of a link, the link's class is given. -/
def classMap (view : View) : Std.ExtTreeMap String String :=
  .ofList <|
    view.nodes.toList.map (fun (id, mark) => (id.name, mark.cssClass)) ++
      view.links.toList.map (fun (id, state) => (id.text, state.cssClass))

/-! ## Changes -/

/-- Gives each cell that `which` accepts a state, unless it is broken. -/
def markNodes (view : View) (which : CellId → Bool) (state : NodeState) : View :=
  { view with nodes := view.nodes.map fun id mark =>
      if which id then { mark with state := state.become mark.state } else mark }

/-- Gives each link that `which` accepts a state, unless it is broken. -/
def markLinks (view : View) (which : LinkId → Bool) (state : LinkState) : View :=
  { view with links := view.links.map fun id old =>
      if which id then state.become old else old }

/-- Takes every highlight off; what is broken stays broken. -/
def reset (view : View) : View :=
  { (view.markNodes (fun _ => true) .normal).markLinks (fun _ => true) .normal with
    active := none }

/-! ## Requests -/

/-- Refuses a cell that is not on display. -/
def requireNode (id : CellId) : EStateM ViewError View Unit := do
  unless id ∈ (← get).nodes do throw (.unknownCell id)

/-- The state of a link, which is refused if it is not on display. -/
def requireLink (id : LinkId) : EStateM ViewError View LinkState := do
  match (← get).links[id]? with
  | some state => return state
  | none => throw (.unknownLink id.text)

/-- Selects a cell as root and draws its black tree over a reset view. -/
def clickNode (topo : Topology) (id : CellId) : EStateM ViewError View Highlight := do
  requireNode id
  modify reset
  modify (·.markNodes (· = id) .root)
  let found := topo.blackHighlight id
  modify (·.markLinks (· ∈ found.links) .tree)
  modify ({ · with active := some found })
  return found

def doubleClickNode (id : CellId) : EStateM ViewError View Unit := do
  requireNode id
  modify fun view => { view with nodes := view.nodes.modify id ({ · with state := .broken }) }

/-- Switches a link in or out of the tree style, whatever the trees say, and tells its new state. -/
def clickLink (id : LinkId) : EStateM ViewError View LinkState := do
  let state ← requireLink id
  modify fun view => { view with links := view.links.modify id LinkState.toggle }
  return state.toggle

def doubleClickLink (id : LinkId) : EStateM ViewError View Unit := do
  let _ ← requireLink id
  modify fun view => { view with links := view.links.modify id fun _ => .broken }

/-- Draws a stacked tree over a reset view. -/
def showStacked (topo : Topology) (tree : TreeId) : EStateM ViewError View Highlight := do
  let found ← ofExcept ((topo.stackedHighlight tree).mapError .highlight)
  modify reset
  modify (·.markNodes (· ∈ found.nodes) .stacked)
  modify (·.markLinks (· ∈ found.links) .stackedTree)
  modify ({ · with active := some found })
  return found

end View

end CellNet
