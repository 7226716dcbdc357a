import CellNet.View
import CellNet.Scene
import CellNet.Link.Reader

/-!
# Sessions

A session is one loaded topology with its scene and its view. A load starts a fresh session; after
that only the view changes, one gesture at a time.
-/

namespace CellNet

/-- Something a user does to a session. -/
inductive Gesture where
  | clickNode (id : CellId)
  | doubleClickNode (id : CellId)
  | clickLink (id : LinkId)
  | doubleClickLink (id : LinkId)
  | showStacked (tree : TreeId)
  | reset
  /-- Marks whatever a text names as broken: a link on display, or else a cell. -/
  | markBroken (name : String)
deriving DecidableEq, Repr

/-- A loaded topology, what is drawn for it, and how it looks now. -/
structure Session where
  topology : Topology
  scene : Scene
  view : View

namespace Session

def start (topo : Topology) (layout : Layout) : Session :=
  ⟨topo, .ofTopology topo layout, .ofTopology topo⟩

/-- The gesture that marking a name as broken comes down to: a double click on the link the name
reads as, if it is on display, and otherwise on the cell of that name. -/
def resolveBroken (view : View) (name : String) : Gesture :=
  match LinkId.read? name with
  | some link => if link ∈ view.links then .doubleClickLink link else .doubleClickNode ⟨name⟩
  | none => .doubleClickNode ⟨name⟩

/-- Performs a gesture on a view; gives the highlight it drew, if it draws one. -/
def requestView (topo : Topology) : Gesture → EStateM ViewError View (Option Highlight)
  | .clickNode id => some <$> View.clickNode topo id
  | .doubleClickNode id => (fun _ => none) <$> View.doubleClickNode id
  | .clickLink id => (fun _ => none) <$> View.clickLink id
  | .doubleClickLink id => (fun _ => none) <$> View.doubleClickLink id
  | .showStacked tree => some <$> View.showStacked topo tree
  | .reset => (fun _ => none) <$> modify View.reset
  | .markBroken name => do
    match resolveBroken (← get) name with
    | .doubleClickLink link => (fun _ => none) <$> View.doubleClickLink link
    | _ => (fun _ => none) <$> View.doubleClickNode ⟨name⟩

/-- Performs a gesture on the view of a session, which takes over whatever state that leaves. -/
def request (gesture : Gesture) : EStateM ViewError Session (Option Highlight) := fun session =>
  match (requestView session.topology gesture).run session.view with
  | .ok drawn view => .ok drawn { session with view }
  | .error error view => .error error { session with view }

/-- What comes of a gesture. -/
def perform (session : Session) (gesture : Gesture) : Except ViewError Session :=
  (request gesture).outcome session

/-- The session a gesture leaves, granted or refused. -/
def attempt (session : Session) (gesture : Gesture) : Session := (request gesture).leaves session

end Session

end CellNet
