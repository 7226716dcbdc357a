import CellNet.Page
import CellNet.Session
import CellNet.Load
import CellNet.Json.Printer

/-!
# What a server answers

An answer is a page, a JSON body, a refusal, or nothing but a status. Refusals carry the text of
what went wrong, and their status tells its kind.
-/

namespace CellNet

structure Answer where
  status : Nat := 200
  contentType : Option String := none
  body : String := ""
deriving DecidableEq, Repr

namespace Server

/-- Why a request is refused. -/
inductive Refusal where
  /-- The name in the path is not UTF-8. -/
  | badName (parameter : String)
  /-- A load is in progress. -/
  | busy
  | load (failure : LoadFailure)
  | view (error : ViewError)
deriving DecidableEq, Repr

namespace Refusal

def message : Refusal → String
  | .badName parameter => "Invalid URL: Invalid UTF-8 in \x60" ++ parameter ++ "\x60"
  | .busy => "A visualization is already in progress"
  | .load failure => failure.message
  | .view error => error.message

/-- The status that tells the kind of a refusal. -/
def status : Refusal → Nat
  | .badName _ => 400
  | .busy => 409
  | .load (.load .nothingToShow) => 503
  | .load _ => 502
  | .view _ => 404

end Refusal

/-! ## Answers of each kind -/

def jsonAnswer (status : Nat) (body : Json) : Answer :=
  ⟨status, some "application/json", body.compact⟩

def pageAnswer (html : String) : Answer := ⟨200, some "text/html; charset=utf-8", html⟩

/-- A refusal. A bad name is told in plain text, all else as JSON. -/
def refusalAnswer (refusal : Refusal) : Answer :=
  match refusal with
  | .badName _ => ⟨refusal.status, some "text/plain; charset=utf-8", refusal.message⟩
  | _ => jsonAnswer refusal.status (.ofFields [("error", .ofText refusal.message)])

/-- Nothing but a status. -/
def emptyAnswer (status : Nat) : Answer := { status }

/-! ## Bodies -/

def namesJson (names : List String) : Json := .array (names.map .ofText)

def classesJson (view : View) : Json :=
  .ofFields (view.classMap.toList.map fun (id, cssClass) => (id, .ofText cssClass))

def highlightJson : Option Highlight → Json
  | none => .null
  | some h => .ofFields [
      ("tree", .ofText h.tree.name),
      ("root", .ofText h.root.name),
      ("nodes", namesJson (h.nodes.toList.map CellId.name)),
      ("links", namesJson (h.links.toList.map LinkId.text)),
      ("warnings", namesJson h.messages)]

def nodeJson (shape : NodeShape) : Json :=
  .ofFields [
    ("id", .ofText shape.id.name),
    ("cx", .ofFloat shape.center.x),
    ("cy", .ofFloat shape.center.y),
    ("is_border", .bool shape.isBorder),
    ("tooltip", .ofText shape.tooltip)]

def lineJson (shape : LineShape) : Json :=
  .ofFields [
    ("id", .ofText shape.id.text),
    ("x1", .ofFloat shape.start.x),
    ("y1", .ofFloat shape.start.y),
    ("x2", .ofFloat shape.stop.x),
    ("y2", .ofFloat shape.stop.y),
    ("tooltip", .ofText shape.tooltip)]

def sceneJson (scene : Scene) : Json :=
  .ofFields [
    ("width", .ofFloat scene.width),
    ("height", .ofFloat scene.height),
    ("radius", .ofFloat scene.radius),
    ("nodes", .array (scene.nodes.map nodeJson)),
    ("lines", .array (scene.lines.map lineJson)),
    ("stacked_trees", namesJson (scene.stackedTrees.map TreeId.name))]

/-- What a gesture comes to: the classes now and, if it drew one, the highlight. -/
def eventJson (view : View) (drawn : Option Highlight) : Json :=
  .ofFields [
    ("classes", classesJson view),
    ("highlight", highlightJson drawn),
    ("warnings", namesJson ((drawn.map Highlight.messages).getD []))]

/-- The scene of a session and its state. -/
def sessionJson (session : Session) : Json :=
  .ofFields [
    ("scene", sceneJson session.scene),
    ("classes", classesJson session.view),
    ("highlight", highlightJson session.view.active)]

end Server

end CellNet
