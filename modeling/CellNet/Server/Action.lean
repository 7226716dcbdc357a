import CellNet.Session
import CellNet.Url

/-!
# What a server is asked to do

A request names a method and a path. The path alone decides the action; an action answers to one
method only. Some paths hold the name of a cell, a link or a tree, percent-encoded.
-/

namespace CellNet

structure Request where
  method : String
  /-- The path, perhaps with a query or a fragment behind it; a whole address may stand here too. -/
  target : String
deriving DecidableEq, Repr

namespace Server

/-- What a path stands for. Names are as they stand in the path. -/
inductive Action where
  /-- The page. -/
  | page
  /-- The scene and its state. -/
  | scene
  /-- Loading everything again. -/
  | reload
  | reset
  | clickNode (name : String)
  | doubleClickNode (name : String)
  | clickLink (name : String)
  | doubleClickLink (name : String)
  | showStacked (name : String)
deriving DecidableEq, Repr

namespace Action

/-- The method an action answers to. -/
def method : Action → String
  | .page | .scene => "GET"
  | _ => "POST"

/-- The names in a path, and before them the empty text in front of the first slash. -/
def names (path : String) : List String := (Text.parts '/' path.toList).map String.ofList

/-- The action a path stands for. A name between two others may be empty, one at the end may not. -/
def ofPath? (path : String) : Option Action :=
  match names path with
  | ["", ""] => some .page
  | ["", "api", "scene"] => some .scene
  | ["", "api", "visualize"] => some .reload
  | ["", "api", "reset"] => some .reset
  | ["", "api", "node", name, "click"] => some (.clickNode name)
  | ["", "api", "node", name, "dblclick"] => some (.doubleClickNode name)
  | ["", "api", "link", name, "click"] => some (.clickLink name)
  | ["", "api", "link", name, "dblclick"] => some (.doubleClickLink name)
  | ["", "api", "stacked", name] => if name.isEmpty then none else some (.showStacked name)
  | _ => none

end Action

/-- The path of a request, without its query and its fragment. Of a whole address, the scheme and
the server are passed over. -/
def path (request : Request) : String :=
  let target := request.target.toList
  let isPath (c : Char) : Bool := c ≠ '?' && c ≠ '#'
  match Url.cut (fun c => c = '/' ∨ c = ':') target with
  | (_, ':' :: '/' :: '/' :: rest) =>
    let path := (rest.dropWhile fun c => c ≠ '/' && isPath c).takeWhile isPath
    if path.isEmpty then "/" else String.ofList path
  | _ => String.ofList (target.takeWhile isPath)

end Server

end CellNet
