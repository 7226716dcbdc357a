import CellNet.SystemError
import CellNet.Text.Split
import Std.Data.ExtTreeMap

/-!
# File trees

A file tree says what lies at each place below the root: a file with its content, or a directory. A
place is the list of names on the way to it. A path is resolved name by name, from the working
directory or, if it begins with a slash, from the root, and every name but the last has to lead to a
directory that is there. There are no links, and everything may be read and written: what fails,
fails because of the path.

A failed write changes nothing, and a successful one changes the content of one file only, as its
result is the old tree with one place set (`write`).
-/

namespace CellNet

/-- What lies at a place. -/
inductive FileNode where
  | file (content : ByteArray)
  | directory

/-- Files and directories by place, and the working directory. -/
structure FileTree where
  nodes : Std.ExtTreeMap (List String) FileNode := ∅
  workingDirectory : List String := []

namespace FileTree

def join (path name : String) : String :=
  if path.isEmpty then name
  else if path.toList.getLast? = some '/' then path ++ name
  else path ++ "/" ++ name

/-! ## Resolving paths -/

/-- What lies at a place; the root is a directory. -/
def node? (tree : FileTree) (place : List String) : Option FileNode :=
  if place.isEmpty then some .directory else tree.nodes[place]?

/-- The longest name, in bytes. -/
def nameLimit : Nat := 255

/-- One more than the longest path, in bytes. -/
def pathLimit : Nat := 4096

/-- Follows one name from a place. -/
def follow (tree : FileTree) (place : List String) (name : String) :
    Except SystemError (List String) :=
  match tree.node? place with
  | none => .error .missing
  | some (.file _) => .error .notDirectory
  | some .directory =>
    if name = "" ∨ name = "." then .ok place
    else if name = ".." then .ok place.dropLast
    else if name.utf8ByteSize > nameLimit then .error .nameTooLong
    else .ok (place ++ [name])

def names (path : String) : List String := (Text.parts '/' path.toList).map String.ofList

/-- The place where a path begins, unless the path as a whole makes no sense. -/
def start (tree : FileTree) (path : String) : Except SystemError (List String) :=
  if '\x00' ∈ path.toList then .error .nullInName
  else if path.isEmpty then .error .missing
  else if path.utf8ByteSize ≥ pathLimit then .error .nameTooLong
  else .ok (if path.toList.head? = some '/' then [] else tree.workingDirectory)

/-- The place a path leads to, whether there is something or not. -/
def resolve (tree : FileTree) (path : String) : Except SystemError (List String) := do
  (names path).foldlM tree.follow (← tree.start path)

/-! ## Operations -/

def exists? (tree : FileTree) (path : String) : Bool :=
  match tree.resolve path with
  | .ok place => (tree.node? place).isSome
  | .error _ => false

def read (tree : FileTree) (path : String) : Except SystemError ByteArray := do
  match tree.node? (← tree.resolve path) with
  | none => .error .missing
  | some .directory => .error .directory
  | some (.file content) => .ok content

/-- Whether a path asks for a directory by the slash at its end. -/
def hasSlash (path : String) : Bool := path.toList.getLast? = some '/'

/-- The names in front of the last one of a path with slashes at its end. -/
def namesAbove (path : String) : List String :=
  (((names path).reverse.dropWhile (·.isEmpty)).drop 1).reverse

/-- The place a file is written to: the file has to be there already, or its directory. A path that
ends in a slash asks for a directory, so no file is written to it, and its last name is not even
looked at. -/
def writePlace (tree : FileTree) (path : String) : Except SystemError (List String) := do
  let start ← tree.start path
  if hasSlash path then
    let above ← (namesAbove path).foldlM tree.follow start
    discard (tree.follow above ".")
    .error .directory
  else
    let place ← (names path).foldlM tree.follow start
    if tree.node? place matches some .directory then .error .directory else .ok place

/-- Writes a file, replacing what it held. -/
def write (tree : FileTree) (path : String) (content : ByteArray) :
    Except SystemError FileTree := do
  let place ← tree.writePlace path
  return { tree with nodes := tree.nodes.insert place (.file content) }

/-! ## Building trees -/

/-- Adds a node and the directories on the way to it. -/
def put (tree : FileTree) (place : List String) (node : FileNode) : FileTree :=
  let above := (List.range place.length).map place.take
  let nodes := above.foldl (fun nodes dir => nodes.insertIfNew dir .directory) tree.nodes
  { tree with nodes := nodes.insert place node }

/-- Takes away what lies at a place and below it. -/
def delete (tree : FileTree) (place : List String) : FileTree :=
  { tree with nodes := tree.nodes.filter fun other _ => !place.isPrefixOf other }

end FileTree

end CellNet
