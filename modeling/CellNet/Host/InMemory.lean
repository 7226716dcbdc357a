import CellNet.Host

/-!
# A machine in memory

A host whose files, backend and streams are values: what a run of the program does is a function
from one such machine to another, so it can be stated and tried without a real one. Its files are
those of a file tree, without links and permissions; its output stream may break in the middle of a
text, and what is printed before that stays.
-/

namespace CellNet

structure InMemory where
  files : FileTree := {}
  /-- Why nothing can be set up to ask backends with, if so. -/
  clientError : Option String := none
  /-- What a backend answers, if one is there. -/
  backend : Url → Option Response := fun _ => none
  /-- The requests backends have answered. -/
  requests : List Url := []
  /-- Whether somebody listens on a port. -/
  isTaken : Nat → Bool := fun _ => false
  /-- Whether the output stream breaks on a text, given what it has taken, and after how many
  characters of it. -/
  breaks : (taken text : String) → Option Nat := fun _ _ => none
  output : String := ""
  errors : String := ""

namespace InMemory

/-- Writes a file, if its place can be written to. -/
def writeFile (machine : InMemory) (path content : String) :
    Except SystemError Unit × InMemory :=
  match machine.files.write path content.toUTF8 with
  | .error error => (.error error, machine)
  | .ok files => (.ok (), { machine with files })

def request (machine : InMemory) (url : Url) : Option Response × InMemory :=
  match machine.backend url with
  | none => (none, machine)
  | some response => (some response, { machine with requests := machine.requests ++ [url] })

/-- The first characters of a text. -/
def beginning (text : String) (count : Nat) : String := String.ofList (text.toList.take count)

/-- Prints a text, or as much of it as the output stream takes. -/
def print (machine : InMemory) (text : String) : Except SystemError Unit × InMemory :=
  match machine.breaks machine.output text with
  | none => (.ok (), { machine with output := machine.output ++ text })
  | some count =>
    (.error .brokenPipe, { machine with output := machine.output ++ beginning text count })

def host : Host (StateM InMemory) where
  readFile path := fun machine => (machine.files.read path, machine)
  writeFile path content := fun machine => machine.writeFile path content
  fileExists path := fun machine => (machine.files.exists? path, machine)
  client := fun machine =>
    (match machine.clientError with
      | none => .ok ()
      | some reason => .error reason, machine)
  request _ url := fun machine => machine.request url
  listen port := fun machine =>
    (if machine.isTaken port then .error .addressInUse else .ok (), machine)
  openBrowser _ := fun machine => (.ok (), machine)
  print text := fun machine => machine.print text
  printError text := fun machine => ((), { machine with errors := machine.errors ++ text })

end InMemory

end CellNet
