import CellNet.Console
import CellNet.Host
import CellNet.Host.Network

/-!
# This machine

The host a program really runs on: its files, its network, and the two streams it prints to.
-/

namespace CellNet.Local

open Network

/-- Whether a path leads to something: then it can be opened, or there is another reason why not
than the path. -/
def fileExists (path : String) : IO Bool := do
  match ← attempt (IO.FS.Handle.mk path .read) with
  | .ok _ => return true
  | .error error =>
    return error.kind ∉ [.notFound, .notADirectory, .invalidName, .invalidInput]

/-- Prints to a stream, at once. -/
def printTo (stream : IO.FS.Stream) (text : String) : IO Unit := do
  stream.putStr text
  stream.flush

/-- This machine, keeping the socket it listens on. It has no way to open a browser. -/
def host (listener : IO.Ref (Option Listener)) : Host IO where
  readFile path := attempt (IO.FS.readBinFile path)
  writeFile path content := attempt (IO.FS.writeFile path content)
  fileExists := fileExists
  client := return .ok ()
  request := Network.request
  listen port := attempt do listener.set (some (← Network.listen port))
  openBrowser _ := return .error "no browser is known"
  print text := attempt do printTo (← IO.getStdout) text
  printError text := do printTo (← IO.getStderr) text

/-- Messages are coloured on a terminal, unless the environment has it otherwise. -/
def console : IO Console := do
  let isPlain := (← IO.getEnv "NO_COLOR").isSome
  return ⟨(← (← IO.getStdout).isTty) && !isPlain⟩

end CellNet.Local
