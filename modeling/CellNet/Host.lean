import CellNet.Load

/-!
# What the program asks of its machine

A host is the machine the program runs on, as far as the program needs it: files, a backend to ask,
an address to listen on, and two streams to print to. Nothing else in the program has an effect, so
a host that only keeps a file tree and two texts shows everything the program does.
-/

namespace CellNet

/-- The machine the program runs on. What is printed to the error stream is taken to arrive. -/
structure Host (m : Type → Type) where
  readFile : String → m (Except SystemError ByteArray)
  writeFile : String → String → m (Except SystemError Unit)
  fileExists : String → m Bool
  /-- Sets up what backends are asked with, or says why it cannot. -/
  client : m (Except String Unit)
  /-- Asks a backend, waiting for some seconds at most; `none` if nobody answers. -/
  request : Nat → Url → m (Option Response)
  /-- Listens on a port of the local address. -/
  listen : Nat → m (Except SystemError Unit)
  /-- Shows an address in a browser, or says why it cannot. -/
  openBrowser : String → m (Except String Unit)
  /-- Prints a text. If that fails, the beginning of the text may have been printed. -/
  print : String → m (Except SystemError Unit)
  printError : String → m Unit

/-- What to load, and how. -/
structure Origin where
  /-- The address of a backend, or a directory of documents. -/
  location : String := "http://127.0.0.1:8088/"
  /-- How many seconds to wait for a backend. -/
  timeout : Nat := 10
  options : LoadOptions := {}
deriving DecidableEq, Repr

variable {m : Type → Type} [Monad m]

def Source.fetch (source : Source) (host : Host m) (timeout : Nat) (document : Document) :
    m (Except SourceError String) := do
  let address := source.documentAt document
  match source with
  | .directory _ => return ofFile address (← host.readFile address)
  | .backend _ =>
    match Url.read? address with
    | none => return .error (.badAddress address)
    | some url =>
      if !url.forRequest.isRequestable then
        return .error (.notRequestable address url.forRequest)
      match ← host.request timeout url with
      | none => return .error (.noAnswer address url.forRequest)
      | some response => return ofResponse address response

/-- Gets ready to fetch; only a backend takes something to be asked with. -/
def Source.setUp (source : Source) (host : Host m) : m (Except String Unit) :=
  match source with
  | .backend _ => host.client
  | .directory _ => return .ok ()

def Host.loadTopology (host : Host m) (origin : Origin) : m (Except LoadFailure Topology) := do
  let source := Source.ofLocation origin.location
  match ← source.setUp host with
  | .error reason => return .error (.client reason)
  | .ok () =>
    let outcome ← load (source.fetch host origin.timeout) origin.options
    return outcome.mapError .load

end CellNet
