import CellNet.Document.Shape
import CellNet.Source
import CellNet.Topology

/-!
# Loading a topology

The documents are asked for one at a time, in their order, and loading ends at the first that fails.

**Geometry** places the cells; without any there is nothing to show. **Topology** gives the placed
cells their neighbours. **The tree documents** give them their trees; each can be left out, and one
that is not found counts as left out. What a document says about cells that are not placed is
passed over, and so is everything in it that belongs to another document.
-/

namespace CellNet

/-- Why a topology could not be loaded. -/
inductive LoadError where
  /-- The geometry places no cells. -/
  | nothingToShow
  | fetch (document : Document) (error : SourceError)
  /-- The document has another shape, or is not JSON at all. -/
  | malformed (document : Document) (detail : String)
deriving DecidableEq, Repr

namespace LoadError

def document : LoadError → Document
  | .nothingToShow => .geometry
  | .fetch document _ => document
  | .malformed document _ => document

def message : LoadError → String
  | .nothingToShow => "Nothing to show.  Run simulator, and try again."
  | .fetch document error => "The " ++ document.label ++ " stage failed: " ++ error.message
  | .malformed document detail =>
    "The " ++ document.label ++ " stage returned malformed JSON: " ++ detail

end LoadError

/-- Why a load has not given a topology. -/
inductive LoadFailure where
  /-- What a backend is asked with could not be set up, so nothing was asked for. -/
  | client (reason : String)
  | load (error : LoadError)
deriving DecidableEq, Repr

def LoadFailure.message : LoadFailure → String
  | .client reason => "Source error: Failed to build HTTP client: " ++ reason
  | .load error => error.message

/-- Which tree documents to ask for. -/
structure LoadOptions where
  blackTrees : Bool := true
  stackedTrees : Bool := true
deriving DecidableEq, Repr

/-! ## What each document adds -/

/-- The cell that is placed there, without neighbours and trees. -/
def Placement.cell (place : Placement) (id : CellId) : Cell :=
  { id, row := place.row, col := place.col, isBorder := place.isBorder }

namespace Topology

/-- The placed cells of a geometry. -/
def ofGeometry (geometry : Geometry) : Topology :=
  geometry.cells.toList.foldl (fun topo (id, place) => topo.place (place.cell id))
    (empty.reportLimits geometry.maxRow geometry.maxCol)

def addNeighbors (topo : Topology) (records : CellRecords) : Topology :=
  records.toList.foldl (fun topo (id, record) => (topo.setNeighbors id record.neighbors).2) topo

/-- Takes one family of trees from a document about cells. -/
def addTrees (topo : Topology) (kind : TreeKind) (records : CellRecords) : Topology :=
  records.toList.foldl
    (fun topo (id, record) =>
      let trees := match kind with
        | .black => record.blackTrees
        | .stacked => record.stackedTrees
      (topo.setTrees kind id trees).2)
    topo

end Topology

/-! ## The stages -/

namespace Load

/-- What is said about a text that is not the document it should be. -/
def complaint (text : String) : String :=
  if (Json.read? text).isSome then "the document has another shape" else "the text is not JSON"

/-- Reads what was fetched as a document. -/
def receive {α : Type} (document : Document) (read : String → Option α)
    (answer : Except SourceError String) : Except LoadError α :=
  match answer with
  | .error error => .error (.fetch document error)
  | .ok text =>
    match read text with
    | some value => .ok value
    | none => .error (.malformed document (complaint text))

/-- The topology the geometry document starts, if it places any cell. -/
def startWith (answer : Except SourceError String) : Except LoadError Topology := do
  let geometry ← receive .geometry Geometry.read? answer
  if geometry.cells.isEmpty then .error .nothingToShow else .ok (.ofGeometry geometry)

/-- Adds the neighbours of the topology document. -/
def connect (topo : Topology) (answer : Except SourceError String) :
    Except LoadError Topology :=
  (receive .topology CellRecords.read? answer).map topo.addNeighbors

def treeDocument : TreeKind → Document
  | .black => .blackTree
  | .stacked => .stackedTree

/-- Adds the trees of a tree document; one that is not found adds nothing. -/
def overlay (topo : Topology) (kind : TreeKind) (answer : Except SourceError String) :
    Except LoadError Topology :=
  match receive (treeDocument kind) CellRecords.read? answer with
  | .ok records => .ok (topo.addTrees kind records)
  | .error (.fetch document error) =>
    if error.isNotFound then .ok topo else .error (.fetch document error)
  | .error error => .error error

/-- The families of trees that are asked for. -/
def overlays (options : LoadOptions) : List TreeKind :=
  (if options.blackTrees then [.black] else []) ++ if options.stackedTrees then [.stacked] else []

variable {m : Type → Type} [Monad m]

/-- Adds the trees of several families, one document at a time. -/
def addOverlays (fetch : Document → m (Except SourceError String)) :
    List TreeKind → Topology → m (Except LoadError Topology)
  | [], topo => return .ok topo
  | kind :: kinds, topo => do
    match overlay topo kind (← fetch (treeDocument kind)) with
    | .error error => return .error error
    | .ok topo => addOverlays fetch kinds topo

end Load

def load {m : Type → Type} [Monad m] (fetch : Document → m (Except SourceError String))
    (options : LoadOptions) : m (Except LoadError Topology) := do
  match Load.startWith (← fetch .geometry) with
  | .error error => return .error error
  | .ok topo =>
    match Load.connect topo (← fetch .topology) with
    | .error error => return .error error
    | .ok topo => Load.addOverlays fetch (Load.overlays options) topo

namespace Load

/-- Answers a request from a table and notes it down. -/
def recording (answer : Document → Except SourceError String) (document : Document) :
    StateM (List Document) (Except SourceError String) :=
  fun requested => (answer document, requested ++ [document])

/-- Loads a topology from a table of answers; also the documents that were asked for, in order. -/
def withRequests (answer : Document → Except SourceError String) (options : LoadOptions) :
    Except LoadError Topology × List Document :=
  (load (recording answer) options).run []

end Load

end CellNet
