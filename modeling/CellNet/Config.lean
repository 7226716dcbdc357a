import CellNet.Host
import CellNet.Layout
import CellNet.Toml.Reader

/-!
# Configuration

A directory may hold a configuration file. It has three tables, all optional like each entry in
them: where to load from, how to lay out the drawing, and on which port to serve. What is not given
keeps its default. The layout is checked once the file has been read: all its numbers have to be
finite, and scale and radius positive.
-/

namespace CellNet

/-- The settings of the program. -/
structure Config where
  origin : Origin := {}
  layout : Layout := {}
  port : Nat := 3000

/-- Why there are no settings. -/
inductive ConfigError where
  | unreadable (error : SystemError)
  /-- The file is not TOML, or an entry has another type. -/
  | malformed (detail : String)
  | badLayout
deriving DecidableEq, Repr

namespace ConfigError

def message : ConfigError → String
  | .unreadable error => "Failed to read config file: " ++ error.text
  | .malformed detail => "Failed to parse config file: " ++ detail
  | .badLayout => "Invalid layout: values must be finite, and scale and radius positive"

end ConfigError

namespace Config

def fileName : String := ".cellviz.toml"

/-! ## Reading -/

/-- An entry that may be left out. -/
def entry? {α : Type} (read : Toml → Option α) : Option Toml → Option (Option α)
  | none => some none
  | some value => (read value).map some

/-- A number; a whole number of up to 64 bits will do. -/
def number? : Toml → Option Float
  | .float x => some x
  | .integer n =>
    if -(Nat.pow 2 63 : Int) ≤ n ∧ n < (Nat.pow 2 64 : Int) then
      some (Decimal.nearest (n < 0) n.natAbs 0)
    else none
  | _ => none

def readSource? (config : Config) (table : Toml) : Option Config := do
  let [location, timeout, black, stacked] ←
    table.fields? ["base_url", "timeout_secs", "black_trees", "stacked_trees"] | none
  let old := config.origin
  return { config with
    origin :=
      { location := (← entry? Toml.text? location).getD old.location
        timeout := (← entry? (Toml.natBelow? Text.Unsigned.limit) timeout).getD old.timeout
        options :=
          { blackTrees := (← entry? Toml.bool? black).getD old.options.blackTrees
            stackedTrees := (← entry? Toml.bool? stacked).getD old.options.stackedTrees } } }

def readLayout? (config : Config) (table : Toml) : Option Config := do
  let [x, y, scale, radius] ← table.fields? ["origin_x", "origin_y", "scale", "radius"] | none
  let old := config.layout
  return { config with
    layout :=
      { originX := (← entry? number? x).getD old.originX
        originY := (← entry? number? y).getD old.originY
        scale := (← entry? number? scale).getD old.scale
        radius := (← entry? number? radius).getD old.radius } }

def readServe? (config : Config) (table : Toml) : Option Config := do
  let [port] ← table.fields? ["port"] | none
  return { config with port := (← entry? (Toml.natBelow? 65536) port).getD config.port }

/-- Takes over a table that may be left out. -/
def readTable? (read : Config → Toml → Option Config) (config : Config) :
    Option Toml → Option Config
  | none => some config
  | some table => read config table

/-- The settings a document gives, the defaults filled in. -/
def ofToml? (document : Toml) : Option Config := do
  let [source, layout, serve] ← document.fields? ["source", "layout", "serve"] | none
  let config ← readTable? readSource? {} source
  let config ← readTable? readLayout? config layout
  readTable? readServe? config serve

def isDrawable (layout : Layout) : Bool :=
  [layout.originX, layout.originY, layout.scale, layout.radius].all Float.isFinite
    && layout.scale > 0 && layout.radius > 0

/-- What is said about a text that is no configuration file. -/
def complaint (text : String) : String :=
  if (Toml.read? text).isSome then "an entry could not be understood" else "the text is not TOML"

def read (text : String) : Except ConfigError Config :=
  match (Toml.read? text).bind ofToml? with
  | none => .error (.malformed (complaint text))
  | some config => if isDrawable config.layout then .ok config else .error .badLayout

/-- The settings in a directory; the defaults if it has no configuration file. -/
def load {m : Type → Type} [Monad m] (host : Host m) (directory : String) :
    m (Except ConfigError Config) := do
  let path := FileTree.join directory fileName
  if ← host.fileExists path then
    match ← host.readFile path with
    | .error error => return .error (.unreadable error)
    | .ok bytes =>
      match String.fromUTF8? bytes with
      | none => return .error (.unreadable .notText)
      | some text => return read text
  else return .ok {}

/-! ## The file to start from -/

/-- A configuration file that says what the defaults are. -/
def template : String :=
  "# cellviz configuration\n\n"
    ++ "[source]\n"
    ++ "# Topology backend, or a directory holding geometry.json, topology.json,\n"
    ++ "# black_tree.json and stack_treed.json\n"
    ++ "base_url = \"http://127.0.0.1:8088/\"\n"
    ++ "timeout_secs = 10\n"
    ++ "black_trees = true\n"
    ++ "stacked_trees = true\n\n"
    ++ "[layout]\n"
    ++ "# Cell (row, col) is drawn at (origin_x + col * scale, origin_y + row * scale)\n"
    ++ "origin_x = 50.0\n"
    ++ "origin_y = 50.0\n"
    ++ "scale = 50.0\n"
    ++ "radius = 10.0\n\n"
    ++ "[serve]\n"
    ++ "port = 3000\n"

end Config

end CellNet
