import CellNet.CommandLine.Grammar
import CellNet.Tree

/-!
# The command line

There are four commands. Three of them load a topology, from a source that can be named; they draw
it, serve it, or summarise it. The fourth writes a configuration file to start from. The word `help`
in place of a command asks for help, on the command that follows it if there is one.
-/

namespace CellNet

/-- Where a command loads from. -/
structure SourceArguments where
  /-- Takes the place of the configured location. -/
  location : Option String := none
  /-- The directory of the configuration file. -/
  configDirectory : String := "."
  skipsBlackTrees : Bool := false
  skipsStackedTrees : Bool := false
deriving DecidableEq, Repr

/-- What a drawing is written as. -/
inductive DrawingFormat where
  | svg
  | html
deriving DecidableEq, Repr

/-- What a summary is written as. -/
inductive SummaryFormat where
  | markdown
  | json
deriving DecidableEq, Repr

/-- The tree a drawing shows. -/
inductive ShownTree where
  /-- The black tree of a cell. -/
  | blackOf (cell : CellId)
  | stacked (tree : TreeId)
deriving DecidableEq, Repr

/-- What to draw, and where to write it. -/
structure RenderArguments where
  source : SourceArguments := {}
  shown : Option ShownTree := none
  /-- Names of cells and links to mark as broken. -/
  broken : List String := []
  format : DrawingFormat := .svg
  /-- A file; the drawing is printed if there is none. -/
  output : Option String := none
deriving DecidableEq, Repr

/-- What to serve, and where. -/
structure ServeArguments where
  source : SourceArguments := {}
  /-- Takes the place of the configured port. -/
  port : Option Nat := none
  opensBrowser : Bool := false
deriving DecidableEq, Repr

/-- What to summarise, and where to write it. -/
structure SummaryArguments where
  source : SourceArguments := {}
  format : SummaryFormat := .markdown
  /-- A file; the summary is printed if there is none. -/
  output : Option String := none
deriving DecidableEq, Repr

inductive Command where
  | render (arguments : RenderArguments)
  | serve (arguments : ServeArguments)
  | summary (arguments : SummaryArguments)
  /-- Writes a configuration file into a directory. -/
  | init (directory : String)
deriving DecidableEq, Repr

namespace CommandLine

/-! ## What each command takes -/

/-- The switches of commands that load a topology. -/
def sourceSwitches : List Switch := [
  ⟨"source", some 's', .value .text⟩,
  ⟨"config", none, .value .path⟩,
  ⟨"no-black-trees", none, .flag⟩,
  ⟨"no-stacked-trees", none, .flag⟩]

def outputSwitch : Switch := ⟨"output", some 'o', .value .path⟩

def formatSwitch (formats : List String) : Switch := ⟨"format", some 'f', .value (.choice formats)⟩

def renderGrammar : Grammar where
  switches := sourceSwitches ++ [
    ⟨"root", none, .value .text⟩,
    ⟨"stacked", none, .value .text⟩,
    ⟨"broken", none, .values .text⟩,
    formatSwitch ["svg", "html"],
    outputSwitch,
    helpSwitch]
  excluding := [("root", "stacked")]

def serveGrammar : Grammar where
  switches := sourceSwitches ++ [
    ⟨"port", some 'p', .value .port⟩,
    ⟨"open", none, .flag⟩,
    helpSwitch]

def summaryGrammar : Grammar where
  switches := sourceSwitches ++ [formatSwitch ["markdown", "json"], outputSwitch, helpSwitch]

def initGrammar : Grammar where
  switches := [helpSwitch]
  argument := some ("path", .path)

/-! ## What was given -/

def sourceArguments (given : Given) : SourceArguments where
  location := given.value? "source"
  configDirectory := (given.value? "config").getD "."
  skipsBlackTrees := given.has "no-black-trees"
  skipsStackedTrees := given.has "no-stacked-trees"

def shownTree (given : Given) : Option ShownTree :=
  ((given.value? "root").map fun name => .blackOf ⟨name⟩).or
    ((given.value? "stacked").map fun name => .stacked ⟨name⟩)

def renderArguments (given : Given) : RenderArguments where
  source := sourceArguments given
  shown := shownTree given
  broken := given.valuesOf "broken"
  format := if given.value? "format" = some "html" then .html else .svg
  output := given.value? "output"

def serveArguments (given : Given) : ServeArguments where
  source := sourceArguments given
  port := (given.value? "port").bind port?
  opensBrowser := given.has "open"

def summaryArguments (given : Given) : SummaryArguments where
  source := sourceArguments given
  format := if given.value? "format" = some "json" then .json else .markdown
  output := given.value? "output"

/-! ## Reading -/

/-- The words that begin a command. -/
def commandNames : List String := ["render", "serve", "summary", "init", "help"]

/-- Help on a command, if the words name one. -/
def readHelp : List String → Usage
  | [] => .help
  | [name] => if name ∈ commandNames then .help else .unknownCommand
  | _ => .unknownCommand

/-- Reads the words after the name of a command. -/
def readCommand (name : String) (words : List String) : Except Usage Command :=
  match name with
  | "render" => (renderGrammar.read words).map fun given => .render (renderArguments given)
  | "serve" => (serveGrammar.read words).map fun given => .serve (serveArguments given)
  | "summary" => (summaryGrammar.read words).map fun given => .summary (summaryArguments given)
  | "init" =>
    (initGrammar.read words).map fun given => .init ((given.value? "path").getD ".")
  | _ => .error (readHelp words)

/-- What a switch in front of the command asks for. -/
def readSwitch (word : List Char) : Usage :=
  match word with
  | '-' :: '-' :: text =>
    let (name, attached) := Reading.splitLong text
    if name = "help" ∨ name = "version" then
      if attached.isSome then .needlessValue else if name = "help" then .help else .version
    else .unknownArgument
  | '-' :: 'h' :: _ => .help
  | '-' :: 'V' :: _ => .version
  | _ => .unknownArgument

/-- Reads the words after the name of the program; `isLiteral` after the word `--`, which makes the
name of a command unwelcome. -/
def readFrom (isLiteral : Bool) : List String → Except Usage Command
  | [] => .error .missingCommand
  | word :: words =>
    if isLiteral then
      .error (if word ∈ commandNames then .unknownArgument else .unknownCommand)
    else if word ∈ commandNames then readCommand word words
    else if word = "--" then readFrom true words
    else if word.toList.head? = some '-' ∧ word ≠ "-" then .error (readSwitch word.toList)
    else .error .unknownCommand

def read (words : List String) : Except Usage Command := readFrom false words

end CommandLine

end CellNet
