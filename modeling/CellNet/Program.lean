import CellNet.CommandLine
import CellNet.Config
import CellNet.Console
import CellNet.Server
import CellNet.Summary

/-!
# The program

A command reads the configuration, loads a topology, and writes what is asked for to a file or
prints it. What goes wrong is told on the error stream and ends the command with status 1; until
then nothing has been written or printed, but for what is printed of a document before the output
stream breaks. A file is written last, and only where the command was told to. A count that a word
cannot hold ends the program on the spot, and so does a report that cannot be printed.

Serving is different: it prints as it goes along, an error of the first load does not end it, and it
ends only if the port cannot be had.

Documents are printed as they are. On a terminal, a summary in Markdown would be laid out with
colours; that is left out.
-/

namespace CellNet

/-- How a command leaves the program. -/
inductive Ending where
  | exit (status : Nat)
  /-- Requests on a port are to be answered from now on. -/
  | serving (port : Nat) (origin : Origin) (setup : Server.Setup) (server : Server)

namespace Program

def name : String := "cellviz"

def version : String := "0.3.0"

variable {m : Type → Type} [Monad m]

/-! ## Reports -/

/-- The status of a program that could not go on. -/
def abortStatus : Nat := 101

/-- What is said of a report that cannot be printed. -/
def unprintedText (error : SystemError) : String :=
  "failed printing to stdout: " ++ error.text ++ "\n"

/-- Prints a report and goes on, unless it cannot be printed. -/
def report {α : Type} (host : Host m) (text : String) (abort : SystemError → m α) (next : m α) :
    m α := do
  match ← host.print text with
  | .ok () => next
  | .error error => abort error

/-- Ends the program on the spot, for want of a place to print to. -/
def abort (host : Host m) (error : SystemError) : m Nat := do
  host.printError (unprintedText error)
  return abortStatus

/-! ## Settings -/

/-- The settings with what was given on the command line in their place. -/
def override (config : Config) (source : SourceArguments) : Config :=
  let old := config.origin
  { config with
    origin :=
      { old with
        location := source.location.getD old.location
        options :=
          { blackTrees := old.options.blackTrees && !source.skipsBlackTrees
            stackedTrees := old.options.stackedTrees && !source.skipsStackedTrees } } }

/-- The settings of a command; those of a file that cannot be used are the defaults. -/
def settings (host : Host m) (console : Console) (source : SourceArguments) : m Config := do
  match ← Config.load host source.configDirectory with
  | .ok config => return override config source
  | .error error =>
    host.printError (console.warning
      ("Failed to load config: " ++ error.message ++ ". Using defaults."))
    return override {} source

/-! ## Loading -/

/-- What is said about a load that failed. -/
def failureText (console : Console) (location : String) (failure : LoadFailure) : String :=
  let advice := match failure with
    | .load .nothingToShow => ""
    | .client _ | .load (.fetch _ _) =>
      console.hint ("Is the simulator serving " ++ location ++ "?")
    | .load (.malformed _ _) =>
      console.hint "The backend answered with JSON in an unexpected shape"
  console.error failure.message ++ advice

def loadSession (host : Host m) (console : Console) (config : Config) : m (Option Session) := do
  match ← host.loadTopology config.origin with
  | .ok topo => return some (.start topo config.layout)
  | .error failure =>
    host.printError (failureText console config.origin.location failure)
    return none

/-! ## Writing -/

/-- Writes what a command makes to the file it names, or prints it. Tells whether that went well. -/
def deliver (host : Host m) (console : Console) (output : Option String) (content : String) :
    m Bool := do
  let outcome ← match output with
    | none => host.print content
    | some path => host.writeFile path content
  match outcome with
  | .ok () => return true
  | .error error =>
    host.printError (console.error ("Failed to write output: " ++ error.text))
    return false

/-! ## Drawing -/

def markBroken (session : Session) (names : List String) : Except ViewError Session :=
  names.foldlM (fun session name => session.perform (.markBroken name)) session

/-- The gesture that shows a tree. -/
def ShownTree.gesture : ShownTree → Gesture
  | .blackOf cell => .clickNode cell
  | .stacked tree => .showStacked tree

/-- What can be shown instead of a stacked tree that cannot. -/
def otherTrees (console : Console) (scene : Scene) : String :=
  if scene.stackedTrees.isEmpty then ""
  else console.hint ("Stacked trees: " ++ ", ".intercalate (scene.stackedTrees.map TreeId.name))

/-- Marks and shows what was asked for. Gives what to say if it cannot be shown, or else the session
with the warnings about it. -/
def arrange (console : Console) (session : Session) (arguments : RenderArguments) :
    Except String (Session × List String) :=
  match markBroken session arguments.broken with
  | .error error => .error (console.error error.message)
  | .ok session =>
    match arguments.shown with
    | none => .ok (session, [])
    | some shown =>
      match session.perform (ShownTree.gesture shown) with
      | .ok session => .ok (session, (session.view.active.map Highlight.messages).getD [])
      | .error error =>
        let others := match shown with
          | .stacked _ => otherTrees console session.scene
          | .blackOf _ => ""
        .error (console.error error.message ++ others)

def draw (format : DrawingFormat) (session : Session) : String :=
  match format with
  | .svg => Drawing.svg session.scene session.view
  | .html => Page.html session.scene session.view { title := name }

/-- What is said about a drawing written to a file. -/
def renderReport (console : Console) (path : String) (scene : Scene) : String :=
  console.success ("Rendered to " ++ console.path path)
    ++ console.metric "cells" scene.nodes.length ++ console.metric "links" scene.lines.length

def render (host : Host m) (console : Console) (arguments : RenderArguments) : m Nat := do
  let config ← settings host console arguments.source
  match ← loadSession host console config with
  | none => return 1
  | some session =>
    match arrange console session arguments with
    | .error text =>
      host.printError text
      return 1
    | .ok (session, warnings) =>
      host.printError (String.join (warnings.map console.warning))
      if ← deliver host console arguments.output (draw arguments.format session) then
        match arguments.output with
        | none => return 0
        | some path => report host (renderReport console path session.scene) (abort host) (return 0)
      else return 1

/-! ## Summarising -/

/-- A summary as a document, if its counts fit in words. -/
def write? (format : SummaryFormat) (summary : Summary) : Option String :=
  match format with
  | .markdown => summary.markdown?
  | .json => some summary.json

/-- What is said of a count that a word cannot hold. -/
def overflowText : String := "attempt to add with overflow\n"

/-- What is said about the trees that are not consistent. -/
def treeWarning (console : Console) (summary : Summary) : String :=
  let count := summary.inconsistent.length
  if count = 0 then "" else console.warning (toString count ++ " inconsistent trees")

def summarise (host : Host m) (console : Console) (arguments : SummaryArguments) : m Nat := do
  let config ← settings host console arguments.source
  match ← loadSession host console config with
  | none => return 1
  | some session =>
    let summary := Summary.ofTopology session.topology
    match write? arguments.format summary with
    | none =>
      host.printError overflowText
      return abortStatus
    | some content =>
      if ← deliver host console arguments.output content then
        let warn := do
          host.printError (treeWarning console summary)
          return 0
        match arguments.output with
        | none => warn
        | some path =>
          report host (console.success ("Summary written to " ++ console.path path)) (abort host)
            warn
      else return 1

/-! ## Starting a configuration -/

/-- Writes a configuration file, unless there is one. -/
def init (host : Host m) (console : Console) (directory : String) : m Nat := do
  let path := FileTree.join directory Config.fileName
  if ← host.fileExists path then
    host.printError (console.error
      (Config.fileName ++ " already exists at " ++ console.path path))
    return 1
  else
    match ← host.writeFile path Config.template with
    | .error error =>
      host.printError (console.error ("Failed to write config file: " ++ error.text))
      return 1
    | .ok () =>
      report host (console.success ("Created " ++ Config.fileName ++ " at " ++ console.path path))
        (abort host) (return 0)

/-! ## Serving -/

def serverAddress (port : Nat) : String := "http://127.0.0.1:" ++ toString port

/-- What is said when requests are about to be answered. -/
def servingReport (console : Console) (port : Nat) : String :=
  console.header "Starting cellviz viewer..."
    ++ "Open in browser: " ++ console.address (serverAddress port) ++ "\n"
    ++ "Press Ctrl+C to stop\n"

/-- Shows the address of the server in a browser; one that cannot be opened is only told. -/
def showInBrowser (host : Host m) (console : Console) (port : Nat) : m Unit := do
  match ← host.openBrowser (serverAddress port) with
  | .ok () => return ()
  | .error reason =>
    host.printError (console.warning ("Could not open browser: " ++ reason))

/-- Why no requests are answered. -/
inductive StartError where
  | listen (error : SystemError)
  /-- A report could not be printed. -/
  | unprinted (error : SystemError)

/-- Loads once and listens. A load that fails is told, and tried again on request. -/
def startServing (host : Host m) (console : Console) (port : Nat) (opensBrowser : Bool)
    (origin : Origin) (setup : Server.Setup) : m (Except StartError Server) :=
  let unprinted (error : SystemError) := return .error (.unprinted error)
  report host (console.status ("Fetching topology from " ++ origin.location)) unprinted do
    let (server, outcome) ← Server.reload host origin setup {}
    match outcome with
    | some (.error failure) =>
      host.printError (console.warning ("Initial load failed: " ++ failure.message))
    | _ => pure ()
    match ← host.listen port with
    | .error error => return .error (.listen error)
    | .ok () =>
      report host (servingReport console port) unprinted do
        if opensBrowser then showInBrowser host console port
        return .ok server

def serve (host : Host m) (console : Console) (arguments : ServeArguments) : m Ending := do
  let config ← settings host console arguments.source
  let port := arguments.port.getD config.port
  let setup : Server.Setup := ⟨name, config.layout⟩
  match ← startServing host console port arguments.opensBrowser config.origin setup with
  | .ok server => return .serving port config.origin setup server
  | .error (.listen error) =>
    host.printError (console.error ("Server failed: IO error: " ++ error.text))
    return .exit 1
  | .error (.unprinted error) => return .exit (← abort host error)

/-! ## Commands -/

def run (host : Host m) (console : Console) : Command → m Ending
  | .render arguments => return .exit (← render host console arguments)
  | .summary arguments => return .exit (← summarise host console arguments)
  | .init directory => return .exit (← init host console directory)
  | .serve arguments => serve host console arguments

def helpText : String :=
  "Fetch a cell network topology and draw it\n\n"
    ++ "Usage: cellviz <COMMAND>\n\n"
    ++ "Commands:\n"
    ++ "  render   Write the topology as a standalone SVG or HTML file\n"
    ++ "  serve    Serve the interactive viewer\n"
    ++ "  summary  Print cell, link and tree statistics\n"
    ++ "  init     Generate a starter .cellviz.toml configuration file\n"
    ++ "  help     Print this message or the help of the given subcommand(s)\n\n"
    ++ "Options:\n"
    ++ "  -h, --help     Print help\n"
    ++ "  -V, --version  Print version\n"

def usageText : Usage → String
  | .help | .missingCommand => helpText
  | .version => name ++ " " ++ version ++ "\n"
  | .unknownCommand => "error: unrecognized subcommand\n"
  | .unknownArgument => "error: unexpected argument found\n"
  | .invalidValue => "error: a value is missing or not one of the possible values\n"
  | .invalidNumber => "error: a value is not a number in range\n"
  | .conflict => "error: an argument cannot be used with another, or multiple times\n"
  | .needlessValue => "error: a value was given to an argument that takes none\n"

/-- The status words end the program with that are no command. -/
def usageStatus : Usage → Nat
  | .help | .version => 0
  | _ => 2

/-- Runs the program on the words after its name. -/
def runWords (host : Host m) (console : Console) (words : List String) : m Ending := do
  match CommandLine.read words with
  | .ok command => run host console command
  | .error usage =>
    -- Help that cannot be printed is no error.
    if usageStatus usage = 0 then discard (host.print (usageText usage))
    else host.printError (usageText usage)
    return .exit (usageStatus usage)

end Program

end CellNet
