import CellNet.Server.Action
import CellNet.Server.Answer
import CellNet.Host

/-!
# The server

A server shows one session at a time and answers requests about it. A request to load again takes
time, and other requests may come in before it is done; so a load is two steps of the server,
`begin?` and `finish`, and any number of other steps may lie between. To finish is to write what has
come of the load, one thing after the other, and then to let the next load begin.

**One load at a time.** `begin?` fails while another load is in progress, and that changes nothing.

**A load replaces or leaves.** A load that succeeds starts a fresh session in place of the old one;
one that fails leaves the session, its highlight and its marks as they are, and its error is kept to
be shown until a load succeeds.

**Other requests** are answered at once (`receive`), by what the session is at that moment.
-/

namespace CellNet

structure Server where
  /-- What is shown, once a load has succeeded. -/
  session : Option Session := none
  /-- The text of the error of the last load, if it failed. -/
  lastError : Option String := none
  isLoading : Bool := false

namespace Server

structure Setup where
  title : String
  layout : Layout := {}

/-! ## Loads -/

/-- Begins a load, unless one is in progress. -/
def begin? (server : Server) : Option Server :=
  if server.isLoading then none else some { server with isLoading := true }

/-- Shows a fresh session on a topology. -/
def startSession (setup : Setup) (server : Server) (topo : Topology) : Server :=
  { server with session := some (.start topo setup.layout) }

/-- Keeps the text of an error to be shown; without one, nothing is kept. -/
def keepError (server : Server) (failure : Option LoadFailure) : Server :=
  { server with lastError := failure.map LoadFailure.message }

/-- Lets the next load begin. -/
def release (server : Server) : Server := { server with isLoading := false }

/-- Takes over the outcome of the load in progress. -/
def finish (setup : Setup) (server : Server) (outcome : Except LoadFailure Topology) : Server :=
  match outcome with
  | .ok topo => ((server.startSession setup topo).keepError none).release
  | .error failure => (server.keepError failure).release

/-! ## Gestures -/

/-- Why there is nothing to do something to. -/
def notLoaded : Refusal := .load (.load .nothingToShow)

/-- Performs a gesture on the session, in place; gives the view then and the highlight that was
drawn, if one was. -/
def perform (gesture : Gesture) : EStateM Refusal Server (View × Option Highlight) := fun server =>
  match server.session with
  | none => .error notLoaded server
  | some session =>
    match (Session.request gesture).run session with
    | .error error session => .error (.view error) { server with session := some session }
    | .ok drawn session => .ok (session.view, drawn) { server with session := some session }

/-- Performs a gesture and answers with what it comes to. -/
def answerGesture (server : Server) (gesture : Gesture) : Server × Answer :=
  match (perform gesture).run server with
  | .error refusal server => (server, refusalAnswer refusal)
  | .ok (view, drawn) server => (server, jsonAnswer 200 (eventJson view drawn))

/-- Answers a gesture on something a path names. -/
def answerNamed (server : Server) (parameter name : String)
    (gesture : String → Except Refusal Gesture) : Server × Answer :=
  match Url.decodeText? name with
  | none => (server, refusalAnswer (.badName parameter))
  | some name =>
    match gesture name with
    | .error refusal => (server, refusalAnswer refusal)
    | .ok gesture => server.answerGesture gesture

/-- The link a path names, in whichever orientation. -/
def linkNamed (name : String) : Except Refusal LinkId :=
  match LinkId.read? name with
  | some link => .ok link
  | none => .error (.view (.unknownLink name))

/-! ## Answers -/

/-- The page: the session, or a blank one that says why there is none. -/
def page (setup : Setup) (server : Server) : String :=
  match server.session with
  | some session =>
    Page.html session.scene session.view { title := setup.title, interactive := true }
  | none =>
    Page.html (.ofTopology .empty setup.layout) (.ofTopology .empty)
      { title := setup.title, interactive := true
        notice := server.lastError.getD "No topology loaded yet" }

def answerScene (server : Server) : Answer :=
  match server.session with
  | none => refusalAnswer notLoaded
  | some session => jsonAnswer 200 (sessionJson session)

/-- The answer to a request to load again, once the load is done. -/
def answerLoaded (server : Server) (outcome : Except LoadFailure Topology) : Server × Answer :=
  match outcome with
  | .error failure => (server, refusalAnswer (.load failure))
  | .ok _ =>
    match server.session with
    | none => (server, refusalAnswer notLoaded)
    | some session => (server, jsonAnswer 200 (eventJson session.view none))

/-- What a server does about a request: it answers, or a load is in progress whose outcome it needs
for the answer. -/
inductive Reaction where
  | answer (answer : Answer)
  | load

def act (setup : Setup) (server : Server) : Action → Server × Reaction
  | .reload =>
    match server.begin? with
    | none => (server, .answer (refusalAnswer .busy))
    | some server => (server, .load)
  | .page => (server, .answer (pageAnswer (server.page setup)))
  | .scene => (server, .answer server.answerScene)
  | .reset => answered (server.answerGesture .reset)
  | .clickNode name =>
    answered (server.answerNamed "id" name fun name => .ok (.clickNode ⟨name⟩))
  | .doubleClickNode name =>
    answered (server.answerNamed "id" name fun name => .ok (.doubleClickNode ⟨name⟩))
  | .clickLink name =>
    answered (server.answerNamed "id" name fun name => (linkNamed name).map .clickLink)
  | .doubleClickLink name =>
    answered (server.answerNamed "id" name fun name => (linkNamed name).map .doubleClickLink)
  | .showStacked name =>
    answered (server.answerNamed "tree" name fun name => .ok (.showStacked ⟨name⟩))
where
  answered : Server × Answer → Server × Reaction
    | (server, reply) => (server, .answer reply)

/-- Leaves the body out. -/
def Reaction.withoutBody : Reaction → Reaction
  | .answer reply => .answer { reply with body := "" }
  | .load => .load

/-- Reacts to a request. Questions about what may be asked are always granted, whatever the path;
asking for the head of something gets its answer without the body. -/
def receive (setup : Setup) (server : Server) (request : Request) : Server × Reaction :=
  if request.method = "OPTIONS" then (server, .answer (emptyAnswer 200))
  else
    match Action.ofPath? (path request) with
    | none => (server, .answer (emptyAnswer 404))
    | some action =>
      if request.method = action.method then server.act setup action
      else if request.method = "HEAD" ∧ action.method = "GET" then
        (server, (server.act setup action).2.withoutBody)
      else (server, .answer (emptyAnswer 405))

/-! ## On a host -/

variable {m : Type → Type} [Monad m]

/-- Loads again, from beginning to end; `none` if a load is in progress. -/
def reload (host : Host m) (origin : Origin) (setup : Setup) (server : Server) :
    m (Server × Option (Except LoadFailure Topology)) :=
  match server.begin? with
  | none => return (server, none)
  | some server => do
    let outcome ← host.loadTopology origin
    return (server.finish setup outcome, some outcome)

/-- Answers a request, with nothing else in between. -/
def answer (host : Host m) (origin : Origin) (setup : Setup) (server : Server)
    (request : Request) : m (Server × Answer) := do
  match server.receive setup request with
  | (server, .answer reply) => return (server, reply)
  | (server, .load) =>
    let outcome ← host.loadTopology origin
    return (server.finish setup outcome).answerLoaded outcome

end Server

end CellNet
