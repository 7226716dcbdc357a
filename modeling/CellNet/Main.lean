import CellNet.Program
import CellNet.Host.Local

/-!
# Running the program

The program on this machine. A server's state is changed in single steps, so requests may come in
while a load is under way, and each is answered by the state it finds.
-/

namespace CellNet

def takeStep {α : Type} (state : IO.Ref Server) (step : Server → Server × α) : IO α :=
  state.modifyGet fun server => (step server).swap

/-- Answers a request by the state of the server. -/
def answerRequest (host : Host IO) (origin : Origin) (setup : Server.Setup)
    (state : IO.Ref Server) (request : Request) : IO Answer := do
  match ← takeStep state (·.receive setup request) with
  | .answer reply => return reply
  | .load =>
    let outcome ← host.loadTopology origin
    takeStep state fun server => (server.finish setup outcome).answerLoaded outcome

end CellNet

open CellNet

/-- Runs the program on the words after its name. -/
def main (words : List String) : IO UInt32 := do
  let listener ← IO.mkRef none
  let host := Local.host listener
  match ← Program.runWords host (← Local.console) words with
  | .exit status => return status.toUInt32
  | .serving _ origin setup server =>
    match ← listener.get with
    | none => return 1
    | some listener =>
      let state ← IO.mkRef server
      Network.serveAll listener (answerRequest host origin setup state)
      return 0
