import CellNet.Http
import Std.Async.TCP

/-!
# Connections

Messages over connections of this machine. Waiting for a peer is bounded: a backend that stays
silent has not answered.

Addresses are numbers, or `localhost`; other names are not looked up, and nobody answers on a secure
address.
-/

namespace CellNet.Network

open Std.Net Std.Async

abbrev Connection := TCP.Socket.Client

/-- A socket others connect to. -/
abbrev Listener := TCP.Socket.Server

/-- The error of the machine an exception stands for. -/
def systemError : IO.Error → SystemError
  | .alreadyExists _ code text | .otherError code text | .resourceBusy code text
  | .resourceVanished code text | .unsupportedOperation code text | .hardwareFault code text
  | .unsatisfiedConstraints code text | .illegalOperation code text | .protocolError code text
  | .timeExpired code text | .interrupted _ code text | .noFileOrDirectory _ code text
  | .invalidArgument _ code text | .permissionDenied _ code text | .resourceExhausted _ code text
  | .inappropriateType _ code text | .noSuchThing _ code text =>
    .ofNumber (if code < 0x80000000 then code else 0 - code).toNat text
  | .unexpectedEof => ⟨.other, "unexpected end of file"⟩
  | .userError text => ⟨.other, text⟩

def attempt {α : Type} (action : IO α) : IO (Except SystemError α) := do
  match ← action.toBaseIO with
  | .ok value => return .ok value
  | .error error => return .error (systemError error)

/-! ## Receiving -/

/-- How many bytes are received at once. -/
def pieceSize : UInt64 := 65536

/-- Receives until enough has arrived or the peer has sent everything. -/
partial def receive (connection : Connection) (isEnough : ByteArray → Bool)
    (soFar : ByteArray) : IO ByteArray := do
  if isEnough soFar then return soFar
  match ← (connection.recv? pieceSize).block with
  | none => return soFar
  | some piece => receive connection isEnough (soFar ++ piece)

/-- Whether a whole message has arrived. -/
def isWhole (otherwise : Option Nat) (bytes : ByteArray) : Bool :=
  match Http.Message.ofBytes? bytes with
  | some message => message.isWhole otherwise
  | none => false

/-! ## Asking -/

def address? (url : Url) : Option SocketAddress :=
  let port := (Http.port url).toUInt16
  if url.isSecure then none
  else if url.host = "localhost" then some (.v4 ⟨.ofParts 127 0 0 1, port⟩)
  else
    match IPv4Addr.ofString url.host with
    | some numbers => some (.v4 ⟨numbers, port⟩)
    | none =>
      let inBrackets := String.ofList ((url.host.toList.drop 1).dropLast)
      (IPv6Addr.ofString inBrackets).map fun numbers => .v6 ⟨numbers, port⟩

/-- Asks a peer and receives its answer. -/
def exchange (peer : SocketAddress) (url : Url) : IO (Option Response) := do
  let connection ← TCP.Socket.Client.mk
  (connection.connect peer).block
  (connection.send (Http.requestText url).toUTF8).block
  let bytes ← receive connection (isWhole none) .empty
  return (Http.Message.ofBytes? bytes).bind Http.Message.response?

/-- The time between two looks at something awaited, in milliseconds. -/
def pause : Nat := 5

/-- Waits for a result, looking at it some number of times. -/
def await {α : Type} (task : Task (Except IO.Error (Option α))) : Nat → IO (Option α)
  | 0 => return none
  | looks + 1 => do
    if ← IO.hasFinished task then return task.get.toOption.join
    IO.sleep pause.toUInt32
    await task looks

/-- Asks for what is at an address, waiting for some seconds at most. -/
def request (seconds : Nat) (url : Url) : IO (Option Response) := do
  match address? url with
  | none => return none
  | some peer => await (← IO.asTask (exchange peer url) .dedicated) (seconds * 1000 / pause)

/-! ## Answering -/

/-- Listens on a port of the local address. -/
def listen (port : Nat) : IO Listener := do
  let listener ← TCP.Socket.Server.mk
  listener.bind (.v4 ⟨.ofParts 127 0 0 1, port.toUInt16⟩)
  listener.listen 128
  return listener

/-- Answers one request of a peer; what is no request is answered as such. -/
def serve (connection : Connection) (answer : Request → IO Answer) : IO Unit := do
  let bytes ← receive connection (isWhole (some 0)) .empty
  let reply ← match (Http.Message.ofBytes? bytes).bind Http.Message.request? with
    | some request => answer request
    | none => pure (Server.emptyAnswer 400)
  (connection.send (Http.answerText reply).toUTF8).block
  connection.shutdown.block

/-- Answers whoever connects, each peer by itself, without end. -/
partial def serveAll (listener : Listener) (answer : Request → IO Answer) : IO Unit := do
  let connection ← listener.accept.block
  let _ ← IO.asTask (serve connection answer) .dedicated
  serveAll listener answer

end CellNet.Network
