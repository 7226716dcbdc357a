import CellNet.Source
import CellNet.Server.Action
import CellNet.Server.Answer
import CellNet.Text.Base64

/-!
# Messages of the web

What a client and a server send each other: a first line, some named fields, an empty line, and a
body. A message arrives in pieces. Its head is there once the empty line is (`Message.ofBytes?`);
its body is there once it is as long as the head says (`Message.isWhole`), or, if the head says
nothing, when the sender hangs up.

Every message sent asks for nothing after it, so a connection serves one request and one answer.
-/

namespace CellNet.Http

/-- Ends a line of the head. -/
def lineEnd : String := "\r\n"

/-! ## Reading -/

structure Message where
  firstLine : String
  /-- Names in lower case, with their values. -/
  fields : List (String × String) := []
  body : ByteArray := .empty

/-- Cuts bytes at the first empty line. -/
def splitHead? : List UInt8 → Option (List UInt8 × List UInt8)
  | 0x0d :: 0x0a :: 0x0d :: 0x0a :: rest => some ([], rest)
  | byte :: rest => (splitHead? rest).map fun (head, body) => (byte :: head, body)
  | [] => none

def trimmed (text : List Char) : String :=
  let isBlank (c : Char) : Bool := c = ' ' || c = '\t' || c = '\r'
  String.ofList ((text.dropWhile isBlank).reverse.dropWhile isBlank).reverse

/-- Reads a field; a line without a colon is a name without a value. -/
def readField (line : List Char) : String × String :=
  let name := line.takeWhile (· ≠ ':')
  ((trimmed name).toLower, trimmed (line.drop (name.length + 1)))

namespace Message

/-- Reads a message, if its head has arrived. The body is what has arrived after it. -/
def ofBytes? (bytes : ByteArray) : Option Message := do
  let (head, body) ← splitHead? bytes.toList
  match Text.parts '\n' (Text.Utf8.decode head.toByteArray).toList with
  | [] => none
  | firstLine :: fields =>
    some ⟨trimmed firstLine, fields.map readField, body.toByteArray⟩

/-- How long the body is, as the head has it. -/
def length? (message : Message) : Option Nat :=
  (message.fields.lookup "content-length").bind fun text => Text.Unsigned.ofDigits? text.toList

/-- Whether all of the body has arrived, for a message whose body is as long as its head says or,
if it says nothing, has the length given. -/
def isWhole (message : Message) (otherwise : Option Nat) : Bool :=
  match message.length?.or otherwise with
  | some length => length ≤ message.body.size
  | none => false

def words (message : Message) : List String :=
  (Text.parts ' ' message.firstLine.toList).map String.ofList

def request? (message : Message) : Option Request :=
  match message.words with
  | [method, target, version] =>
    if "HTTP/".isPrefixOf version then some ⟨method, target⟩ else none
  | _ => none

/-- The response a message is, if all that was announced of its body is there. -/
def response? (message : Message) : Option Response := do
  let version :: code :: _ := message.words | none
  if !"HTTP/".isPrefixOf version then none
  let status ← Text.Unsigned.ofDigits? code.toList
  let length := message.length?.getD message.body.size
  if length ≤ message.body.size then some ⟨status, message.body.extract 0 length⟩ else none

end Message

/-! ## Writing -/

def headText (firstLine : String) (fields : List (String × String)) : String :=
  let lines := firstLine :: fields.map fun (name, value) => name ++ ": " ++ value
  String.join (lines.map (· ++ lineEnd)) ++ lineEnd

/-- The port an address is served on. -/
def port (url : Url) : Nat := url.port.getD (if url.isSecure then 443 else 80)

/-- Asks for what is at an address. -/
def requestText (url : Url) : String :=
  let server := match url.port with
    | some port => url.host ++ ":" ++ toString port
    | none => url.host
  let login := match url.credentials? with
    | some (user, password) =>
      let text := Text.Base64.encode (user ++ ":" ++ password).toUTF8.toList
      [("authorization", "Basic " ++ String.ofList text)]
    | none => []
  headText ("GET " ++ url.path ++ url.query ++ " HTTP/1.0")
    (("host", server) :: ("accept", "*/*") :: login)

def statusWords (status : Nat) : String :=
  match status with
  | 200 => "OK"
  | 400 => "Bad Request"
  | 404 => "Not Found"
  | 405 => "Method Not Allowed"
  | 409 => "Conflict"
  | 502 => "Bad Gateway"
  | 503 => "Service Unavailable"
  | _ => "Unknown"

/-- An answer as a message. Pages of any site may ask for it, by any method. -/
def answerText (answer : Answer) : String :=
  let contentType := match answer.contentType with
    | some contentType => [("content-type", contentType)]
    | none => []
  headText ("HTTP/1.1 " ++ toString answer.status ++ " " ++ statusWords answer.status)
      (contentType ++ [
        ("content-length", toString answer.body.utf8ByteSize),
        ("access-control-allow-origin", "*"),
        ("access-control-allow-methods", "*"),
        ("connection", "close")])
    ++ answer.body

end CellNet.Http
