import CellNet.Document
import CellNet.SystemError
import CellNet.FileTree
import CellNet.Url
import CellNet.Text.Utf8

/-!
# Where documents come from

A topology is loaded from a *location*: the address of a backend that serves each document under its
name, or a directory that holds each in a file. A source says which address or file a document has,
and what becomes of the answer; asking for it is left to the caller.
-/

namespace CellNet

/-- Where documents come from. -/
inductive Source where
  /-- A backend; the address ends in a slash. -/
  | backend (base : String)
  | directory (path : String)
deriving DecidableEq, Repr

/-- Why a document could not be fetched. -/
inductive SourceError where
  /-- The text is no address, so nobody was asked. -/
  | badAddress (address : String)
  /-- No request can name the address, so nobody was asked. -/
  | notRequestable (address : String) (url : Url)
  /-- There was no answer. -/
  | noAnswer (address : String) (url : Url)
  /-- The answer was not a success. -/
  | status (address : String) (code : Nat)
  | file (path : String) (error : SystemError)
deriving DecidableEq, Repr

/-- What a backend answers. -/
structure Response where
  status : Nat := 200
  body : ByteArray

namespace SourceError

/-- Whether the document simply is not there. -/
def isNotFound : SourceError → Bool
  | .status _ code => code = 404
  | .file _ error => error.kind = .notFound
  | .badAddress _ | .notRequestable _ _ | .noAnswer _ _ => false

def message : SourceError → String
  | .badAddress address => "Request to " ++ address ++ " failed: builder error"
  | .notRequestable address url =>
    "Request to " ++ address ++ " failed: builder error for url (" ++ toString url ++ ")"
  | .noAnswer address url =>
    "Request to " ++ address ++ " failed: error sending request for url (" ++ toString url ++ ")"
  | .status address code => address ++ " returned HTTP " ++ toString code
  | .file path error => "Failed to read " ++ path ++ ": " ++ error.text

end SourceError

namespace Source

/-- Whether a location is an address and not a directory. -/
def isAddress (location : String) : Bool :=
  "http://".isPrefixOf location || "https://".isPrefixOf location

/-- The source a location names. -/
def ofLocation (location : String) : Source :=
  if isAddress location then
    .backend (if location.toList.getLast? = some '/' then location else location ++ "/")
  else .directory location

/-- The source, for messages. -/
def describe : Source → String
  | .backend base => base
  | .directory path => path

/-- The address or the file of a document. -/
def documentAt (source : Source) (document : Document) : String :=
  match source with
  | .backend base => base ++ document.name
  | .directory path => FileTree.join path (document.name ++ ".json")

/-- What a backend's answer says. Every body is taken to be whole, and for UTF-8 whatever encoding
its header names; what is no UTF-8 in it is replaced. -/
def ofResponse (address : String) (response : Response) : Except SourceError String :=
  if 200 ≤ response.status ∧ response.status < 300 then .ok (Text.Utf8.decode response.body)
  else .error (.status address response.status)

/-- What the content of a file says. -/
def ofFile (path : String) (content : Except SystemError ByteArray) :
    Except SourceError String :=
  match content with
  | .error error => .error (.file path error)
  | .ok bytes =>
    match String.fromUTF8? bytes with
    | some text => .ok text
    | none => .error (.file path .notText)

end Source

end CellNet
