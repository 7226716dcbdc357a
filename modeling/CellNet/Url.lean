import CellNet.DomainName
import CellNet.Text.Split
import CellNet.Text.Unsigned
import CellNet.Text.Utf8
import CellNet.Text.Hex

/-!
# Web addresses

The address of a web resource: a server and, on it, a path with an optional query and fragment. An
address is read leniently, as browsers do, and written in one normal form: the host in ASCII and
lower case, no port if it is the usual one, no dots among the parts of the path, and characters that
have no place somewhere percent-encoded there. Reading fails when the host or the port makes no
sense.
-/

namespace CellNet

structure Url where
  isSecure : Bool
  /-- The user before the host. -/
  user : String := ""
  /-- The password of the user. -/
  password : String := ""
  host : String
  /-- The port, unless it is the usual one. -/
  port : Option Nat := none
  path : String
  /-- The query, with its question mark. -/
  query : String := ""
  /-- The fragment, with its number sign. -/
  fragment : String := ""
deriving DecidableEq, Repr

namespace Url

/-! ## Percent encoding -/

/-- A byte in percent encoding. -/
def percent (byte : UInt8) : List Char :=
  let digit (n : Nat) := (Nat.digitChar n).toUpper
  ['%', digit (byte.toNat / 16), digit (byte.toNat % 16)]

/-- Percent-encodes controls, all but ASCII, and the characters given. -/
def encode (special : List Char) (text : List Char) : String :=
  String.ofList <| text.flatMap fun c =>
    if c.toNat < 0x20 ∨ c.toNat ≥ 0x7f ∨ c ∈ special then
      c.toString.toUTF8.toList.flatMap percent
    else [c]

/-- The bytes of a text with percent encodings undone; a percent sign that begins none is kept. -/
def decodeBytes : List Char → List UInt8
  | '%' :: a :: b :: rest =>
    match Text.hexDigit? a, Text.hexDigit? b with
    | some high, some low => UInt8.ofNat (16 * high + low) :: decodeBytes rest
    | _, _ => 0x25 :: decodeBytes (a :: b :: rest)
  | c :: rest => c.toString.toUTF8.toList ++ decodeBytes rest
  | [] => []

/-- Undoes the percent encoding of a text; the result has to be UTF-8. -/
def decodeText? (text : String) : Option String :=
  String.fromUTF8? (decodeBytes text.toList).toByteArray

/-! ## Numbered hosts -/

/-- Reads a number of an address in any of its bases; an empty one is zero. -/
def hostNumber? (text : List Char) : Option Nat :=
  let inBase (base : Nat) (digits : List Char) : Option Nat :=
    digits.foldlM (fun n c => ((Text.hexDigit? c).filter (· < base)).map (base * n + ·)) 0
  match text with
  | '0' :: 'x' :: digits => inBase 16 digits
  | '0' :: 'X' :: digits => inBase 16 digits
  | '0' :: digits => inBase 8 digits
  | digits => if digits.isEmpty then none else inBase 10 digits

/-- The parts of a host between dots; a single dot at the end is overlooked. -/
def hostParts (host : List Char) : List (List Char) :=
  let parts := Text.parts '.' host
  if parts.length > 1 ∧ parts.getLast? = some [] then parts.dropLast else parts

/-- Whether a host has to be four numbers, as its last part is one. -/
def isNumbered (host : List Char) : Bool :=
  match (hostParts host).getLast? with
  | none => false
  | some last =>
    last ≠ [] && (last.all Char.isDigit ||
      (match last with
        | '0' :: x :: _ => (x = 'x' || x = 'X') && (hostNumber? last).isSome
        | _ => false))

/-- The four numbers of an address. -/
def fourNumbers? (host : List Char) : Option Nat := do
  let numbers ← (hostParts host).mapM hostNumber?
  let count := numbers.length
  if count > 4 then none
  let last ← numbers.getLast?
  let others := numbers.dropLast
  if others.any (· > 255) ∨ last ≥ Nat.pow 256 (5 - count) then none
  let (sum, _) := others.foldl
    (fun (sum, place) n => (sum + n * Nat.pow 256 place, place - 1)) (last, 3)
  some sum

/-- The usual form of a numbered host. -/
def dotted (address : Nat) : String :=
  ".".intercalate ([3, 2, 1, 0].map fun place => toString (address / Nat.pow 256 place % 256))

/-! ## Bracketed hosts -/

def group? (text : List Char) : Option Nat :=
  if text.isEmpty ∨ text.length > 4 then none
  else text.foldlM (fun n c => (Text.hexDigit? c).map (16 * n + ·)) 0

/-- Reads the groups of a run without a double colon; the last may be four decimal numbers. -/
def groups? (text : List Char) : Option (List Nat) :=
  if text.isEmpty then some []
  else
    let parts := Text.parts ':' text
    let last := parts.getLastD []
    if '.' ∈ last then do
      let numbers ← (Text.parts '.' last).mapM fun part =>
        if part.length > 1 ∧ part.head? = some '0' then none
        else (Text.Unsigned.ofDigits? part).filter (· < 256)
      let [a, b, c, d] := numbers | none
      let before ← parts.dropLast.mapM group?
      some (before ++ [256 * a + b, 256 * c + d])
    else parts.mapM group?

/-- The place of the first double colon. -/
def doubleColon? : List Char → Option (List Char × List Char)
  | ':' :: ':' :: rest => some ([], rest)
  | c :: rest => (doubleColon? rest).map fun (before, after) => (c :: before, after)
  | [] => none

/-- The eight groups of an address in brackets. -/
def eightGroups? (text : List Char) : Option (List Nat) := do
  match doubleColon? text with
  | none => (← groups? text) |> fun groups => if groups.length = 8 then some groups else none
  | some (before, after) =>
    if '.' ∈ before then none
    let before ← groups? before
    let after ← groups? after
    let count := before.length + after.length
    if count ≤ 7 then some (before ++ List.replicate (8 - count) 0 ++ after) else none

/-- A run of zero groups: where it begins and how long it is. -/
def longestZeros (groups : List Nat) : Nat × Nat :=
  let runs := (List.range groups.length).map fun i =>
    (i, ((groups.drop i).takeWhile (· = 0)).length)
  runs.foldl (fun best run => if run.2 > best.2 then run else best) (0, 0)

/-- A group in hexadecimal. -/
def groupText (n : Nat) : String := String.ofList (Nat.toDigits 16 n)

/-- The shortest form of an address in brackets. -/
def bracketed (groups : List Nat) : String :=
  let write (part : List Nat) := ":".intercalate (part.map groupText)
  let (start, length) := longestZeros groups
  if length < 2 then "[" ++ write groups ++ "]"
  else "[" ++ write (groups.take start) ++ "::" ++ write (groups.drop (start + length)) ++ "]"

/-! ## Reading -/

def host? (text : List Char) : Option String :=
  match text with
  | '[' :: rest =>
    if rest.getLast? = some ']' then (eightGroups? rest.dropLast).map bracketed else none
  | _ =>
    (DomainName.toAscii? (Text.Utf8.decode (decodeBytes text).toByteArray).toList).bind fun name =>
      if name.isEmpty then none
      else if isNumbered name then (fourNumbers? name).map dotted
      else some (String.ofList name)

/-- Splits the port off a host. -/
def splitPort (text : List Char) : List Char × Option (List Char) :=
  match Text.splitLast [':'] text with
  | none => (text, none)
  | some (host, port) => if ']' ∈ port then (text, none) else (host, some port)

def port? (isSecure : Bool) : Option (List Char) → Option (Option Nat)
  | none | some [] => some none
  | some digits =>
    (Text.Unsigned.ofDigits? digits).bind fun port =>
      if port > 65535 then none
      else some (if port = (if isSecure then 443 else 80) then none else some port)

/-- Whether a part of a path stands for the place it is at. -/
def isHere (part : String) : Bool := part.toLower ∈ [".", "%2e"]

/-- Whether a part of a path stands for the place above. -/
def isAbove (part : String) : Bool := part.toLower ∈ ["..", ".%2e", "%2e.", "%2e%2e"]

/-- Whether a part of a path is the letter of a drive. -/
def isDrive (part : String) : Bool :=
  match part.toList with
  | [letter, sign] => letter.isAlpha && (sign = ':' || sign = '|')
  | _ => false

/-- The parts of the place above, the parts being given last first. There is none above a drive. -/
def above (parts : List String) : List String :=
  match parts with
  | part :: rest => if isDrive part then parts else rest
  | [] => []

/-- Follows the dots among the parts of a path; `before` are the parts so far, last first. Dots at
the end leave an empty part, so the path still ends in a slash. -/
def followDots (before : List String) : List String → List String
  | [] => before.reverse
  | part :: rest =>
    if isHere part ∨ isAbove part then
      let before := if isAbove part then above before else before
      if rest.isEmpty then ("" :: before).reverse else followDots before rest
    else followDots (part :: before) rest

/-- Characters percent-encoded in a path. -/
def pathSpecial : List Char := " \"#<>?`\x7b\x7d".toList

/-- A path in normal form. -/
def normalPath (text : List Char) : String :=
  let text := text.map fun c => if c = '\\' then '/' else c
  let parts := (Text.parts '/' (text.drop 1)).map (encode pathSpecial)
  "/" ++ "/".intercalate (followDots [] parts)

/-- Characters percent-encoded in a user's name and password. -/
def userSpecial : List Char := pathSpecial ++ "/:;=@[\\]^|".toList

/-- Cuts a text before the first character that `stop` accepts. -/
def cut (stop : Char → Bool) (text : List Char) : List Char × List Char :=
  (text.takeWhile (!stop ·), text.dropWhile (!stop ·))

/-- Reads what follows the scheme and its slashes. -/
def ofRest? (isSecure : Bool) (text : List Char) : Option Url := do
  let (authority, rest) := cut (fun c => c ∈ "/\\?#".toList) text
  let (login, server) := (Text.splitLast ['@'] authority).getD ([], authority)
  let (user, password) := cut (· = ':') login
  let (host, port) := splitPort server
  let host ← host? host
  let port ← port? isSecure port
  let (path, rest) := cut (fun c => c = '?' ∨ c = '#') rest
  let (query, fragment) := cut (· = '#') rest
  return { isSecure, host, port
           user := encode userSpecial user
           password := encode userSpecial (password.drop 1)
           path := normalPath path
           query := encode " \"#<>'".toList query
           fragment := encode " \"<>`".toList fragment }

def read? (text : String) : Option Url :=
  let blank (c : Char) : Bool := c.toNat ≤ 0x20
  let trimmed := ((text.toList.dropWhile blank).reverse.dropWhile blank).reverse
  let plain := trimmed.filter fun c => c ≠ '\t' ∧ c ≠ '\n' ∧ c ≠ '\r'
  let slash (c : Char) : Bool := c = '/' || c = '\\'
  if "http:".toList.isPrefixOf plain then ofRest? false ((plain.drop 5).dropWhile slash)
  else if "https:".toList.isPrefixOf plain then ofRest? true ((plain.drop 6).dropWhile slash)
  else none

/-- The user and the password, as they stand before the host. -/
def login (url : Url) : String :=
  let password := if url.password.isEmpty then "" else ":" ++ url.password
  let login := url.user ++ password
  if login.isEmpty then "" else login ++ "@"

/-- An address in normal form. -/
instance : ToString Url where
  toString url :=
    (if url.isSecure then "https://" else "http://") ++ url.login ++ url.host
      ++ (match url.port with
          | some port => ":" ++ toString port
          | none => "")
      ++ url.path ++ url.query ++ url.fragment

/-! ## Requests -/

/-- The user and the password a server is told apart from the address, if there are any. The user
has to be UTF-8; a password that is not is left out. -/
def credentials? (url : Url) : Option (String × String) := do
  let user ← decodeText? url.user
  let password := (decodeText? url.password).getD ""
  if user.isEmpty ∧ password.isEmpty then none else some (user, password)

/-- The address as a request names it: nothing that the server is told apart from it is left in. -/
def forRequest (url : Url) : Url :=
  if url.credentials?.isSome then { url with user := "", password := "" } else url

/-- The longest address a request can name, in bytes. -/
def requestLimit : Nat := 65534

/-- Whether a request can name the address: some characters may stand in a host, but not there. -/
def isRequestable (url : Url) : Bool :=
  !url.host.toList.any (· ∈ "\"`\x7b\x7d".toList) && (toString url).utf8ByteSize ≤ requestLimit

end Url

end CellNet
