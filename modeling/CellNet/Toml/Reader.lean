import CellNet.Toml.Token
import CellNet.Toml.Scalar

/-!
# Reading TOML

The tokens of a document are put together by a machine that keeps the arrays and tables in braces it
is inside of. A header opens a table for the lines that follow; each line gives a value under a key.
Inside brackets and braces a line may end between any two tokens, though not within a key. A
document in which anything is given twice, or is given in a place that holds something else, is not
read at all, and neither is one with brackets or keys that go too deep.
-/

namespace CellNet.Toml

/-- How many brackets and braces may be open around a value, and how many names a key may have. -/
def maxDepth : Nat := 80

/-! ## Keys -/

/-- A part of a key, or the dot between parts. -/
inductive KeyPart where
  | dot
  | name (text : String)
deriving DecidableEq, Repr

/-- Whether a character may stand in a key without quotes. -/
def isBareKey (c : Char) : Bool := c.isAlphanum || c = '_' || c = '-'

/-- The names and dots of a run of characters. -/
def keyParts? (text : List Char) : Option (List KeyPart) :=
  let names := Text.parts '.' text
  if names.all (·.all isBareKey) then
    let parts := names.map fun name => if name.isEmpty then [] else [.name (String.ofList name)]
    some ([KeyPart.dot].intercalate parts)
  else none

/-- The parts of a key a token holds. -/
def Token.keyParts? : Token → Option (List KeyPart)
  | .string name true => some [.name name]
  | .atom run => Toml.keyParts? run
  | _ => none

/-- Names with single dots between them. -/
def names? : List KeyPart → Option (List String)
  | [.name name] => some [name]
  | .name name :: .dot :: rest => (names? rest).map (name :: ·)
  | _ => none

/-- The path a key stands for. -/
def path? (parts : List KeyPart) : Option (List String) :=
  (names? parts).filter fun names => names.length ≤ maxDepth

/-! ## The machine -/

/-- What is still open around a value. -/
inductive Frame where
  /-- A line of the document, with its key. -/
  | line (path : List String)
  /-- An array, its items last first. -/
  | array (items : List Toml)
  /-- A table in braces, with the key whose value comes next. -/
  | braces (entries : Entries) (path : List String)

/-- What may come next. -/
inductive Expect where
  /-- The beginning of a line. -/
  | line
  /-- After the first bracket of a header. -/
  | bracket
  /-- The key of a header. -/
  | header (isItem : Bool) (seen : List KeyPart)
  /-- The second of the brackets that end a header. -/
  | bracketEnd (path : List String)
  | lineEnd
  /-- The key of a line. -/
  | key (seen : List KeyPart)
  /-- A key in braces, or their end. -/
  | member (entries : Entries) (seen : List KeyPart)
  /-- After a key in braces whose line has ended: the sign before its value. -/
  | equals
  | value
  /-- After a date that a time may follow, and perhaps the space between. -/
  | date (text : List Char) (hasSpace : Bool)
  /-- After a value inside brackets or braces. -/
  | after

/-- The machine. -/
structure Assembly where
  /-- The document so far. -/
  root : Entries := []
  /-- The table that lines are added to. -/
  current : List String := []
  frames : List Frame := []
  expect : Expect := .line

namespace Assembly

/-- A value is complete. -/
def complete? (a : Assembly) (value : Toml) : Option Assembly :=
  match a.frames with
  | [] => none
  | .line path :: _ =>
    (a.root.within (Entries.addAt? value path) a.current).map fun root =>
      { a with root, frames := [], expect := .lineEnd }
  | .array items :: frames =>
    some { a with frames := .array (value :: items) :: frames, expect := .after }
  | .braces entries path :: frames =>
    (entries.addAt? value path).map fun entries =>
      { a with frames := .braces entries [] :: frames, expect := .after }

/-- The innermost brackets or braces end. -/
def close? (a : Assembly) : Token → Option Assembly
  | .endBracket =>
    match a.frames with
    | .array items :: frames => { a with frames }.complete? (.array items.reverse)
    | _ => none
  | .endBrace =>
    match a.frames with
    | .braces entries _ :: frames => { a with frames }.complete? (.table .inline entries)
    | _ => none
  | _ => none

/-- Brackets or braces begin; what is open around them is the line and `maxDepth` others at most. -/
def enter? (a : Assembly) (frames : List Frame) (expect : Expect) : Option Assembly :=
  if a.frames.length ≤ maxDepth then some { a with frames, expect } else none

/-- A token where a value begins. Inside brackets and braces lines may end here, and in an array so
may the array. -/
def value? (a : Assembly) (token : Token) : Option Assembly :=
  match token, a.frames with
  | .blank _, _ => some a
  | .newline, .array _ :: _ | .newline, .braces _ _ :: _ => some a
  | .endBracket, .array _ :: _ => a.close? .endBracket
  | .string content _, _ => a.complete? (.text content)
  | .atom run, _ =>
    if isDate run then some { a with expect := .date run false }
    else (bare? run).bind a.complete?
  | .beginBracket, frames => a.enter? (.array [] :: frames) .value
  | .beginBrace, frames => a.enter? frames (.member [] [])
  | _, _ => none

/-- The key of a header is complete. -/
def openHeader? (a : Assembly) (isItem : Bool) (path : List String) : Option Assembly :=
  let root? := if isItem then a.root.openItem? path else a.root.openTable? path
  root?.map fun root => { a with root, current := path, expect := .lineEnd }

/-- A token of a header's key. -/
def header? (a : Assembly) (isItem : Bool) (seen : List KeyPart) : Token → Option Assembly
  | .blank _ => some { a with expect := .header isItem seen }
  | .endBracket =>
    (path? seen).bind fun path =>
      if isItem then some { a with expect := .bracketEnd path } else a.openHeader? false path
  | token => token.keyParts?.map fun parts => { a with expect := .header isItem (seen ++ parts) }

/-- The key of a value in braces is complete. -/
def openMember? (a : Assembly) (entries : Entries) (seen : List KeyPart) (expect : Expect) :
    Option Assembly :=
  (path? seen).map fun path => { a with frames := .braces entries path :: a.frames, expect }

/-- Reads one token, no date being in doubt. -/
def plainStep? (a : Assembly) (token : Token) : Option Assembly :=
  match a.expect, token with
  | .line, .blank _ | .line, .newline => some a
  | .line, .beginBracket => some { a with expect := .bracket }
  | .line, token => token.keyParts?.map fun parts => { a with expect := .key parts }
  | .bracket, .beginBracket => some { a with expect := .header true [] }
  | .bracket, token => a.header? false [] token
  | .header isItem seen, token => a.header? isItem seen token
  | .bracketEnd path, .endBracket => a.openHeader? true path
  | .bracketEnd _, _ => none
  | .lineEnd, .blank _ => some a
  | .lineEnd, .newline => some { a with expect := .line }
  | .lineEnd, _ => none
  | .key _, .blank _ => some a
  | .key seen, .equals =>
    (path? seen).map fun path => { a with frames := [.line path], expect := .value }
  | .key seen, token => token.keyParts?.map fun parts => { a with expect := .key (seen ++ parts) }
  | .member _ _, .blank _ => some a
  | .member _ [], .newline => some a
  | .member entries [], .endBrace => a.complete? (.table .inline entries)
  | .member entries seen, .newline => a.openMember? entries seen .equals
  | .member entries seen, .equals => a.openMember? entries seen .value
  | .member entries seen, token =>
    token.keyParts?.map fun parts => { a with expect := .member entries (seen ++ parts) }
  | .equals, .blank _ | .equals, .newline => some a
  | .equals, .equals => some { a with expect := .value }
  | .equals, _ => none
  | .value, token => a.value? token
  | .after, .blank _ | .after, .newline => some a
  | .after, .comma =>
    match a.frames with
    | .braces entries _ :: frames => some { a with frames, expect := .member entries [] }
    | _ => some { a with expect := .value }
  | .after, token => a.close? token
  | .date _ _, _ => none

/-- A date turned out to have no time. -/
def settle? (a : Assembly) : Option Assembly :=
  match a.expect with
  | .date _ _ => a.complete? .moment
  | _ => some a

/-- Whether a run of characters may be the time of a date. -/
def isTimeLike (text : List Char) : Bool :=
  match text with
  | a :: b :: ':' :: _ => a.isDigit && b.isDigit
  | _ => false

def step? (a : Assembly) (token : Token) : Option Assembly :=
  match a.expect, token with
  | .date date false, .blank true => some { a with expect := .date date true }
  | .date date true, .atom time =>
    if isTimeLike time then (bare? (date ++ ' ' :: time)).bind a.complete? else none
  | .date _ _, token => a.settle?.bind (plainStep? · token)
  | _, token => a.plainStep? token

def finish? (a : Assembly) : Option Toml :=
  match a.expect with
  | .line => some (.table .header a.root)
  | _ => none

end Assembly

def read? (text : String) : Option Toml :=
  (tokens? text).bind fun tokens => (tokens.foldlM Assembly.step? {}).bind Assembly.finish?

end CellNet.Toml
