import CellNet.Text.Hex

/-!
# TOML tokens

The characters of a document are cut into tokens by a machine that reads one character at a time.
Comments leave no token, but every blank between tokens does, as blanks matter in a few places.
Whether a run of other characters is a key or a value is decided later, so dots are part of such a
run.
-/

namespace CellNet.Toml

inductive Token where
  | beginBracket
  | endBracket
  | beginBrace
  | endBrace
  | comma
  | equals
  | newline
  /-- A space, or a tab. -/
  | blank (isSpace : Bool)
  /-- A string; only one written on a single line can be a key. -/
  | string (text : String) (isKey : Bool)
  /-- A run of characters that mean nothing by themselves. -/
  | atom (text : List Char)
deriving DecidableEq, Repr

/-- The four kinds of strings. -/
structure Quoting where
  /-- The quote that begins and ends the string. -/
  quote : Char
  /-- Between three quotes, and on as many lines as needed. -/
  isMultiline : Bool
deriving DecidableEq, Repr

/-- Whether backslashes mean something. -/
def Quoting.hasEscapes (q : Quoting) : Bool := q.quote = '"'

/-- What the machine is in the middle of. Parts of a token are kept last first. -/
inductive Lexeme where
  | between
  | atom (seen : List Char)
  | comment
  /-- One or two quotes that may turn out to begin a string or to be one. -/
  | opening (quote : Char) (isDouble : Bool)
  /-- After three quotes: a line end here is not part of the string. -/
  | firstLine (quote : Char)
  /-- In a string, after some quotes that may end it. -/
  | string (quoting : Quoting) (seen : List Char) (quotes : Nat)
  /-- After a backslash. -/
  | escape (quoting : Quoting) (seen : List Char)
  /-- In a character's number: how many digits are still to come, and the value so far. -/
  | code (quoting : Quoting) (seen : List Char) (missing value : Nat)
  /-- After a backslash at the end of a line, or what may be one. -/
  | fold (quoting : Quoting) (seen : List Char) (isPastEnd : Bool)
deriving Repr

/-- The machine: the tokens read, last first, and the one being read. -/
structure Lexer where
  done : List Token := []
  current : Lexeme := .between
deriving Repr

/-- Characters that may stand in comments and strings of one line. -/
def isPlain (c : Char) : Bool := c = '\t' || (c.toNat ≥ 0x20 && c.toNat ≠ 0x7f)

/-- The tokens of one character. -/
def punctuation? : Char → Option Token
  | '[' => some .beginBracket
  | ']' => some .endBracket
  | '{' => some .beginBrace
  | '}' => some .endBrace
  | ',' => some .comma
  | '=' => some .equals
  | '\n' => some .newline
  | _ => none

/-- The character a letter after a backslash stands for. -/
def escaped? : Char → Option Char
  | '"' => some '"'
  | '\\' => some '\\'
  | 'b' => some '\x08'
  | 'e' => some '\x1b'
  | 'f' => some '\x0c'
  | 'n' => some '\n'
  | 'r' => some '\r'
  | 't' => some '\t'
  | _ => none

/-- How many hexadecimal digits follow a letter after a backslash. -/
def codeLength? : Char → Option Nat
  | 'x' => some 2
  | 'u' => some 4
  | 'U' => some 8
  | _ => none

/-- The character with a number. -/
def ofCode? (n : Nat) : Option Char :=
  if n.isValidChar then some (Char.ofNat n) else none

namespace Lexer

/-- A character that ends nothing and begins something. -/
def begin? (done : List Token) (c : Char) : Option Lexer :=
  match punctuation? c with
  | some token => some { done := token :: done }
  | none =>
    if c = ' ' ∨ c = '\t' then some { done := .blank (c = ' ') :: done }
    else if c = '\r' then some { done }
    else if c = '#' then some ⟨done, .comment⟩
    else if c = '"' ∨ c = '\'' then some ⟨done, .opening c false⟩
    else some ⟨done, .atom [c]⟩

/-- Whether a character goes on with a run. -/
def isAtom (c : Char) : Bool :=
  (punctuation? c).isNone && !" \t\r#\"'".toList.contains c

/-- The token of a finished string. -/
def stringToken (quoting : Quoting) (seen : List Char) : Token :=
  .string (String.ofList seen.reverse) (!quoting.isMultiline)

/-- A character inside a string, no quotes being in doubt. -/
def inString? (done : List Token) (quoting : Quoting) (seen : List Char) (c : Char) :
    Option Lexer :=
  if c = quoting.quote then
    if quoting.isMultiline then some ⟨done, .string quoting seen 1⟩
    else some { done := stringToken quoting seen :: done }
  else if c = '\\' ∧ quoting.hasEscapes then some ⟨done, .escape quoting seen⟩
  else if isPlain c ∨ (quoting.isMultiline ∧ (c = '\n' ∨ c = '\r')) then
    some ⟨done, .string quoting (c :: seen) 0⟩
  else none

/-- A character after quotes in a string of many lines: three to five of them end it, the last
three being its end. -/
def afterQuotes? (done : List Token) (quoting : Quoting) (seen : List Char) (quotes : Nat)
    (c : Char) : Option Lexer :=
  let kept (n : Nat) := List.replicate n quoting.quote ++ seen
  if c = quoting.quote then
    if quotes = 4 then some { done := stringToken quoting (kept 2) :: done }
    else some ⟨done, .string quoting seen (quotes + 1)⟩
  else if quotes ≥ 3 then begin? (stringToken quoting (kept (quotes - 3)) :: done) c
  else inString? done quoting (kept quotes) c

def step? (lexer : Lexer) (c : Char) : Option Lexer :=
  let done := lexer.done
  match lexer.current with
  | .between => begin? done c
  | .atom seen =>
    if isAtom c then some ⟨done, .atom (c :: seen)⟩ else begin? (.atom seen.reverse :: done) c
  | .comment =>
    if c = '\n' then begin? done c
    else if isPlain c ∨ c = '\r' then some lexer
    else none
  | .opening quote false =>
    if c = quote then some ⟨done, .opening quote true⟩ else inString? done ⟨quote, false⟩ [] c
  | .opening quote true =>
    if c = quote then some ⟨done, .firstLine quote⟩ else begin? (.string "" true :: done) c
  | .firstLine quote =>
    if c = '\n' then some ⟨done, .string ⟨quote, true⟩ [] 0⟩
    else if c = '\r' then some lexer
    else inString? done ⟨quote, true⟩ [] c
  | .string quoting seen 0 => inString? done quoting seen c
  | .string quoting seen quotes => afterQuotes? done quoting seen quotes c
  | .escape quoting seen =>
    match escaped? c, codeLength? c with
    | some d, _ => some ⟨done, .string quoting (d :: seen) 0⟩
    | none, some length => some ⟨done, .code quoting seen length 0⟩
    | none, none =>
      if !quoting.isMultiline then none
      else if c = '\n' then some ⟨done, .fold quoting seen true⟩
      else if c = ' ' ∨ c = '\t' ∨ c = '\r' then some ⟨done, .fold quoting seen false⟩
      else none
  | .code quoting seen missing value =>
    (Text.hexDigit? c).bind fun digit =>
      let value := 16 * value + digit
      if missing ≤ 1 then (ofCode? value).map fun d => ⟨done, .string quoting (d :: seen) 0⟩
      else some ⟨done, .code quoting seen (missing - 1) value⟩
  | .fold quoting seen isPastEnd =>
    if c = '\n' then some ⟨done, .fold quoting seen true⟩
    else if c = ' ' ∨ c = '\t' ∨ c = '\r' then some lexer
    else if isPastEnd then inString? done quoting seen c
    else none

/-- The tokens read when the text ends. -/
def finish? (lexer : Lexer) : Option (List Token) :=
  match lexer.current with
  | .between | .comment => some lexer.done.reverse
  | .atom seen => some (.atom seen.reverse :: lexer.done).reverse
  | .opening _ true => some (.string "" true :: lexer.done).reverse
  | .string quoting seen quotes =>
    if quotes ≥ 3 then
      let kept := List.replicate (quotes - 3) quoting.quote ++ seen
      some (stringToken quoting kept :: lexer.done).reverse
    else none
  | _ => none

end Lexer

/-- Whether every carriage return stands before a line end. -/
def returnsPaired : List Char → Bool
  | [] => true
  | '\r' :: '\n' :: rest => returnsPaired rest
  | c :: rest => c ≠ '\r' && returnsPaired rest

/-- Drops a byte order mark. -/
def dropMark : List Char → List Char
  | '\ufeff' :: rest => rest
  | text => text

def tokens? (text : String) : Option (List Token) :=
  let chars := dropMark text.toList
  if returnsPaired chars then
    ((chars.foldlM Lexer.step? {}).bind Lexer.finish?).map (· ++ [.newline])
  else none

end CellNet.Toml
