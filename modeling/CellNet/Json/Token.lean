import CellNet.Json.Value
import CellNet.Text.Hex

/-!
# JSON tokens

The characters of a document are cut into tokens by a machine that reads one character at a time.
Between tokens it skips white space. In a number it follows the grammar of JSON numbers and ends the
token at the first character the grammar has no place for; in a string it ends at the closing quote.
Control characters have no place in strings, and no other characters may follow a backslash than
JSON names.
-/

namespace CellNet.Json

inductive Token where
  | beginArray
  | endArray
  | beginObject
  | endObject
  | comma
  | colon
  | null
  | bool (value : Bool)
  | number (literal : List Char)
  | string (literal : Literal)
deriving DecidableEq, Repr

/-- Where in a number the reader is. -/
inductive NumberPart where
  /-- After the minus sign. -/
  | sign
  /-- After a leading zero. -/
  | zero
  | whole
  /-- After the point. -/
  | point
  | fraction
  /-- After the `e`. -/
  | mark
  /-- After the sign of the exponent. -/
  | markSign
  | exponent
deriving DecidableEq, Repr

namespace NumberPart

/-- Whether a number may end here. -/
def isComplete : NumberPart → Bool
  | .zero | .whole | .fraction | .exponent => true
  | .sign | .point | .mark | .markSign => false

/-- Where a character leads, if the number goes on with it. -/
def next? (c : Char) : NumberPart → Option NumberPart
  | .sign => if c = '0' then some .zero else if c.isDigit then some .whole else none
  | .zero => beyond
  | .whole => if c.isDigit then some .whole else beyond
  | .point => if c.isDigit then some .fraction else none
  | .fraction =>
    if c.isDigit then some .fraction else if c = 'e' ∨ c = 'E' then some .mark else none
  | .mark =>
    if c.isDigit then some .exponent else if c = '+' ∨ c = '-' then some .markSign else none
  | .markSign | .exponent => if c.isDigit then some .exponent else none
where
  /-- What may follow the whole part. -/
  beyond : Option NumberPart :=
    if c = '.' then some .point else if c = 'e' ∨ c = 'E' then some .mark else none

/-- Where the first character of a number leads. -/
def first? (c : Char) : Option NumberPart :=
  if c = '-' then some .sign else next? c .sign

end NumberPart

/-- What the machine is in the middle of. Parts of a token are kept last first. -/
inductive Lexeme where
  | between
  /-- The rest of a word, and the token it makes. -/
  | word (rest : List Char) (token : Token)
  | number (part : NumberPart) (seen : List Char)
  | string (seen : Literal)
  /-- After a backslash. -/
  | escape (seen : Literal)
  /-- After `\u`: how many digits are still to come, and the value so far. -/
  | hex (seen : Literal) (missing : Nat) (value : Nat)
deriving Repr

/-- The machine: the tokens read, last first, and the one being read. -/
structure Lexer where
  done : List Token := []
  current : Lexeme := .between
deriving Repr

def isSpace (c : Char) : Bool := c = ' ' || c = '\n' || c = '\r' || c = '\t'

/-- The tokens of one character. -/
def punctuation? : Char → Option Token
  | '[' => some .beginArray
  | ']' => some .endArray
  | '{' => some .beginObject
  | '}' => some .endObject
  | ',' => some .comma
  | ':' => some .colon
  | _ => none

/-- The words, by their first letter: the remaining letters and the token. -/
def word? : Char → Option (List Char × Token)
  | 'n' => some (['u', 'l', 'l'], .null)
  | 't' => some (['r', 'u', 'e'], .bool true)
  | 'f' => some (['a', 'l', 's', 'e'], .bool false)
  | _ => none

/-- The character a letter after a backslash stands for. -/
def escaped? : Char → Option Char
  | '"' => some '"'
  | '\\' => some '\\'
  | '/' => some '/'
  | 'b' => some '\x08'
  | 'f' => some '\x0c'
  | 'n' => some '\n'
  | 'r' => some '\r'
  | 't' => some '\t'
  | _ => none

namespace Lexer

/-- A character between tokens. -/
def begin? (done : List Token) (c : Char) : Option Lexer :=
  if isSpace c then some { done }
  else if c = '"' then some ⟨done, .string []⟩
  else
    match punctuation? c, word? c, NumberPart.first? c with
    | some token, _, _ => some { done := token :: done }
    | none, some (rest, token), _ => some ⟨done, .word rest token⟩
    | none, none, some part => some ⟨done, .number part [c]⟩
    | none, none, none => none

/-- The token a number makes if it may end. -/
def endNumber? (done : List Token) (part : NumberPart) (seen : List Char) : Option (List Token) :=
  if part.isComplete then some (.number seen.reverse :: done) else none

def step? (lexer : Lexer) (c : Char) : Option Lexer :=
  let done := lexer.done
  match lexer.current with
  | .between => begin? done c
  | .word [] _ => none
  | .word [last] token => if c = last then some { done := token :: done } else none
  | .word (next :: rest) token => if c = next then some ⟨done, .word rest token⟩ else none
  | .number part seen =>
    match part.next? c with
    | some part => some ⟨done, .number part (c :: seen)⟩
    | none => (endNumber? done part seen).bind (begin? · c)
  | .string seen =>
    if c = '"' then some { done := .string seen.reverse :: done }
    else if c = '\\' then some ⟨done, .escape seen⟩
    else if c.toNat < 0x20 then none
    else some ⟨done, .string (.char c :: seen)⟩
  | .escape seen =>
    if c = 'u' then some ⟨done, .hex seen 4 0⟩
    else (escaped? c).map fun c => ⟨done, .string (.char c :: seen)⟩
  | .hex seen missing value =>
    (Text.hexDigit? c).map fun digit =>
      let value := 16 * value + digit
      if missing ≤ 1 then ⟨done, .string (.unit value :: seen)⟩
      else ⟨done, .hex seen (missing - 1) value⟩

/-- The tokens read when the text ends. -/
def finish? (lexer : Lexer) : Option (List Token) :=
  match lexer.current with
  | .between => some lexer.done.reverse
  | .number part seen => (endNumber? lexer.done part seen).map List.reverse
  | _ => none

end Lexer

def tokens? (text : String) : Option (List Token) :=
  (text.toList.foldlM Lexer.step? {}).bind Lexer.finish?

end CellNet.Json
