import CellNet.Json.Value
import CellNet.Decimal.Text

/-!
# Writing JSON

A value is written in one line without spaces (`compact`), or with one part to a line, indented by
two spaces (`pretty`). Strings escape the quote, the backslash and the control characters, those
with a letter of their own by that letter.
-/

namespace CellNet.Json

/-! ## Numbers that are floats -/

/-- A float; JSON has no form for one that is not finite. -/
def ofFloat (x : Float) : Json :=
  match Decimal.json? x with
  | some text => .number text.toList
  | none => .null

/-! ## Strings -/

/-- The lower case hexadecimal digit for a value. -/
def hexChar (n : Nat) : Char := Nat.digitChar (n % 16)

def unitText (code : Nat) : List Char :=
  ['\\', 'u', hexChar (code / 0x1000), hexChar (code / 0x100), hexChar (code / 0x10), hexChar code]

/-- A character as it stands in a string literal. -/
def charText : Char → List Char
  | '"' => ['\\', '"']
  | '\\' => ['\\', '\\']
  | '\x08' => ['\\', 'b']
  | '\x0c' => ['\\', 'f']
  | '\n' => ['\\', 'n']
  | '\r' => ['\\', 'r']
  | '\t' => ['\\', 't']
  | c => if c.toNat < 0x20 then unitText c.toNat else [c]

def Literal.quoted (literal : Literal) : String :=
  let inner := literal.flatMap fun
    | .char c => charText c
    | .unit code => unitText code
  "\"" ++ String.ofList inner ++ "\""

/-! ## Values -/

mutual

/-- A value in one line. -/
def compact : Json → String
  | .null => "null"
  | .bool true => "true"
  | .bool false => "false"
  | .number literal => String.ofList literal
  | .string literal => literal.quoted
  | .array items => "[" ++ ",".intercalate (compactItems items) ++ "]"
  | .object members => "\x7b" ++ ",".intercalate (compactMembers members) ++ "\x7d"

def compactItems : List Json → List String
  | [] => []
  | item :: items => item.compact :: compactItems items

def compactMembers : List (Literal × Json) → List String
  | [] => []
  | (key, value) :: members => (key.quoted ++ ":" ++ value.compact) :: compactMembers members

end

/-- Parts between brackets, each on a line of its own; brackets without parts stay together. -/
def block (depth : Nat) (first last : String) (parts : List String) : String :=
  if parts.isEmpty then first ++ last
  else
    let line (depth : Nat) := "\n" ++ String.ofList (List.replicate (2 * depth) ' ')
    first ++ line (depth + 1) ++ ("," ++ line (depth + 1)).intercalate parts ++ line depth ++ last

mutual

/-- A value with its parts on lines of their own, `depth` levels in. -/
def prettyAt (depth : Nat) : Json → String
  | .array items => block depth "[" "]" (prettyItems depth items)
  | .object members => block depth "\x7b" "\x7d" (prettyMembers depth members)
  | value => value.compact

/-- The items of an array at a depth. -/
def prettyItems (depth : Nat) : List Json → List String
  | [] => []
  | item :: items => item.prettyAt (depth + 1) :: prettyItems depth items

/-- The members of an object at a depth. -/
def prettyMembers (depth : Nat) : List (Literal × Json) → List String
  | [] => []
  | (key, value) :: members =>
    (key.quoted ++ ": " ++ value.prettyAt (depth + 1)) :: prettyMembers depth members

end

def pretty (value : Json) : String := value.prettyAt 0

end CellNet.Json
