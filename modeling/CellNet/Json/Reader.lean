import CellNet.Json.Token

/-!
# Reading JSON

The tokens of a document are put together by a machine that keeps the arrays and objects it is
inside of, so values may nest to any depth. A document is exactly one value.
-/

namespace CellNet.Json

/-- An array or object that is still open, its parts last first. -/
inductive Frame where
  | array (items : List Json)
  /-- An object, and the key whose value comes next. -/
  | object (members : List (Literal × Json)) (key : Literal)

/-- What may come next. -/
inductive Expect where
  | value
  /-- The first item of an array, or its end. -/
  | item
  /-- The first key of an object, or its end. -/
  | member (isFirst : Bool)
  | colon (key : Literal)
  /-- A value is complete: a comma or the end of what it is in. -/
  | after (value : Json)

/-- The machine: the innermost open frame first. An object that waits for a key has its members
on top of the frames around it. -/
structure Assembly where
  frames : List Frame := []
  /-- The members of the object that waits for a key, last first. -/
  members : List (Literal × Json) := []
  expect : Expect := .value

namespace Assembly

/-- The value a token is by itself. -/
def scalar? : Token → Option Json
  | .null => some .null
  | .bool b => some (.bool b)
  | .number literal => some (.number literal)
  | .string literal => some (.string literal)
  | _ => none

/-- A token where a value begins. -/
def value? (frames : List Frame) : Token → Option Assembly
  | .beginArray => some { frames := .array [] :: frames, expect := .item }
  | .beginObject => some { frames, expect := .member true }
  | token => (scalar? token).map fun value => { frames, expect := .after value }

def step? (a : Assembly) (token : Token) : Option Assembly :=
  match a.expect, token, a.frames with
  | .value, token, frames => value? frames token
  | .item, .endArray, .array items :: frames =>
    some { frames, expect := .after (.array items.reverse) }
  | .item, token, frames => value? frames token
  | .member true, .endObject, frames => some { frames, expect := .after (.object []) }
  | .member _, .string key, frames => some { a with frames, expect := .colon key }
  | .member _, _, _ => none
  | .colon key, .colon, frames => some { frames := .object a.members key :: frames }
  | .colon _, _, _ => none
  | .after value, .comma, .array items :: frames =>
    some { frames := .array (value :: items) :: frames }
  | .after value, .endArray, .array items :: frames =>
    some { frames, expect := .after (.array (value :: items).reverse) }
  | .after value, .comma, .object members key :: frames =>
    some { frames, members := (key, value) :: members, expect := .member false }
  | .after value, .endObject, .object members key :: frames =>
    some { frames, expect := .after (.object ((key, value) :: members).reverse) }
  | .after _, _, _ => none

/-- The value that is complete when the tokens end. -/
def finish? (a : Assembly) : Option Json :=
  match a.expect, a.frames with
  | .after value, [] => some value
  | _, _ => none

end Assembly

def read? (text : String) : Option Json :=
  (tokens? text).bind fun tokens => (tokens.foldlM Assembly.step? {}).bind Assembly.finish?

end CellNet.Json
