import CellNet.Json.Reader
import CellNet.Text.Unsigned
import Std.Data.ExtTreeMap

/-!
# Records and maps in JSON

Two kinds of thing are written as JSON objects. A *record* has fields known by name: other members
are skipped, and a field given twice is an error. A record may also be written as an array of its
fields in order, where fields at the end may be left out. A *map* has keys of its own: it is always
an object, and of entries under one key the last holds, though all of them must be readable.
-/

namespace CellNet.Json

variable {κ α : Type}

/-! ## Records -/

/-- Pairs the fields of a record with the items of an array; too many items are an error. -/
def positionalFields? : List String → List Json → Option (List (Option Json))
  | [], [] => some []
  | [], _ :: _ => none
  | _ :: names, [] => (positionalFields? names []).map (none :: ·)
  | _ :: names, item :: items => (positionalFields? names items).map (some item :: ·)

/-- The values given for a field among members whose keys have been read. -/
def namedField? (members : List (String × Json)) (name : String) : Option (Option Json) :=
  match members.filter (·.1 = name) with
  | [] => some none
  | [(_, value)] => some (some value)
  | _ => none

/-- The members of an object with their keys read. -/
def keyedMembers? (members : List (Literal × Json)) : Option (List (String × Json)) :=
  members.mapM fun (key, value) => key.text?.map (·, value)

/-- The fields of a record, in the order of their names; `none` for a field that is not given. -/
def fields? (names : List String) : Json → Option (List (Option Json))
  | .array items => positionalFields? names items
  | .object members => (keyedMembers? members).bind fun members => names.mapM (namedField? members)
  | _ => none

/-- A field that has to be given. -/
def required (read : Json → Option α) (field : Option Json) : Option α := field.bind read

/-- A field that may be left out. -/
def optional (default : α) (read : Json → Option α) : Option Json → Option α
  | none => some default
  | some value => read value

/-- A value that may be `null`. -/
def nullable (read : Json → Option α) : Json → Option (Option α)
  | .null => some none
  | value => (read value).map some

/-! ## Maps -/

/-- A map, given how its keys and values are read. -/
def map? [Ord κ] [Std.TransOrd κ] (key : Literal → Option κ) (read : Json → Option α) :
    Json → Option (Std.ExtTreeMap κ α)
  | .object members =>
    members.foldlM (fun entries (k, v) => do return entries.insert (← key k) (← read v)) ∅
  | _ => none

/-- A number used as a key: a whole number as JSON writes it, no digit of it in hexadecimal. -/
def Literal.nat? (literal : Literal) : Option Nat := do
  let digits ← literal.mapM fun
    | .char c => some c
    | .unit _ => none
  if digits.length > 1 ∧ digits.head? = some '0' then none else Text.Unsigned.ofDigits? digits

end CellNet.Json
