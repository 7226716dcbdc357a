import CellNet.Text.Unsigned

/-!
# JSON values

A value is kept as it was written, short of white space: numbers are literals and may have any size,
objects keep their members in order, repeated keys included, and strings keep the code units that
were written in hexadecimal apart from plain characters. What a string says is `text?`; it is
undefined where a code unit of a surrogate pair stands alone.
-/

namespace CellNet

namespace Json

/-- A part of a string literal: a character, or a UTF-16 code unit given in hexadecimal. -/
inductive Piece where
  | char (c : Char)
  | unit (code : Nat)
deriving DecidableEq, Repr

/-- The parts of a string literal. -/
abbrev Literal := List Piece

end Json

inductive Json where
  | null
  | bool (value : Bool)
  | number (literal : List Char)
  | string (literal : Json.Literal)
  | array (items : List Json)
  | object (members : List (Json.Literal × Json))
deriving Repr

namespace Json

/-! ## Strings -/

/-- The literal of a text, with nothing in hexadecimal. -/
def Literal.ofText (text : String) : Literal := text.toList.map .char

/-- The first unit of a surrogate pair. -/
def isLead (code : Nat) : Bool := 0xd800 ≤ code && code < 0xdc00

/-- The second unit of a surrogate pair. -/
def isTrail (code : Nat) : Bool := 0xdc00 ≤ code && code < 0xe000

/-- The character a surrogate pair stands for. -/
def ofPair (lead trail : Nat) : Char :=
  Char.ofNat (0x10000 + (lead - 0xd800) * 0x400 + (trail - 0xdc00))

/-- The characters a literal stands for, if its surrogates come in pairs. -/
def Literal.chars? : Literal → Option (List Char)
  | [] => some []
  | .char c :: rest => (chars? rest).map (c :: ·)
  | .unit lead :: .unit trail :: rest =>
    if isLead lead && isTrail trail then (chars? rest).map (ofPair lead trail :: ·)
    else if isLead lead || isTrail lead then none
    else (chars? (.unit trail :: rest)).map (Char.ofNat lead :: ·)
  | .unit code :: rest =>
    if isLead code || isTrail code then none else (chars? rest).map (Char.ofNat code :: ·)

/-- The text a literal stands for. -/
def Literal.text? (literal : Literal) : Option String := literal.chars?.map String.ofList

theorem Literal.text?_ofText (text : String) : (ofText text).text? = some text := by
  have h : ∀ cs : List Char, chars? (cs.map .char) = some cs := by
    intro cs
    induction cs with
    | nil => rfl
    | cons c cs ih => simp [chars?, ih]
  simp [text?, ofText, h]

/-! ## Making values -/

def ofText (text : String) : Json := .string (.ofText text)

def ofNat (n : Nat) : Json := .number (toString n).toList

/-- An object with plain keys. -/
def ofFields (fields : List (String × Json)) : Json :=
  .object (fields.map fun (key, value) => (.ofText key, value))

/-! ## Looking at values -/

/-- A whole number without sign, fraction or exponent that fits in a word. -/
def nat? : Json → Option Nat
  | .number literal => Text.Unsigned.ofDigits? literal
  | _ => none

def bool? : Json → Option Bool
  | .bool b => some b
  | _ => none

def text? : Json → Option String
  | .string literal => literal.text?
  | _ => none

end Json

end CellNet
