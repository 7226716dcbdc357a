import CellNet.Toml.Value
import CellNet.Text.Split
import CellNet.Text.Hex
import CellNet.Text.Unsigned
import CellNet.Decimal.Reader

/-!
# Bare TOML values

What stands without quotes or brackets is a truth value, a whole number in one of four bases, a
float, or a date or time. Digits may be grouped by single underscores between them. A number has to
be representable: a whole number within 128 bits, a float below infinity, though the infinity and
the value that is no number have words of their own.
-/

namespace CellNet.Toml

/-! ## Digits -/

/-- Digits without the underscores that group them. -/
def digits? (isDigit : Char → Bool) (text : List Char) : Option (List Char) :=
  let groups := Text.parts '_' text
  if groups.all fun group => group ≠ [] && group.all isDigit then some groups.flatten else none

/-- Decimal digits that do not begin with a needless zero. -/
def whole? (text : List Char) : Option (List Char) :=
  (digits? Char.isDigit text).filter fun digits => digits.length = 1 ∨ digits.head? ≠ some '0'

/-- The number some digits stand for. -/
def inBase (base : Nat) (digits : List Char) : Nat :=
  digits.foldl (fun n c => base * n + (Text.hexDigit? c).getD 0) 0

/-- Digits of a base. -/
def based? (base : Nat) (text : List Char) : Option Nat :=
  (digits? (fun c => (Text.hexDigit? c).any (· < base)) text).map (inBase base)

/-! ## Numbers -/

def integer? (text : List Char) : Option Int :=
  let plain : Option Int := match text with
    | '0' :: 'x' :: digits => (based? 16 digits).map Int.ofNat
    | '0' :: 'o' :: digits => (based? 8 digits).map Int.ofNat
    | '0' :: 'b' :: digits => (based? 2 digits).map Int.ofNat
    | _ =>
      let (negative, digits) := Decimal.sign text
      (whole? digits).map fun digits =>
        let n : Int := inBase 10 digits
        if negative then -n else n
  plain.filter fun n => -(Nat.pow 2 127 : Int) ≤ n ∧ n < (Nat.pow 2 128 : Int)

def isExponent (text : List Char) : Bool :=
  (digits? Char.isDigit (Decimal.sign text).2).isSome

/-- Whether a text is a decimal with a fraction, an exponent, or both. -/
def isDecimal (text : List Char) : Bool :=
  let body := (Decimal.sign text).2
  let isMark (c : Char) : Bool := c = 'e' || c = 'E'
  let mantissa := body.takeWhile (!isMark ·)
  let exponent := body.dropWhile (!isMark ·)
  let whole := mantissa.takeWhile (· ≠ '.')
  let fraction := mantissa.dropWhile (· ≠ '.')
  (whole? whole).isSome && (fraction ≠ [] || exponent ≠ [])
    && (fraction = [] || (digits? Char.isDigit (fraction.drop 1)).isSome)
    && (exponent = [] || isExponent (exponent.drop 1))

def float? (text : List Char) : Option Float :=
  if (Decimal.sign text).2 = "inf".toList ∨ (Decimal.sign text).2 = "nan".toList then
    Decimal.read? text
  else if isDecimal text then
    (Decimal.read? (text.filter (· ≠ '_'))).filter Float.isFinite
  else none

/-! ## Dates and times -/

/-- Reads a number of exactly `count` digits between two bounds, and gives what follows. -/
def field? (count low high : Nat) (text : List Char) : Option (Nat × List Char) :=
  let digits := text.take count
  if digits.length = count ∧ digits.all Char.isDigit then
    let n := inBase 10 digits
    if low ≤ n ∧ n ≤ high then some (n, text.drop count) else none
  else none

/-- Drops a character that has to come next. -/
def expect? (c : Char) : List Char → Option (List Char)
  | [] => none
  | d :: rest => if d = c then some rest else none

def daysIn (year month : Nat) : Nat :=
  if month = 2 then if year % 4 = 0 ∧ (year % 100 ≠ 0 ∨ year % 400 = 0) then 29 else 28
  else if month ∈ [4, 6, 9, 11] then 30
  else 31

def date? (text : List Char) : Option (List Char) := do
  let (year, rest) ← field? 4 0 9999 text
  let (month, rest) ← field? 2 1 12 (← expect? '-' rest)
  let (_, rest) ← field? 2 1 (daysIn year month) (← expect? '-' rest)
  return rest

/-- Reads the fraction of a second, if there is one, and gives what follows. -/
def secondFraction? : List Char → Option (List Char)
  | '.' :: rest =>
    if (rest.takeWhile Char.isDigit).isEmpty then none else some (rest.dropWhile Char.isDigit)
  | rest => some rest

/-- Reads the seconds of a time, if there are any, and gives what follows. -/
def seconds? : List Char → Option (List Char)
  | ':' :: rest => (field? 2 0 60 rest).bind fun (_, rest) => secondFraction? rest
  | rest => some rest

def time? (text : List Char) : Option (List Char) := do
  let (_, rest) ← field? 2 0 23 text
  let (_, rest) ← field? 2 0 59 (← expect? ':' rest)
  seconds? rest

/-- Whether a text is a distance from universal time, or nothing. -/
def isOffset : List Char → Bool
  | [] => true
  | 'Z' :: rest | 'z' :: rest => rest.isEmpty
  | '+' :: rest | '-' :: rest =>
    match field? 2 0 23 rest with
    | some (_, ':' :: rest) =>
      match field? 2 0 59 rest with
      | some (_, []) => true
      | _ => false
    | _ => false
  | _ => false

/-- Whether a text is a date alone. -/
def isDate (text : List Char) : Bool := date? text = some []

/-- Whether a text is a date, a time, or both with a `T` or a blank between. -/
def isMoment (text : List Char) : Bool :=
  match date? text with
  | some [] => true
  | some (c :: rest) => (c = 'T' || c = 't' || c = ' ') && (time? rest).any isOffset
  | none => time? text = some []

/-! ## All of them -/

/-- Reads a bare value. -/
def bare? (text : List Char) : Option Toml :=
  if text = "true".toList then some (.bool true)
  else if text = "false".toList then some (.bool false)
  else
    match integer? text, float? text with
    | some n, _ => some (.integer n)
    | none, some x => some (.float x)
    | none, none => if isMoment text then some .moment else none

end CellNet.Toml
