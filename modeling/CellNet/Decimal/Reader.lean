import CellNet.Binary64
import CellNet.Text.Unsigned

/-!
# Reading decimals

A decimal is an optional sign, digits with an optional point among or around them, and an optional
exponent; or one of the words `inf`, `infinity` and `nan`, in any case. It reads as the nearest
float, ties to even.
-/

namespace CellNet.Decimal

/-- Beyond this power of ten a decimal rounds to infinity or to zero. -/
def farExponent : Int := 400

/-- The float nearest to `digits · 10 ^ exponent`. -/
def nearest (negative : Bool) (digits : Nat) (exponent : Int) : Float :=
  let size : Int := (toString digits).length + exponent
  let magnitude : UInt64 :=
    if digits = 0 ∨ size < -farExponent then 0
    else if size > farExponent then .ofNat (0x7ff * Binary64.hiddenBit)
    else if exponent ≥ 0 then Binary64.roundRatio (digits * Nat.pow 10 exponent.toNat) 1
    else Binary64.roundRatio digits (Nat.pow 10 (-exponent).toNat)
  .ofBits (if negative then magnitude + 0x8000000000000000 else magnitude)

def sign : List Char → Bool × List Char
  | '-' :: rest => (true, rest)
  | '+' :: rest => (false, rest)
  | rest => (false, rest)

def exponent? (text : List Char) : Option Int :=
  let (negative, digits) := sign text
  if digits ≠ [] ∧ digits.all Char.isDigit then
    let n : Int := Text.Unsigned.value digits
    some (if negative then -n else n)
  else none

/-- Reads digits, point and exponent. -/
def unsigned? (negative : Bool) (text : List Char) : Option Float := do
  let whole := text.takeWhile Char.isDigit
  let rest := text.drop whole.length
  let (fraction, rest) := match rest with
    | '.' :: rest => (rest.takeWhile Char.isDigit, rest.dropWhile Char.isDigit)
    | rest => ([], rest)
  if whole ++ fraction = [] then none
  let power ← match rest with
    | [] => some 0
    | c :: rest => if c = 'e' ∨ c = 'E' then exponent? rest else none
  some (nearest negative (Text.Unsigned.value (whole ++ fraction)) (power - fraction.length))

def read? (text : List Char) : Option Float :=
  let (negative, rest) := sign text
  let word := String.ofList (rest.map Char.toLower)
  if word = "nan" then some (0 / 0)
  else if word = "inf" ∨ word = "infinity" then
    some (.ofBits (if negative then 0xfff0000000000000 else 0x7ff0000000000000))
  else unsigned? negative rest

end CellNet.Decimal
