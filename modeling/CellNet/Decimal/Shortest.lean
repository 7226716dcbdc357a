import CellNet.Binary64

/-!
# The shortest decimal of a float

A float is written with the fewest digits that read back as the same float, and of the decimals
with that many digits the nearest one is taken. The decimals that read back as `m · 2 ^ q` fill the
interval halfway to its two neighbours, ends included when `m` is even. For 1, 2, … digits the two
decimals on either side of the float are tried; the first count with one inside the interval wins.
Which way an exact tie between the two goes is up to the format.
-/

namespace CellNet.Decimal

/-- The digits of a positive decimal: the value is `0.d₁d₂…dₙ · 10 ^ point`, without trailing
zeros. -/
structure Digits where
  digits : List Char
  point : Int
deriving DecidableEq, Repr

/-- Which of two equally near decimals is written. -/
inductive Tie where
  | up
  | even
deriving DecidableEq, Repr

def trimZeros (digits : List Char) : List Char :=
  (digits.reverse.dropWhile (· = '0')).reverse

/-- The digits of a whole number over a power of ten. -/
def Digits.ofNat (n : Nat) (point : Int) (count : Nat) : Digits :=
  let digits := (toString n).toList
  ⟨trimZeros digits, point + ((digits.length : Int) - count)⟩

/-- A positive float in quarters of its last place, with its rounding interval: the value is
`value · 2 ^ exponent / 4`. -/
structure Interval where
  value : Nat
  lower : Nat
  upper : Nat
  exponent : Int
  /-- Whether the ends belong to the interval. -/
  closed : Bool

/-- The rounding interval of `significand · 2 ^ exponent`. Below a power of two floats lie twice as
close. -/
def Interval.of (significand : Nat) (exponent : Int) : Interval where
  value := 4 * significand
  lower :=
    if significand = Binary64.hiddenBit ∧ exponent > Binary64.minExponent then 4 * significand - 1
    else 4 * significand - 2
  upper := 4 * significand + 2
  exponent := exponent - 2
  closed := significand % 2 = 0

/-- The quotient that compares `n` in the interval's unit with a decimal in units of
`10 ^ -places`: one unit of the interval is `num / den` of the decimal's. -/
def Interval.unit (i : Interval) (places : Int) : Nat × Nat :=
  let (n₁, d₁) := if places ≥ 0 then (Nat.pow 10 places.toNat, 1)
    else (1, Nat.pow 10 (-places).toNat)
  Binary64.scale n₁ d₁ (-i.exponent)

/-- Whether the decimal `n · 10 ^ -places` reads back as the float. -/
def Interval.holds (i : Interval) (num den n : Nat) : Bool :=
  if i.closed then i.lower * num ≤ n * den ∧ n * den ≤ i.upper * num
  else i.lower * num < n * den ∧ n * den < i.upper * num

/-- The decimal with `places` places that reads back and is nearest, if one of the two neighbours
reads back. -/
def Interval.nearest? (i : Interval) (tie : Tie) (places : Int) : Option Nat :=
  let (num, den) := i.unit places
  let low := i.value * num / den
  let rest := i.value * num % den
  match i.holds num den low, i.holds num den (low + 1) with
  | false, false => none
  | true, false => some low
  | false, true => some (low + 1)
  | true, true =>
    if 2 * rest < den then some low
    else if 2 * rest > den then some (low + 1)
    else match tie with
      | .up => some (low + 1)
      | .even => some (low + low % 2)

/-- More decimal places than the smallest float needs to show its first digit. -/
def manyPlaces : Nat := 340

/-- The place of the first digit: the value is at least `10 ^ (point - 1)` and below
`10 ^ point`. -/
def Interval.point (i : Interval) : Int :=
  let (num, den) := i.unit manyPlaces
  ((toString (i.value * num / den)).length : Int) - manyPlaces

/-- Seventeen digits always suffice. -/
def maxDigits : Nat := 17

/-- The shortest digits that read back as the positive float `significand · 2 ^ exponent`. -/
def shortest (tie : Tie) (significand : Nat) (exponent : Int) : Digits :=
  let i := Interval.of significand exponent
  let point := i.point
  let found := (List.range maxDigits).findSome? fun k =>
    (i.nearest? tie ((k + 1 : Nat) - point)).map fun n => Digits.ofNat n point (k + 1)
  found.getD ⟨['0'], 1⟩

end CellNet.Decimal
