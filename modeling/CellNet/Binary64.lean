/-!
# Binary floating point, exactly

A finite 64-bit float is `significand · 2 ^ exponent`, up to its sign. This module takes a float
apart (`Binary64.ofFloat`) and rounds an exact quotient to the nearest float, ties to the even
significand (`Binary64.roundRatio`), in natural numbers throughout.
-/

namespace CellNet

/-- What a 64-bit float stands for. -/
inductive Binary64 where
  | nan
  | infinite (negative : Bool)
  /-- The value `significand · 2 ^ exponent`, negated if `negative`. -/
  | finite (negative : Bool) (significand : Nat) (exponent : Int)
deriving DecidableEq, Repr

namespace Binary64

/-- The exponent of the smallest floats. -/
def minExponent : Int := -1074

/-- The least significand of a float that is not among the smallest. -/
def hiddenBit : Nat := Nat.pow 2 52

/-- Takes a float apart. -/
def ofFloat (x : Float) : Binary64 :=
  let bits := x.toBits.toNat
  let negative := bits ≥ Nat.pow 2 63
  let biased : Nat := bits / hiddenBit % Nat.pow 2 11
  let fraction : Nat := bits % hiddenBit
  if biased = Nat.pow 2 11 - 1 then
    if fraction = 0 then .infinite negative else .nan
  else if biased = 0 then .finite negative fraction minExponent
  else .finite negative (hiddenBit + fraction) (minExponent + biased - 1)

/-- A quotient rounded to the nearest whole number, ties to the even one. -/
def roundDiv (num den : Nat) : Nat :=
  let q := num / den
  let r := num % den
  if 2 * r < den then q
  else if 2 * r > den then q + 1
  else q + q % 2

/-- The quotient of `num` and `den` scaled by a power of two. -/
def scale (num den : Nat) (exponent : Int) : Nat × Nat :=
  if exponent ≥ 0 then (num, den <<< exponent.toNat) else (num <<< (-exponent).toNat, den)

/-- The exponent at which a quotient has a 53-bit significand, or the least exponent. -/
def exponentOf (num den : Nat) : Int :=
  let guess : Int := (num.log2 : Int) - den.log2 - 52
  let (n, d) := scale num den guess
  let e := if n / d < hiddenBit then guess - 1 else guess
  max e minExponent

/-- The bit pattern of the non-negative float nearest to `num / den`, ties to even. A significand
that rounds up to 54 bits carries into the exponent field, as it should. -/
def roundRatio (num den : Nat) : UInt64 :=
  let e := exponentOf num den
  let (n, d) := scale num den e
  let m := roundDiv n d
  let biased := if m < hiddenBit then 0 else (e - minExponent).toNat + 1
  let bits := if biased = 0 then m else (biased - 1) * hiddenBit + m
  .ofNat (min bits (0x7ff * hiddenBit))

end Binary64

end CellNet
