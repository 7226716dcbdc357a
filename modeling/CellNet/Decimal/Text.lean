import CellNet.Decimal.Shortest

/-!
# Numbers in texts

Two texts show floats. A drawing writes coordinates positionally, `50` rather than `50.0`, however
large or small they are. A JSON document writes a float with a point or an exponent, so that it
stays a float, and has no form for what is not finite.
-/

namespace CellNet.Decimal

def zeros (n : Nat) : String := String.ofList (List.replicate n '0')

/-- The digits with the point at its place: `0.0012`, `12.5`, `1200`. -/
def Digits.positional (d : Digits) : String :=
  let count := d.digits.length
  if d.point ≤ 0 then "0." ++ zeros (-d.point).toNat ++ String.ofList d.digits
  else
    let point := d.point.toNat
    if count ≤ point then String.ofList d.digits ++ zeros (point - count)
    else String.ofList (d.digits.take point) ++ "." ++ String.ofList (d.digits.drop point)

/-- The digits with one of them before the point and a signed exponent: `1.25e+30`, `5e-7`. -/
def Digits.scientific (d : Digits) : String :=
  let exponent := (if d.point ≤ 0 then "e-" else "e+") ++ toString (d.point - 1).natAbs
  match d.digits with
  | [] => "0" ++ exponent
  | [c] => c.toString ++ exponent
  | c :: rest => c.toString ++ "." ++ String.ofList rest ++ exponent

/-- Puts a minus sign in front of negative numbers. -/
def signed (negative : Bool) (text : String) : String := if negative then "-" ++ text else text

/-- A coordinate in a drawing: positional, a tie going up; zero has no sign. -/
def coordinate (x : Float) : String :=
  match Binary64.ofFloat x with
  | .nan => "NaN"
  | .infinite negative => signed negative "inf"
  | .finite negative significand exponent =>
    if significand = 0 then "0"
    else signed negative (shortest .up significand exponent).positional

/-- Digits in JSON: positional from `0.00001` up to sixteen digits before the point, with `.0`
after a whole number, and scientific beyond. -/
def Digits.json (d : Digits) : String :=
  if -5 < d.point ∧ d.point ≤ 16 then
    if d.digits.length ≤ d.point.toNat then d.positional ++ ".0" else d.positional
  else d.scientific

/-- A float in JSON, a tie going to the even digit; `none` if it is not finite. -/
def json? (x : Float) : Option String :=
  match Binary64.ofFloat x with
  | .nan | .infinite _ => none
  | .finite negative significand exponent =>
    if significand = 0 then some (signed negative "0.0")
    else some (signed negative (shortest .even significand exponent).json)

end CellNet.Decimal
