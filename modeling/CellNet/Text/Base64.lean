/-!
# Base64

Bytes in a text of 64 digits, four for each three bytes. What is missing of the last three bytes is
made up for by equals signs, so the length is always a multiple of four (`four_dvd_length_encode`).
-/

namespace CellNet.Text.Base64

/-- The digit with a value below 64. -/
def digit (n : Nat) : Char :=
  if n < 26 then Char.ofNat ('A'.toNat + n)
  else if n < 52 then Char.ofNat ('a'.toNat + (n - 26))
  else if n < 62 then Char.ofNat ('0'.toNat + (n - 52))
  else if n = 62 then '+'
  else '/'

def digits (a b c : UInt8) : List Char :=
  let n := 65536 * a.toNat + 256 * b.toNat + c.toNat
  [n / 262144, n / 4096 % 64, n / 64 % 64, n % 64].map digit

def encode : List UInt8 → List Char
  | a :: b :: c :: rest => digits a b c ++ encode rest
  | [a, b] => (digits a b 0).take 3 ++ ['=']
  | [a] => (digits a 0 0).take 2 ++ ['=', '=']
  | [] => []

theorem four_dvd_length_encode (bytes : List UInt8) : 4 ∣ (encode bytes).length := by
  fun_induction encode bytes with
  | case1 a b c rest ih =>
    rw [List.length_append]
    exact Nat.dvd_add (by simp [digits]) ih
  | case2 => simp [digits]
  | case3 => simp [digits]
  | case4 => simp

end CellNet.Text.Base64
