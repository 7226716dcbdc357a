/-!
# Reading UTF-8 that may be broken

`decode` reads bytes as UTF-8 whatever they are. A leading byte order mark is dropped. Every longest
run of bytes that begins a character and cannot be completed, and every other byte that fits
nowhere, becomes one replacement character.
-/

namespace CellNet.Text.Utf8

/-- Stands for bytes that are no character. -/
def replacement : Char := '\ufffd'

/-- A character whose first bytes have been read. -/
structure Pending where
  /-- How many bytes are still to come. -/
  missing : Nat
  /-- The least value the next byte may have. -/
  lower : Nat
  /-- The greatest value the next byte may have. -/
  upper : Nat
  /-- The bits read so far. -/
  bits : Nat
deriving DecidableEq, Repr

/-- The reader: the characters read, last first, and the one being read. -/
structure Decoder where
  done : List Char := []
  pending : Option Pending := none
deriving DecidableEq, Repr

namespace Decoder

def begin (done : List Char) (byte : Nat) : Decoder :=
  if byte < 0x80 then { done := Char.ofNat byte :: done }
  else if byte < 0xc2 then { done := replacement :: done }
  else if byte < 0xe0 then ⟨done, some ⟨1, 0x80, 0xbf, byte - 0xc0⟩⟩
  else if byte < 0xf0 then
    let lower := if byte = 0xe0 then 0xa0 else 0x80
    let upper := if byte = 0xed then 0x9f else 0xbf
    ⟨done, some ⟨2, lower, upper, byte - 0xe0⟩⟩
  else if byte < 0xf5 then
    let lower := if byte = 0xf0 then 0x90 else 0x80
    let upper := if byte = 0xf4 then 0x8f else 0xbf
    ⟨done, some ⟨3, lower, upper, byte - 0xf0⟩⟩
  else { done := replacement :: done }

def step (decoder : Decoder) (byte : UInt8) : Decoder :=
  let byte := byte.toNat
  match decoder.pending with
  | none => begin decoder.done byte
  | some p =>
    if p.lower ≤ byte ∧ byte ≤ p.upper then
      let bits := 0x40 * p.bits + (byte - 0x80)
      if p.missing ≤ 1 then { done := Char.ofNat bits :: decoder.done }
      else ⟨decoder.done, some ⟨p.missing - 1, 0x80, 0xbf, bits⟩⟩
    else begin (replacement :: decoder.done) byte

def finish (decoder : Decoder) : List Char :=
  match decoder.pending with
  | none => decoder.done.reverse
  | some _ => (replacement :: decoder.done).reverse

end Decoder

/-- Drops a leading byte order mark. -/
def dropMark : List UInt8 → List UInt8
  | 0xef :: 0xbb :: 0xbf :: rest => rest
  | bytes => bytes

def decode (bytes : ByteArray) : String :=
  String.ofList ((dropMark bytes.toList).foldl Decoder.step {}).finish

end CellNet.Text.Utf8
