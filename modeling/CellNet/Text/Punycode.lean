import CellNet.Text.Split

/-!
# Punycode

A text in ASCII that stands for any text. The ASCII characters of the text come first, behind them a
hyphen, and then a number for each of the others, in the order of the characters: how many places
the reader has to go on before inserting it. A place is a position in the text so far together with
the character that would be inserted there.

The numbers are written in digits of base 36, the lowest first. How large a digit has to be for the
number to go on, its *threshold*, follows a bias that adapts to the numbers seen.
-/

namespace CellNet.Text.Punycode

/-! ## Digits -/

def digit? (c : Char) : Option Nat :=
  if c.isLower then some (c.toNat - 'a'.toNat)
  else if c.isUpper then some (c.toNat - 'A'.toNat)
  else if c.isDigit then some (c.toNat - '0'.toNat + 26)
  else none

def ofDigit (n : Nat) : Char :=
  if n < 26 then Char.ofNat ('a'.toNat + n) else Char.ofNat ('0'.toNat + (n - 26))

/-- From what value on a digit lets the number go on; `step` is 36 for the first digit and grows by
as much with every other. -/
def threshold (bias step : Nat) : Nat := max 1 (min 26 (step - bias))

theorem one_le_threshold (bias step : Nat) : 1 ≤ threshold bias step := by
  unfold threshold; omega

/-- The bias for large numbers: each division by 35 allows for one digit more. -/
def scaled (number base : Nat) : Nat :=
  if 455 < number then scaled (number / 35) (base + 36) else base + 36 * number / (number + 38)
termination_by number

/-- The bias after a number, when the text has reached a length. -/
def adapt (number length : Nat) (isFirst : Bool) : Nat :=
  let number := if isFirst then number / 700 else number / 2
  scaled (number + number / length) 0

/-- The bias in the beginning. -/
def firstBias : Nat := 72

/-- The first character that is not ASCII. -/
def firstCode : Nat := 128

/-! ## Writing -/

def digits (bias step number : Nat) : List Char :=
  let t := threshold bias step
  if number < t then [ofDigit number]
  else ofDigit (t + (number - t) % (36 - t)) :: digits bias (step + 36) ((number - t) / (36 - t))
termination_by number
decreasing_by
  have h := one_le_threshold bias step
  have hle := Nat.div_le_self (number - threshold bias step) (36 - threshold bias step)
  omega

/-- What has been written. -/
structure Writer where
  done : List Char := []
  /-- How many places were passed since the last number. -/
  passed : Nat := 0
  bias : Nat := firstBias
  /-- How many characters the reader has by now. -/
  length : Nat

/-- Passes a character of the text, at the turn of the character with a number. -/
def Writer.pass (start code : Nat) (writer : Writer) (c : Char) : Writer :=
  if c.toNat < code then { writer with passed := writer.passed + 1 }
  else if c.toNat = code then
    { done := writer.done ++ digits writer.bias 36 writer.passed
      passed := 0
      bias := adapt writer.passed (writer.length + 1) (writer.length = start)
      length := writer.length + 1 }
  else writer

/-- Takes the characters with certain numbers in turn; the places of those in between are passed. -/
def Writer.take (text : List Char) (start : Nat) : Nat → List Nat → Writer → Writer
  | _, [], writer => writer
  | before, code :: codes, writer =>
    let writer := { writer with passed := writer.passed + (code - before) * (writer.length + 1) }
    let writer := text.foldl (Writer.pass start code) writer
    Writer.take text start (code + 1) codes { writer with passed := writer.passed + 1 }

/-- Whether a character is ASCII. -/
def isBasic (c : Char) : Bool := c.toNat < firstCode

def encode (text : List Char) : List Char :=
  let basic := text.filter isBasic
  let codes := ((text.filter (!isBasic ·)).map Char.toNat).mergeSort.eraseDups
  let writer := Writer.take text basic.length firstCode codes { length := basic.length }
  basic ++ (if basic.isEmpty then [] else ['-']) ++ writer.done

/-! ## Reading -/

/-- What has been read, and the number being read. -/
structure Reader where
  text : List Char
  /-- Where the last character was inserted, and its number. -/
  position : Nat := 0
  code : Nat := firstCode
  bias : Nat := firstBias
  sum : Nat := 0
  weight : Nat := 1
  step : Nat := 36

/-- Numbers stay below this one. -/
def limit : Nat := Nat.pow 2 32

/-- Goes on by a number of places and inserts a character there. -/
def Reader.insert? (reader : Reader) (passed : Nat) : Option Reader :=
  let length := reader.text.length + 1
  let place := reader.position + passed
  let code := reader.code + place / length
  if code.isValidChar then
    some { text := reader.text.insertIdx (place % length) (Char.ofNat code)
           position := place % length + 1
           code
           bias := adapt passed length (reader.position = 0) }
  else none

def Reader.step? (reader : Reader) (c : Char) : Option Reader :=
  (digit? c).bind fun digit =>
    let t := threshold reader.bias reader.step
    let sum := reader.sum + digit * reader.weight
    let weight := reader.weight * (36 - t)
    if digit < t then reader.insert? sum
    else if weight < limit then some { reader with sum, weight, step := reader.step + 36 }
    else none

/-- The text that something in ASCII stands for. A hyphen that nothing stands in front of is taken
for a digit, so it makes no sense. -/
def decode? (text : List Char) : Option (List Char) :=
  let (basic, numbers) := match splitLast ['-'] text with
    | some (c :: basic, numbers) => (c :: basic, numbers)
    | _ => ([], text)
  if basic.all isBasic then
    (numbers.foldlM Reader.step? { text := basic }).bind fun reader =>
      if reader.step = 36 then some reader.text else none
  else none

end CellNet.Text.Punycode
