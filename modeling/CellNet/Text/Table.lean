/-!
# Tables of characters

What a standard says about single characters is kept in a compact writing: entries of a capital
letter and numbers in base 36, with points between the numbers. The entries follow the characters in
order, from number zero on; each is about one character or about some neighbours, which then share a
*stretch* of the table. Behind its last stretch a table says nothing.
-/

namespace CellNet.Text.Table

/-! ## The writing -/

structure Entry where
  mark : Char
  numbers : List Nat
deriving DecidableEq, Repr

/-- The value of a digit in base 36. -/
def digit (c : Char) : Nat :=
  if c.isDigit then c.toNat - '0'.toNat else c.toNat - 'a'.toNat + 10

/-- Reads one character more; the entries and their numbers are kept last first. -/
def read (entries : List Entry) (c : Char) : List Entry :=
  match entries with
  | [] => [⟨c, []⟩]
  | entry :: earlier =>
    if c.isUpper then ⟨c, []⟩ :: entry :: earlier
    else if c = '.' then { entry with numbers := 0 :: entry.numbers } :: earlier
    else
      match entry.numbers with
      | [] => { entry with numbers := [digit c] } :: earlier
      | n :: ns => { entry with numbers := (36 * n + digit c) :: ns } :: earlier

/-- The entries of a table that is written on some lines. -/
def entries (lines : List String) : List Entry :=
  ((lines.flatMap String.toList).foldl read []).reverse.map fun entry =>
    { entry with numbers := entry.numbers.reverse }

/-! ## Stretches -/

/-- Neighbouring characters with something in common. -/
structure Stretch (α : Type) where
  /-- The number of the first character. -/
  first : Nat
  /-- How many characters there are. -/
  count : Nat
  value : α
deriving Repr

/-- The stretches of entries, from a character on; `value` says how many characters an entry is
about, and what it says of them. -/
def stretches {α : Type} (value : Entry → Nat × α) (first : Nat) : List Entry → List (Stretch α)
  | [] => []
  | entry :: rest =>
    let (count, said) := value entry
    ⟨first, count, said⟩ :: stretches value (first + count) rest

/-- The table of some lines whose entries begin with a number of characters; one may be left out. -/
def ofLines {α : Type} (value : Entry → α) (lines : List String) : List (Stretch α) :=
  stretches (fun entry => (entry.numbers.headD 1, value entry)) 0 (entries lines)

/-- The stretch a character is in. -/
def find? {α : Type} (table : List (Stretch α)) (c : Char) : Option (Stretch α) :=
  table.find? fun stretch => c.toNat < stretch.first + stretch.count

end CellNet.Text.Table
