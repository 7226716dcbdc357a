import CellNet.Text.Table

/-!
# Combining classes

Marks that combine with the character before them have a *combining class*; the order of marks of
different classes means nothing. All other characters have class zero. The numbers are those of
Unicode 17, for the characters that may stand in names of servers.
-/

namespace CellNet.Text

namespace CombiningClass

/-- The table: `Z` for characters of class zero, `C` for those of the class that follows, and behind
it how many there are. -/
def lines : List String := [
  "ZlcC6e.lC6gC64.4C6gC60C64.5C5m.2C64.4C5m.2C64.bC1.5C64.4C6e.aC64.3C6e.3C64.3C6e.3C64.4C6eC6g",
  "C64.2C6eC6hC6i.2C6hC6i.2C6hC6e.eZ7mC6e.5Z7dC64C6e.4C64C6e.3C66C64C6e.6C64.6C6e.2C64C6e.2C66C6c",
  "C6eCaCbCcCdCeCfCgChCiCj.2CkClCmZCnZCoCpZC6eC64ZCi.9Z1sC6e.8CuCvCwZ1cCrCsCtCuCvCwCxCyC6e.2C64.2",
  "C6e.5C64C6e.2C64ZgCzZ2tC6e.8ZC6e.4C64C6eZ2C6e.2ZC64C6e.2C64ZzC10ZuC6eC64C6e.2C64C6e.2C64.3C6e",
  "C64.2C6eC64C6e.3C64C6eC64C6eC64C6eC64C6e.4Z4eC6e.7C64C6eZ9C64ZoC6e.4ZC6e.9ZC6e.3ZC6e.7Z15C64.5",
  "Z1lC6e.2C64.3C6e.4Z16C6e.5C64.5C6e.fC64C6e.2C64C6e.2C64C6e.3C64.3CrCsCtC6e.3C64C6e.2C64.2C6e.5",
  "Z1oC7ZgC9Z3C6eC64C6e.2Z2vC7ZgC9Z1cC6e.3Z1nC7.2ZfC9.4Z2zC7ZgC9.3Z30C7ZgC9.8Z3cC9.3Z30C7ZgC9.8",
  "C2cC2j.2Z2sC7ZgC9.8Z2uC9.2ZgC9Z3gC9.5Z2xC2v.2C9.5Z9C2z.4Z30C3a.2C9ZdC3e.4Z24C64.2ZrC64ZC64ZC60",
  "Z1jC3lC3m.2C3o.6C3m.4Z2C3m.2C6e.2C9ZC6e.2Z1qC64Z34C7ZC9.2Z2aC64ZjzC6e.3ZqcC9.bZlC9Z4dC9ZaC6e.3",
  "Z5lC6cZ3zC66C6eC64.5Z5zC6eC64Z1zC9ZkC6e.aC64Z1cC6e.5C64.6C6e.2C64ZC64.2C6e.2C64.2C6e.5C64",
  "C6e.1hZ1gC7ZfC9Z12C6eC64C6e.7Z1iC9.2Z1mC7ZbC9.aZ1nC7.4Z45C6e.3ZC1C64.5C6e.2C64.4C6eZC1.7Z4C64",
  "Z6C6eZ3C6e.2Z5iC6e.2C64C6e.7C64C6e.2C6iC5yC64C5mC6e.11C6gC6c.2C64C62C6eC6hC64C6eC64.2ZjzC6e.2",
  "C1.2C6e.4C1.3C6e.2Z4C6eZ3C1.2C6eC64C6eC1.2C64.4C6e.kZ2crC6e.4Z3wC9Z2oC6e.wZfeC62C6cC6gC66C68.2",
  "Z2xC8.4Zn9uC6eZ4C6e.aZwC6e.2Z28C6e.2Z7oC9Z11C9.4Z44C9ZrC6e.iZ1lC64.3Z11C9.cZ2cC7ZcC9Z6nC6eZ",
  "C6e.2C64Z2C6e.2Z5C6e.2ZC6eZ1gC9.bZ6kC9.3Zfn2Cq.44ZhaC6e.7C64.7C6e.nZqgC64.3nZ2oC64Z45C6e.aZ1al",
  "C64ZC6eZ14C6eC1C64.5C9Z4lC6eC64.5ZftC6e.cZ1lC6e.5Z8tC6e.2Z25C64.6Z1yC64.2C6e.3C64C6eC64.4Z1d",
  "C6eC64C6eC64Z5cC9Z15C9ZeC9Z1lC9C7Z1xC6e.3Z1cC9.3Z1pC7Z24C9Z9C7Z2yC9C7Z4yC7C9.6Z23C7.2ZgC9.3Zm",
  "C6e.qZ26C9.3Z35C9Z3C7ZnC6eZ2rC9C7Z6zC9C7Z3iC9Z3aC9C7Z37C9.5Z7dC9C7Z76C9.2Z4C7Z4cC9Z2bC9ZiC9.9",
  "Z21C9ZbpC9Z76C7ZC9.2Z29C9ZbtC9.2Zd0sC9Z1xcC1.5Z1nC6e.7ZxlC6.2Zf58C1Z43qC60.2C1.3Z3C6aC60.d",
  "C64.8Z2C6e.5C64.2ZuC6e.4Z44C6e.3Z2pnC6e.74Z1cC6e.7ZafC6e.iZ18C6e.4Ze4C6g.2C64C6eZ72C6eC64Z6r",
  "C6eZ2C6eZ7C6e.2Z5C6e.9ZcyC64.2aZyC6e.6C7"]

/-- How many characters an entry is about, and their class. -/
def ofEntry (entry : Table.Entry) : Nat × Nat :=
  match entry.mark, entry.numbers with
  | 'C', [number] => (1, number)
  | 'C', number :: count :: _ => (count, number)
  | _, numbers => (numbers.headD 1, 0)

def table : List (Table.Stretch Nat) := Table.stretches ofEntry 0 (Table.entries lines)

end CombiningClass

def combiningClass (c : Char) : Nat :=
  match Table.find? CombiningClass.table c with
  | some stretch => stretch.value
  | none => 0

/-- Whether a character is a sign that takes the vowel from the consonant before it. -/
def isVirama (c : Char) : Bool := combiningClass c = 9

end CellNet.Text
