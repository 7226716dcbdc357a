/-!
# Unsigned numbers in text

An unsigned number is written as an optional plus sign followed by at least one ASCII digit, and its
value fits in a 64-bit word. Leading zeros are allowed, so one value has many spellings (`Spells`),
and the reader accepts all of them and nothing else (`read?_eq_some_iff`); the spelling a number is
printed in is the shortest one, without sign.
-/

namespace CellNet.Text.Unsigned

/-- One more than the largest number a 64-bit word holds. -/
def limit : Nat := Nat.pow 2 64

/-- The value of a decimal digit. -/
def digit (c : Char) : Nat := c.toNat - '0'.toNat

/-- The number a run of digits stands for, most significant digit first. -/
def value (digits : List Char) : Nat :=
  digits.foldl (fun n c => 10 * n + digit c) 0

/-- Reads a non-empty run of digits whose value fits in a word. -/
def ofDigits? (digits : List Char) : Option Nat :=
  if digits ≠ [] ∧ digits.all Char.isDigit ∧ value digits < limit then
    some (value digits)
  else
    none

/-- Reads an unsigned number with its optional plus sign. -/
def read? : List Char → Option Nat
  | '+' :: digits => ofDigits? digits
  | digits => ofDigits? digits

/-! ## Spellings -/

/-- A run of digits that stands for a number that fits in a word; there may be zeros in front. -/
structure IsDigits (digits : List Char) (n : Nat) : Prop where
  nonempty : digits ≠ []
  isDigit : ∀ c ∈ digits, c.isDigit
  value : Nat.ofDigitChars 10 digits 0 = n
  fits : n < limit

/-- The spellings of a number: its digits, with or without a plus sign. -/
inductive Spells : List Char → Nat → Prop
  | bare {digits : List Char} {n : Nat} (h : IsDigits digits n) : Spells digits n
  | signed {digits : List Char} {n : Nat} (h : IsDigits digits n) : Spells ('+' :: digits) n

theorem ofDigits?_eq_some_iff {digits : List Char} {n : Nat} :
    ofDigits? digits = some n ↔ IsDigits digits n := by
  unfold ofDigits?
  constructor
  · intro h
    split at h
    · next hc =>
      exact ⟨hc.1, List.all_eq_true.1 hc.2.1, Option.some.inj h, Option.some.inj h ▸ hc.2.2⟩
    · contradiction
  · rintro ⟨hne, hdigits, rfl, hfits⟩
    exact if_pos ⟨hne, List.all_eq_true.2 hdigits, hfits⟩

/-- The reader accepts the spellings of a number and nothing else. -/
theorem read?_eq_some_iff {text : List Char} {n : Nat} : read? text = some n ↔ Spells text n := by
  constructor
  · intro h
    unfold read? at h
    split at h
    · exact .signed (ofDigits?_eq_some_iff.1 h)
    · exact .bare (ofDigits?_eq_some_iff.1 h)
  · rintro (h | h)
    · unfold read?
      split
      · exact absurd (h.isDigit '+' List.mem_cons_self) (by decide)
      · exact ofDigits?_eq_some_iff.2 h
    · exact ofDigits?_eq_some_iff.2 h

/-- A number that fits in a word is printed in one of its spellings. -/
theorem spells_toDigits {n : Nat} (h : n < limit) : Spells (Nat.toDigits 10 n) n :=
  .bare ⟨Nat.toDigits_ne_nil, fun _ => Nat.isDigit_of_mem_toDigits (by decide) (by decide),
    Nat.ofDigitChars_toDigits (by decide) (by decide), h⟩

/-- A spelling has no characters besides digits and a sign. -/
theorem Spells.notMem {text : List Char} {n : Nat} (h : Spells text n) {c : Char}
    (hsign : c ≠ '+') (hdigit : ¬ c.isDigit) : c ∉ text := by
  intro hc
  cases h with
  | bare h => exact hdigit (h.isDigit c hc)
  | signed h =>
    rcases List.mem_cons.1 hc with hplus | hc
    · exact hsign hplus
    · exact hdigit (h.isDigit c hc)

theorem Spells.lt_limit {text : List Char} {n : Nat} (h : Spells text n) : n < limit := by
  cases h with
  | bare h => exact h.fits
  | signed h => exact h.fits

theorem lt_limit_of_read? {text : List Char} {n : Nat} (h : read? text = some n) : n < limit :=
  (read?_eq_some_iff.1 h).lt_limit

end CellNet.Text.Unsigned
