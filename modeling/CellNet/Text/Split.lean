/-!
# Splitting texts

`splitLast sep text` cuts `text` around the last place where `sep` occurs. Nothing is lost: the two
parts with the separator between them are the text again (`splitLast_eq_append`), and a separator
behind which none begins is where the text is cut (`splitLast_append`). `parts sep text` cuts at
every separator, a single character; between the parts it leaves, and at either end, parts may be
empty.
-/

namespace CellNet.Text

/-- The text before and after the last occurrence of `sep`, if it occurs. -/
def splitLast (sep : List Char) : List Char → Option (List Char × List Char)
  | [] => none
  | c :: cs =>
    match splitLast sep cs with
    | some (before, after) => some (c :: before, after)
    | none =>
      if sep.isPrefixOf (c :: cs) then some ([], (c :: cs).drop sep.length) else none

theorem splitLast_eq_append {sep text before after : List Char}
    (h : splitLast sep text = some (before, after)) : text = before ++ sep ++ after := by
  induction text generalizing before with
  | nil => simp [splitLast] at h
  | cons c cs ih =>
    rw [splitLast] at h
    split at h
    · next b a hs =>
      obtain ⟨rfl, rfl⟩ := Prod.mk.inj (Option.some.inj h)
      simp [ih hs]
    · split at h
      · next hp =>
        obtain ⟨rfl, rfl⟩ := Prod.mk.inj (Option.some.inj h)
        obtain ⟨t, ht⟩ := List.isPrefixOf_iff_prefix.mp hp
        simp [← ht]
      · contradiction

/-- Where the first character of `sep` is missing, there is nothing to cut at. -/
theorem splitLast_eq_none {c : Char} {sep text : List Char} (h : c ∉ text) :
    splitLast (c :: sep) text = none := by
  induction text with
  | nil => rfl
  | cons d ds ih =>
    obtain ⟨hcd, hds⟩ := not_or.1 (mt List.mem_cons.2 h)
    simp [splitLast, ih hds, List.isPrefixOf, hcd]

/-- The text is cut at a separator if the first character of `sep` is not seen again behind it. -/
theorem splitLast_append {c : Char} {sep before after : List Char} (h : c ∉ sep ++ after) :
    splitLast (c :: sep) (before ++ (c :: sep) ++ after) = some (before, after) := by
  induction before with
  | nil =>
    have hprefix : (c :: sep).isPrefixOf (c :: (sep ++ after)) :=
      List.isPrefixOf_iff_prefix.2 ⟨after, by simp⟩
    simp [splitLast, splitLast_eq_none h, hprefix]
  | cons d ds ih =>
    rw [List.cons_append, List.cons_append, splitLast, ih]

/-- The parts of a text between separators; there is one more of them than separators. -/
def parts (sep : Char) : List Char → List (List Char)
  | [] => [[]]
  | c :: cs =>
    match parts sep cs with
    | [] => [[c]]
    | part :: rest => if c = sep then [] :: part :: rest else (c :: part) :: rest

end CellNet.Text
