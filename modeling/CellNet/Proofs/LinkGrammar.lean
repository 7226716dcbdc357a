import CellNet.Link.Reader
import Mathlib.Data.List.Basic

/-!
# What is a name of a link?

**Theorem (`read?_accepts_grammar`).** A text is read as the name of a link exactly when it can be
written as two endpoints with a dash between them (`LinkId.Splits`): on either side of the dash a
name that is not empty, `:P`, and a spelling of a port number, which is an optional plus sign and at
least one digit, for a number below `2^64`. What is read is the link between the two endpoints of
the way to write it whose first half is shortest.

The reader cuts each half at its last `:P` and tries the dashes from the left. Nothing is lost by
the former, because a number has no colon in it, so the last `:P` is the only one that leaves a
number behind it (`Endpoint.read?_eq_some_iff`). The latter is where the shortest first half comes
from (`exists_takesDash_of_readFrom`).
-/

namespace CellNet

/-! ## Endpoints -/

namespace Endpoint

/-- A text spells an endpoint: a name, `:P`, and a spelling of the number of the port. -/
def Spells (text : String) (e : Endpoint) : Prop :=
  e.cell.name ≠ "" ∧ ∃ number : String, Text.Unsigned.Spells number.toList e.port.number ∧
    text = e.cell.name ++ ":P" ++ number

/-- The last `:P` of a spelling is the one in front of the number. -/
theorem splitLast_mark {number : List Char} {n : Nat} (h : Text.Unsigned.Spells number n)
    (name : List Char) :
    Text.splitLast [':', 'P'] (name ++ [':', 'P'] ++ number) = some (name, number) := by
  refine Text.splitLast_append ?_
  simpa using h.notMem (by decide) (by decide)

theorem read?_eq_some_iff {text : String} {e : Endpoint} :
    read? text.toList = some e ↔ Spells text e := by
  constructor
  · intro h
    unfold read? at h
    split at h
    · contradiction
    · next name number hsplit =>
      split at h
      · contradiction
      · next hname =>
        obtain ⟨n, hread, rfl⟩ := Option.map_eq_some_iff.1 h
        refine ⟨?_, String.ofList number, ?_, ?_⟩
        · simpa using hname
        · simpa using Text.Unsigned.read?_eq_some_iff.1 hread
        · rw [← String.toList_inj, Text.splitLast_eq_append hsplit]
          simp
  · rintro ⟨hname, number, hnumber, rfl⟩
    have hname' : e.cell.name.toList ≠ [] := mt String.toList_eq_nil_iff.1 hname
    have hcut := splitLast_mark hnumber e.cell.name.toList
    rw [← Text.Unsigned.read?_eq_some_iff] at hnumber
    rw [String.toList_append, String.toList_append, read?,
      show ":P".toList = [':', 'P'] from rfl, hcut]
    simp [hname', hnumber]

theorem Spells.unique {text : String} {e e' : Endpoint} (h : Spells text e) (h' : Spells text e') :
    e = e' :=
  Option.some.inj ((read?_eq_some_iff.2 h).symm.trans (read?_eq_some_iff.2 h'))

end Endpoint

/-! ## Halves -/

namespace LinkId

variable {raw left right : String} {a b : Endpoint} {id : LinkId}

/-- A text is written as two endpoints with a dash between them. -/
structure Splits (raw left right : String) (a b : Endpoint) : Prop where
  text : raw = left ++ "-" ++ right
  first : Endpoint.Spells left a
  second : Endpoint.Spells right b

/-- Of all ways to write the text as two endpoints, this one has the shortest first half. -/
structure FirstSplit (raw left right : String) (a b : Endpoint) : Prop
    extends Splits raw left right a b where
  least : ∀ left' right' a' b', Splits raw left' right' a' b' → left.length ≤ left'.length

theorem Splits.ofSides?_eq (h : Splits raw left right a b) :
    ofSides? left.toList right.toList = some (.between a b) := by
  rw [ofSides?, Endpoint.read?_eq_some_iff.2 h.first, Endpoint.read?_eq_some_iff.2 h.second]

theorem exists_spells_of_ofSides? (h : ofSides? left.toList right.toList = some id) :
    ∃ a b, Endpoint.Spells left a ∧ Endpoint.Spells right b ∧ .between a b = id := by
  unfold ofSides? at h
  split at h
  · next a b ha hb =>
    exact ⟨a, b, Endpoint.read?_eq_some_iff.1 ha, Endpoint.read?_eq_some_iff.1 hb,
      Option.some.inj h⟩
  · contradiction

theorem Splits.unique {left' right' : String} {a' b' : Endpoint}
    (h : Splits raw left right a b) (h' : Splits raw left' right' a' b')
    (hlength : left.length = left'.length) :
    left = left' ∧ right = right' ∧ a = a' ∧ b = b' := by
  have htext := congrArg String.toList (h.text.symm.trans h'.text)
  simp only [String.toList_append, List.append_assoc] at htext
  obtain ⟨hleft, hright⟩ := List.append_inj htext (by simpa [String.length_toList] using hlength)
  obtain rfl := String.toList_inj.1 hleft
  obtain rfl := String.toList_inj.1 (List.append_cancel_left hright)
  exact ⟨rfl, rfl, h.first.unique h'.first, h.second.unique h'.second⟩

/-- The first split of a text is known from the text. -/
theorem FirstSplit.unique {left' right' : String} {a' b' : Endpoint}
    (h : FirstSplit raw left right a b) (h' : FirstSplit raw left' right' a' b') :
    left = left' ∧ right = right' ∧ a = a' ∧ b = b' :=
  h.toSplits.unique h'.toSplits <|
    Nat.le_antisymm (h.least _ _ _ _ h'.toSplits) (h'.least _ _ _ _ h.toSplits)

/-! ## Dashes -/

/-- The dash of `rest` that comes first of those with endpoints on both sides; `seen` is the text in
front of `rest`, last character first. -/
structure TakesDash (seen rest left right : List Char) (id : LinkId) : Prop where
  rest_eq : rest = left ++ '-' :: right
  named : ofSides? (seen.reverse ++ left) right = some id
  least : ∀ left' right', rest = left' ++ '-' :: right' → left'.length < left.length →
    ofSides? (seen.reverse ++ left') right' = none

section

variable {seen rest left right : List Char} {c : Char}

/-- A character in front changes nothing unless it is itself a dash that could be taken. -/
theorem TakesDash.cons (h : TakesDash (c :: seen) rest left right id)
    (hskip : c = '-' → ofSides? seen.reverse rest = none) :
    TakesDash seen (c :: rest) (c :: left) right id where
  rest_eq := by rw [h.rest_eq, List.cons_append]
  named := by simpa using h.named
  least left' right' hrest hlt := by
    cases left' with
    | nil =>
      obtain ⟨rfl, rfl⟩ := List.cons.inj hrest
      simpa using hskip rfl
    | cons d left' =>
      obtain ⟨rfl, htail⟩ := List.cons.inj hrest
      simpa using h.least left' right' htail (by simpa using hlt)

/-- What is read is read at the first dash possible. -/
theorem exists_takesDash_of_readFrom (h : readFrom seen rest = some id) :
    ∃ left right, TakesDash seen rest left right id := by
  fun_induction readFrom seen rest with
  | case1 => contradiction
  | case2 seen rest ih =>
    rcases Option.or_eq_some_iff.1 h with hhere | ⟨hnone, hlater⟩
    · exact ⟨[], rest, rfl, by simpa using hhere, by simp⟩
    · obtain ⟨left, right, htakes⟩ := ih hlater
      exact ⟨_, _, htakes.cons fun _ => hnone⟩
  | case3 seen c rest hc ih =>
    obtain ⟨left, right, htakes⟩ := ih h
    exact ⟨_, _, htakes.cons fun hdash => absurd hdash hc⟩

theorem readFrom_cons_eq_none (h : readFrom seen (c :: rest) = none) :
    readFrom (c :: seen) rest = none := by
  unfold readFrom at h
  split at h
  · contradiction
  · next heq =>
    obtain ⟨rfl, rfl⟩ := List.cons.inj heq
    exact (Option.or_eq_none_iff.1 h).2
  · next heq =>
    obtain ⟨rfl, rfl⟩ := List.cons.inj heq
    exact h

/-- Nothing is read only if no dash has endpoints on both sides. -/
theorem ofSides?_eq_none_of_readFrom (h : readFrom seen (left ++ '-' :: right) = none) :
    ofSides? (seen.reverse ++ left) right = none := by
  induction left generalizing seen with
  | nil =>
    rw [List.nil_append, readFrom, Option.or_eq_none_iff] at h
    simpa using h.1
  | cons c left ih => simpa using ih (readFrom_cons_eq_none h)

end

/-! ## Reading -/

theorem exists_firstSplit_of_read? (h : read? raw = some id) :
    ∃ left right a b, FirstSplit raw left right a b ∧ .between a b = id := by
  obtain ⟨left, right, htext, hnamed, hleast⟩ := exists_takesDash_of_readFrom h
  have hsides : ofSides? (String.ofList left).toList (String.ofList right).toList = some id := by
    simpa using hnamed
  obtain ⟨a, b, ha, hb, rfl⟩ := exists_spells_of_ofSides? hsides
  refine ⟨_, _, a, b, ⟨⟨?_, ha, hb⟩, ?_⟩, rfl⟩
  · rw [← String.toList_inj, htext]
    simp
  · intro left' right' a' b' hsplits
    by_contra hlt
    have hnone := hleast left'.toList right'.toList (by simp [hsplits.text])
      (by simpa [String.length_toList] using hlt)
    rw [List.reverse_nil, List.nil_append, hsplits.ofSides?_eq] at hnone
    contradiction

/-- A text that is written as two endpoints is read. -/
theorem Splits.exists_read?_eq (h : Splits raw left right a b) : ∃ id, read? raw = some id := by
  rw [← Option.ne_none_iff_exists']
  intro hnone
  have htext : raw.toList = left.toList ++ '-' :: right.toList := by simp [h.text]
  rw [read?, htext] at hnone
  have hfails := ofSides?_eq_none_of_readFrom hnone
  rw [List.reverse_nil, List.nil_append, h.ofSides?_eq] at hfails
  contradiction

theorem read?_eq_some_iff : read? raw = some id ↔
    ∃ left right a b, FirstSplit raw left right a b ∧ .between a b = id := by
  refine ⟨exists_firstSplit_of_read?, ?_⟩
  rintro ⟨left, right, a, b, hfirst, rfl⟩
  obtain ⟨id, hread⟩ := hfirst.exists_read?_eq
  obtain ⟨left', right', a', b', hfirst', rfl⟩ := exists_firstSplit_of_read? hread
  obtain ⟨-, -, rfl, rfl⟩ := hfirst.unique hfirst'
  exact hread

theorem isSome_read?_iff : (read? raw).isSome ↔ ∃ left right a b, Splits raw left right a b := by
  rw [Option.isSome_iff_exists]
  constructor
  · rintro ⟨id, hread⟩
    obtain ⟨left, right, a, b, hfirst, -⟩ := exists_firstSplit_of_read? hread
    exact ⟨left, right, a, b, hfirst.toSplits⟩
  · rintro ⟨left, right, a, b, hsplits⟩
    exact hsplits.exists_read?_eq

/-- **The names of links** are the texts that can be written as two endpoints with a dash between
them; the way with the shortest first half says which link is named. -/
theorem read?_accepts_grammar (raw : String) :
    ((read? raw).isSome ↔ ∃ left right a b, Splits raw left right a b) ∧
      ∀ id, read? raw = some id ↔
        ∃ left right a b, FirstSplit raw left right a b ∧ .between a b = id :=
  ⟨isSome_read?_iff, fun _ => read?_eq_some_iff⟩

example : read? "A:P+01-B:P2-C:P3" = some ⟨"A:P1-B:P2-C:P3"⟩ ∧ read? ":P1-B:P2" = none := by
  decide +kernel

end LinkId

end CellNet
