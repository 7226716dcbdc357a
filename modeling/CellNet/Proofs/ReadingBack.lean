import CellNet.Proofs.LinkGrammar
import CellNet.Proofs.LinkNames
import Mathlib.Data.List.Infix

/-!
# Reading back the name of a link

**Theorem (`read?_both_ways`).** Let two cells have names that are not empty and that the reader
does not cut (`CellId.IsUncut`): no spelling of an endpoint with a dash behind it stands at the
front of the name. Then the two endpoints written with a dash between them are read as the link
between them, in either order and for all ports whose numbers fit in a word, and so is the name of
that link.

A dash that belongs to the spelling of an endpoint belongs to the name of its cell, because the
number has none (`Spells.of_dash`). So an earlier dash at which the reader could stop lies within
the name of the first cell, and a way to write a text has the shortest first half exactly when the
name of its first cell is not cut (`Splits.firstSplit_iff`). Dashes within the second name are of no
account.

That a name is not cut is another condition than that it is plain (`CellId.IsPlain`): the reader
accepts spellings that are never printed, and it refuses an empty name.
-/

namespace CellNet

/-! ## Spellings -/

theorem exists_eq_append_of_notMem {xs ys front back : List Char} {c : Char} (hc : c ∉ back)
    (h : xs ++ c :: ys = front ++ back) :
    ∃ middle, front = xs ++ c :: middle ∧ ys = middle ++ back := by
  rcases List.append_eq_append_iff.1 h with ⟨middle, hfront, hys⟩ | ⟨part, -, hback⟩
  · cases middle with
    | nil =>
      rw [List.nil_append] at hys
      exact absurd (by rw [← hys]; exact List.mem_cons_self) hc
    | cons d middle =>
      obtain ⟨rfl, rfl⟩ := List.cons.inj hys
      exact ⟨middle, hfront, rfl⟩
  · exact absurd (by simp [hback]) hc

namespace Endpoint

variable {e : Endpoint} {text head rest : String}

/-- An endpoint whose cell has a name and whose port has a number that fits in a word is spelled
as it is printed. -/
theorem spells_toString (hname : e.cell.name ≠ "")
    (hport : e.port.number < Text.Unsigned.limit) : Spells (toString e) e := by
  refine ⟨hname, toString e.port.number, ?_, ?_⟩
  · simpa using Text.Unsigned.spells_toDigits hport
  · rw [← String.toList_inj, toList_toString]
    simp [Port.mark]

theorem Spells.printed (h : Spells text e) : Spells (toString e) e := by
  obtain ⟨hname, number, hnumber, -⟩ := h
  exact spells_toString hname hnumber.lt_limit

/-- A text in front of a spelling becomes part of the name. -/
theorem Spells.prepend (h : Spells text e) (front : String) :
    Spells (front ++ text) ⟨⟨front ++ e.cell.name⟩, e.port⟩ := by
  obtain ⟨hname, number, hnumber, rfl⟩ := h
  refine ⟨?_, number, hnumber, ?_⟩
  · simp [hname]
  · simp only [String.append_assoc]

/-- A dash in a spelling is a dash of the name. -/
theorem Spells.of_dash (h : Spells (head ++ "-" ++ rest) e) :
    ∃ middle, e.cell.name = head ++ "-" ++ middle := by
  obtain ⟨-, number, hnumber, htext⟩ := h
  have hdash : '-' ∉ [':', 'P'] ++ number.toList := by
    simpa using hnumber.notMem (by decide) (by decide)
  have hlist : head.toList ++ '-' :: rest.toList =
      e.cell.name.toList ++ ([':', 'P'] ++ number.toList) := by
    simpa using congrArg String.toList htext
  obtain ⟨middle, hname, -⟩ := exists_eq_append_of_notMem hdash hlist
  refine ⟨String.ofList middle, ?_⟩
  rw [← String.toList_inj, hname]
  simp

end Endpoint

/-! ## Names that are not cut -/

namespace CellId

/-- No spelling of an endpoint with a dash behind it stands at the front of the name. -/
def IsUncut (id : CellId) : Prop :=
  ∀ (head rest : String) (e : Endpoint), Endpoint.Spells head e → id.name ≠ head ++ "-" ++ rest

theorem isUncut_iff {id : CellId} : id.IsUncut ↔
    ∀ head ∈ id.name.toList.inits, head ++ ['-'] <+: id.name.toList →
      Endpoint.read? head = none := by
  constructor
  · rintro h head - ⟨rest, hname⟩
    by_contra hread
    obtain ⟨e, he⟩ := Option.ne_none_iff_exists'.1 hread
    refine h (.ofList head) (.ofList rest) e ?_ ?_
    · rw [← Endpoint.read?_eq_some_iff, String.toList_ofList, he]
    · rw [← String.toList_inj, ← hname]
      simp
  · intro h head rest e hspells hname
    have hlist : id.name.toList = head.toList ++ ['-'] ++ rest.toList := by simp [hname]
    have hnone := h head.toList (by simp [hlist]) ⟨rest.toList, hlist.symm⟩
    rw [Endpoint.read?_eq_some_iff.2 hspells] at hnone
    contradiction

instance (id : CellId) : Decidable id.IsUncut := decidable_of_iff _ isUncut_iff.symm

end CellId

/-! ## Reading back -/

namespace LinkId

variable {raw left right left' right' : String} {a b a' b' : Endpoint}

/-- Of two ways to write a text, the longer first half is the shorter one with a dash and more. -/
theorem Splits.exists_middle (h : Splits raw left right a b) (h' : Splits raw left' right' a' b')
    (hlt : left'.length < left.length) :
    ∃ middle, left = left' ++ "-" ++ middle ∧ right' = middle ++ "-" ++ right := by
  have hraw : left.toList ++ '-' :: right.toList = raw.toList := by simp [h.text]
  have hraw' : left'.toList ++ ['-'] ++ right'.toList = raw.toList := by simp [h'.text]
  have hlength : (left'.toList ++ ['-']).length ≤ left.toList.length := by
    simpa [String.length_toList] using Nat.succ_le_of_lt hlt
  obtain ⟨middle, hmiddle⟩ := List.prefix_of_prefix_length_le ⟨_, hraw'⟩ ⟨_, hraw⟩ hlength
  rw [← hmiddle, ← hraw', List.append_assoc, List.append_cancel_left_eq] at hraw
  refine ⟨String.ofList middle, ?_, ?_⟩
  · rw [← String.toList_inj, ← hmiddle]
    simp
  · rw [← String.toList_inj, ← hraw]
    simp

/-- Any other way to write a text than the first has a first half that goes on behind the first
one. -/
theorem FirstSplit.eq_or_exists_middle (h : FirstSplit raw left right a b)
    (h' : Splits raw left' right' a' b') :
    (left = left' ∧ right = right' ∧ a = a' ∧ b = b') ∨
      ∃ middle, left' = left ++ "-" ++ middle ∧ right = middle ++ "-" ++ right' := by
  rcases (h.least _ _ _ _ h').lt_or_eq with hlt | hlength
  · exact Or.inr (h'.exists_middle h.toSplits hlt)
  · exact Or.inl (h.toSplits.unique h' hlength)

/-- A way to write a text has the shortest first half exactly when the first name is not cut. -/
theorem Splits.firstSplit_iff (h : Splits raw left right a b) :
    FirstSplit raw left right a b ↔ a.cell.IsUncut := by
  constructor
  · intro hfirst head rest e hspells hname
    obtain ⟨-, number, -, rfl⟩ := h.first
    have hshorter : Splits raw head (rest ++ ":P" ++ number ++ "-" ++ right) e _ := {
      text := by simp only [h.text, hname, String.append_assoc]
      first := hspells
      second := h.second.prepend (rest ++ ":P" ++ number ++ "-") }
    have hle := hfirst.least _ _ _ _ hshorter
    simp only [hname, String.length_append] at hle
    have hdash : "-".length = 1 := rfl
    omega
  · intro huncut
    refine ⟨h, fun left' right' a' b' h' => ?_⟩
    by_contra hlt
    obtain ⟨middle, rfl, -⟩ := h.exists_middle h' (Nat.lt_of_not_le hlt)
    obtain ⟨rest, hname⟩ := h.first.of_dash
    exact huncut left' rest a' h'.first hname

theorem Splits.read?_eq (h : Splits raw left right a b) (ha : a.cell.IsUncut) :
    read? raw = some (.between a b) :=
  read?_eq_some_iff.2 ⟨left, right, a, b, h.firstSplit_iff.2 ha, rfl⟩

/-- **The name of a link is read back** in either orientation, unless the reader cuts the name of
one of its cells. -/
theorem read?_both_ways (a b : Endpoint) (ha : a.cell.name ≠ "") (hb : b.cell.name ≠ "")
    (hcut : a.cell.IsUncut) (hcut' : b.cell.IsUncut)
    (hport : a.port.number < Text.Unsigned.limit) (hport' : b.port.number < Text.Unsigned.limit) :
    read? (toString a ++ "-" ++ toString b) = some (.between a b) ∧
      read? (toString b ++ "-" ++ toString a) = some (.between a b) ∧
      read? (LinkId.between a b).text = some (.between a b) := by
  have hspells := Endpoint.spells_toString ha hport
  have hspells' := Endpoint.spells_toString hb hport'
  have hforth : read? (toString a ++ "-" ++ toString b) = some (.between a b) :=
    Splits.read?_eq ⟨rfl, hspells, hspells'⟩ hcut
  have hback : read? (toString b ++ "-" ++ toString a) = some (.between a b) := by
    rw [between_comm]
    exact Splits.read?_eq ⟨rfl, hspells', hspells⟩ hcut'
  refine ⟨hforth, hback, ?_⟩
  rcases text_between_eq_or a b with htext | htext
  · rw [htext, hforth]
  · rw [htext, hback]

/-- Neither name is cut: a dash behind `edge` closes no endpoint, and one behind `:P0` none that has
a name. The second port is the last that fits in a word. -/
theorem read?_both_ways_dashed :
    read? "edge-1:P:P2-:P0-core-0:P18446744073709551615" =
        some ⟨":P0-core-0:P18446744073709551615-edge-1:P:P2"⟩ ∧
      read? ":P0-core-0:P18446744073709551615-edge-1:P:P2" =
        some ⟨":P0-core-0:P18446744073709551615-edge-1:P:P2"⟩ := by
  let a : Endpoint := ⟨⟨"edge-1:P"⟩, ⟨2⟩⟩
  let b : Endpoint := ⟨⟨":P0-core-0"⟩, ⟨18446744073709551615⟩⟩
  have hcut : a.cell.IsUncut ∧ b.cell.IsUncut := by decide +kernel
  have hport : a.port.number < Text.Unsigned.limit ∧ b.port.number < Text.Unsigned.limit := by
    decide +kernel
  have hid : LinkId.between a b = ⟨":P0-core-0:P18446744073709551615-edge-1:P:P2"⟩ := by
    decide +kernel
  obtain ⟨hforth, hback, -⟩ :=
    read?_both_ways a b (by decide) (by decide) hcut.1 hcut.2 hport.1 hport.2
  rw [hid] at hforth hback
  have htext : toString a ++ "-" ++ toString b =
      "edge-1:P:P2-:P0-core-0:P18446744073709551615" := by decide +kernel
  have htext' : toString b ++ "-" ++ toString a =
      ":P0-core-0:P18446744073709551615-edge-1:P:P2" := by decide +kernel
  rw [htext] at hforth
  rw [htext'] at hback
  exact ⟨hforth, hback⟩

end LinkId

end CellNet
