import CellNet.Proofs.ReadingBack

/-!
# Is a name that was read read again as itself?

**Theorem (`read?_again_iff`).** A name that was read is read again. It is read as itself exactly
when its two ends were given in order, or the cell of the second one has a name that is not cut, or
that end is cut in order (`Endpoint.CutInOrder`): it is printed as an endpoint with a dash and a
rest behind it, and this endpoint comes no later than what is left, which is the rest with the first
end behind it.

Reading puts the ends in order. If they stay as they are, the reader comes to the same dash again,
as there is none before it where it could stop. If they change places, it goes through a name that
stood behind the dash before, and may stop inside. What it finds then are two other endpoints,
printed one after the other as the same text; but it reads them as that text only if they need not
change places in turn and the first of them was spelled as it is printed
(`FirstSplit.read?_eq_self_iff`).

**Counterexample (`crossed_not_read_again`).** `C:P0-B:P0-A:P1` is the link between `C` and `B:P0-A`
and is read as `B:P0-A:P1-C:P0`. That is the link between `B` and `A:P1-C` to a reader, and is read
as `A:P1-C:P0-B:P0`.
-/

namespace CellNet

/-! ## Endpoints in order -/

namespace Endpoint

/-- An endpoint comes before another if its cell is called like a first part of the other's. -/
theorem isLE_order_of_eq_append {a b : Endpoint} {rest : String} (hrest : rest ≠ "")
    (h : b.cell.name = a.cell.name ++ rest) : (a.order b).isLE := by
  obtain ⟨c, cs, hcs⟩ := List.exists_cons_of_ne_nil (mt String.toList_eq_nil_iff.1 hrest)
  have hlt : a.cell.name.toList ++ [] < a.cell.name.toList ++ c :: cs :=
    List.append_left_lt (List.nil_lt_cons c cs)
  refine isLE_order_iff.2 (Or.inl ?_)
  rw [String.lt_iff, h, String.toList_append, hcs]
  rwa [List.append_nil] at hlt

/-- The endpoint `b` is printed as one whose name is not cut, with a dash and a rest behind it, and
that one stands in order with what is left: the rest, a dash and the endpoint `a`. -/
def CutInOrder (b a : Endpoint) : Prop :=
  ∃ (head : Endpoint) (rest : String), Spells (toString head) head ∧ head.cell.IsUncut ∧
    toString b = toString head ++ "-" ++ rest ∧
    (head.order ⟨⟨rest ++ "-" ++ a.cell.name⟩, a.port⟩).isLE

/-- What is left is an endpoint on a cell with a longer name. -/
theorem toString_left (rest : String) (a : Endpoint) :
    toString (⟨⟨rest ++ "-" ++ a.cell.name⟩, a.port⟩ : Endpoint) = rest ++ "-" ++ toString a := by
  show rest ++ "-" ++ a.cell.name ++ ":" ++ toString a.port =
    rest ++ "-" ++ (a.cell.name ++ ":" ++ toString a.port)
  simp only [String.append_assoc]

end Endpoint

namespace LinkId

variable {raw text left right : String} {a b : Endpoint} {id : LinkId}

/-! ## Texts that are read as themselves -/

/-- No text is read as two endpoints out of order and printed as it was. -/
theorem FirstSplit.isLE_order (h : FirstSplit text left right a b)
    (hid : (LinkId.between a b).text = text) : (a.order b).isLE := by
  by_contra hle
  rw [text_between_of_not_isLE hle] at hid
  have hprinted : Splits text (toString b) (toString a) b a :=
    ⟨hid.symm, h.second.printed, h.first.printed⟩
  rcases h.eq_or_exists_middle hprinted with ⟨-, -, rfl, -⟩ | ⟨middle, hb, -⟩
  · exact hle (Endpoint.isLE_order_iff.2 (Or.inr ⟨rfl, le_rfl⟩))
  · -- The second endpoint is printed like the first half with more behind it, so it comes later.
    obtain ⟨rest, hname⟩ := (hb ▸ hprinted.first).of_dash
    obtain ⟨-, number, -, hleft⟩ := h.first
    have hlonger : b.cell.name = a.cell.name ++ (":P" ++ number ++ "-" ++ rest) := by
      rw [hname, hleft]
      simp only [String.append_assoc]
    exact hle (Endpoint.isLE_order_of_eq_append (by simp) hlonger)

/-- A text is read as itself when its endpoints are spelled as they are printed and stand in
order. -/
theorem FirstSplit.read?_eq_self_iff (h : FirstSplit text left right a b) :
    read? text = some ⟨text⟩ ↔ left = toString a ∧ right = toString b ∧ (a.order b).isLE := by
  have huncut := h.toSplits.firstSplit_iff.1 h
  rw [h.toSplits.read?_eq huncut, Option.some.injEq]
  constructor
  · intro hid
    have htext : (LinkId.between a b).text = text := congrArg LinkId.text hid
    have hle := h.isLE_order htext
    rw [text_between_of_isLE hle] at htext
    have hprinted : Splits text (toString a) (toString b) a b :=
      ⟨htext.symm, h.first.printed, h.second.printed⟩
    rcases h.eq_or_exists_middle hprinted with ⟨hleft, hright, -⟩ | ⟨middle, ha, -⟩
    · exact ⟨hleft, hright, hle⟩
    · obtain ⟨rest, hname⟩ := (ha ▸ hprinted.first).of_dash
      exact absurd hname (huncut left rest a h.first)
  · rintro ⟨rfl, rfl, hle⟩
    rw [h.text, ← text_between_of_isLE hle]

/-! ## Names that were read -/

/-- Where the reader cuts the first name, the text is read as itself only if it is cut in order. -/
theorem Splits.read?_eq_self_iff_cutInOrder (h : Splits text (toString b) (toString a) b a)
    (hcut : ¬ b.cell.IsUncut) : read? text = some ⟨text⟩ ↔ b.CutInOrder a := by
  constructor
  · intro hread
    obtain ⟨left, right, head, back, hfirst, -⟩ := read?_eq_some_iff.1 hread
    obtain ⟨rfl, -, hle⟩ := hfirst.read?_eq_self_iff.1 hread
    have huncut := hfirst.toSplits.firstSplit_iff.1 hfirst
    rcases hfirst.eq_or_exists_middle h with ⟨-, -, rfl, -⟩ | ⟨rest, hb, rfl⟩
    · exact absurd huncut hcut
    · refine ⟨head, rest, hfirst.first, huncut, hb, ?_⟩
      have hback := h.second.prepend (rest ++ "-")
      rwa [hfirst.second.unique hback] at hle
  · rintro ⟨head, rest, hspells, huncut, hb, hle⟩
    have hsplits : Splits text (toString head) (rest ++ "-" ++ toString a) head
        ⟨⟨rest ++ "-" ++ a.cell.name⟩, a.port⟩ := {
      text := by rw [h.text, hb]; simp only [String.append_assoc]
      first := hspells
      second := h.second.prepend (rest ++ "-") }
    have hfirst := hsplits.firstSplit_iff.2 huncut
    exact hfirst.read?_eq_self_iff.2 ⟨rfl, (Endpoint.toString_left rest a).symm, hle⟩

/-- **A name that was read is read again**, and as itself exactly when its endpoints were given in
order, or the name of the second one is not cut, or is cut in order. -/
theorem read?_again_iff (raw : String) (id : LinkId) (h : read? raw = some id) :
    ∃ left right a b, FirstSplit raw left right a b ∧ .between a b = id ∧
      (read? id.text).isSome ∧
      (read? id.text = some id ↔ (a.order b).isLE ∨ b.cell.IsUncut ∨ b.CutInOrder a) := by
  obtain ⟨left, right, a, b, hfirst, rfl⟩ := read?_eq_some_iff.1 h
  have huncut := hfirst.toSplits.firstSplit_iff.1 hfirst
  have ha := hfirst.first.printed
  have hb := hfirst.second.printed
  refine ⟨left, right, a, b, hfirst, rfl, ?_, ?_⟩
  · rw [isSome_read?_iff]
    rcases text_between_eq_or a b with htext | htext
    · exact ⟨_, _, a, b, htext, ha, hb⟩
    · exact ⟨_, _, b, a, htext, hb, ha⟩
  · by_cases hle : (a.order b).isLE
    · have hsplits : Splits (LinkId.between a b).text (toString a) (toString b) a b :=
        ⟨text_between_of_isLE hle, ha, hb⟩
      exact iff_of_true (hsplits.read?_eq huncut) (Or.inl hle)
    · have hsplits : Splits (LinkId.between a b).text (toString b) (toString a) b a :=
        ⟨text_between_of_not_isLE hle, hb, ha⟩
      by_cases hcut : b.cell.IsUncut
      · rw [hsplits.read?_eq hcut, between_comm]
        exact iff_of_true rfl (Or.inr (Or.inl hcut))
      · rw [or_iff_right hle, or_iff_right hcut]
        exact hsplits.read?_eq_self_iff_cutInOrder hcut

/-- The name `A:P0-C` of the second end is cut, and `A:P0` comes before the `C:P1-B:P0` left. -/
theorem read?_again_nested :
    read? "B:P0-A:P0-C:P1" = some ⟨"A:P0-C:P1-B:P0"⟩ ∧
      read? "A:P0-C:P1-B:P0" = some ⟨"A:P0-C:P1-B:P0"⟩ := by
  have hread : read? "B:P0-A:P0-C:P1" = some ⟨"A:P0-C:P1-B:P0"⟩ := by decide +kernel
  refine ⟨hread, ?_⟩
  obtain ⟨left, right, a, b, hfirst, -, -, hiff⟩ := read?_again_iff _ _ hread
  let core : Endpoint := ⟨⟨"B"⟩, ⟨0⟩⟩
  let nested : Endpoint := ⟨⟨"A:P0-C"⟩, ⟨1⟩⟩
  let head : Endpoint := ⟨⟨"A"⟩, ⟨0⟩⟩
  have hsplits : Splits "B:P0-A:P0-C:P1" "B:P0" "A:P0-C:P1" core nested :=
    ⟨rfl, Endpoint.read?_eq_some_iff.1 (by decide +kernel),
      Endpoint.read?_eq_some_iff.1 (by decide +kernel)⟩
  have huncut : core.cell.IsUncut ∧ head.cell.IsUncut := by decide +kernel
  obtain ⟨-, -, rfl, rfl⟩ := hfirst.unique (hsplits.firstSplit_iff.2 huncut.1)
  have hcut : nested.CutInOrder core :=
    ⟨head, "C:P1", Endpoint.spells_toString (by decide) (by decide +kernel), huncut.2,
      by decide +kernel, by decide +kernel⟩
  exact hiff.2 (Or.inr (Or.inr hcut))

/-- The first reading gives the name of the link between `B:P0-A` and `C`, the second one that of
the link between `B` and `A:P1-C`. -/
theorem crossed_not_read_again :
    ¬ ∀ raw id, read? raw = some id → read? id.text = some id := by
  intro h
  have hagain := h "C:P0-B:P0-A:P1" ⟨"B:P0-A:P1-C:P0"⟩ (by decide +kernel)
  exact absurd hagain (by decide +kernel)

end LinkId

end CellNet
