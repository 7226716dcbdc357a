import CellNet.Link
import Mathlib.Data.List.Basic

/-!
# When do two links share a name?

**Theorem (`Link.id_eq_id_iff`).** Two links have the same name exactly when they are the same link
or they overlap: the first cell of one is called like the whole first end of the other with a dash
and some middle part behind it, and the middle part with what follows is how the other's second
cell is called (`Link.Overlaps`).

The name of a link is read from both ends. A port is written as a mark, a colon and a `P` in front
of the digits of its number, so the last mark of a name is always the port of the second end. Of the
marks that a dash follows, any may be the one that closes the first end. Two links that disagree on
which it is overlap, since a mark cannot begin inside another (`mark_dash_append`).
-/

namespace CellNet

/-! ## Marks -/

/-- Two texts that begin with digits and go on with something else agree when their digits agree
and what comes behind does. -/
theorem digits_append_cons_inj {ds es xs ys : List Char} {a b : Char}
    (hds : ∀ c ∈ ds, c.isDigit) (hes : ∀ c ∈ es, c.isDigit) (ha : ¬ a.isDigit) (hb : ¬ b.isDigit) :
    ds ++ a :: xs = es ++ b :: ys ↔ ds = es ∧ a :: xs = b :: ys := by
  constructor
  · intro h
    have hspan : ds = es := by
      have htake := congrArg (List.takeWhile Char.isDigit) h
      rw [List.takeWhile_append_of_pos hds, List.takeWhile_append_of_pos hes] at htake
      simpa [ha, hb] using htake
    subst hspan
    exact ⟨rfl, List.append_cancel_left h⟩
  · rintro ⟨rfl, h⟩
    rw [h]

namespace Port

variable {p q : Port} {xs ys : List Char}

/-- How a port is written behind the name of its cell. -/
def mark (port : Port) : List Char := ':' :: 'P' :: Nat.toDigits 10 port.number

theorem isDigit_of_mem_number {port : Port} {c : Char} (h : c ∈ Nat.toDigits 10 port.number) :
    c.isDigit :=
  Nat.isDigit_of_mem_toDigits (by decide) (by decide) h

theorem toDigits_number_inj (h : Nat.toDigits 10 p.number = Nat.toDigits 10 q.number) : p = q := by
  cases p; cases q
  simpa using congrArg (Nat.ofDigitChars 10 · 0) h

/-- The last mark of a text is known from the text. -/
theorem append_mark_inj : xs ++ p.mark = ys ++ q.mark ↔ xs = ys ∧ p = q := by
  constructor
  · intro h
    have hback : (Nat.toDigits 10 p.number).reverse ++ 'P' :: (':' :: xs.reverse) =
        (Nat.toDigits 10 q.number).reverse ++ 'P' :: (':' :: ys.reverse) := by
      simpa [mark] using congrArg List.reverse h
    rw [digits_append_cons_inj (fun c hc => isDigit_of_mem_number (List.mem_reverse.1 hc))
      (fun c hc => isDigit_of_mem_number (List.mem_reverse.1 hc)) (by decide) (by decide)] at hback
    obtain ⟨hdigits, hrest⟩ := hback
    refine ⟨?_, toDigits_number_inj (List.reverse_injective hdigits)⟩
    simpa using hrest
  · rintro ⟨rfl, rfl⟩
    rfl

/-- The mark at the front of a text is known if a dash follows it. -/
theorem mark_dash_inj : p.mark ++ '-' :: xs = q.mark ++ '-' :: ys ↔ p = q ∧ xs = ys := by
  constructor
  · intro h
    simp only [mark, List.cons_append, List.cons.injEq, true_and] at h
    rw [digits_append_cons_inj (fun c => isDigit_of_mem_number) (fun c => isDigit_of_mem_number)
      (by decide) (by decide)] at h
    exact ⟨toDigits_number_inj h.1, List.cons_injective h.2⟩
  · rintro ⟨rfl, rfl⟩
    rfl

/-- A mark with a dash behind it that begins like a text with a second mark lies within the part in
front of that mark. -/
theorem mark_dash_append {front : List Char}
    (h : p.mark ++ '-' :: xs = front ++ (q.mark ++ '-' :: ys)) :
    front = [] ∨
      ∃ middle, front = p.mark ++ '-' :: middle ∧ xs = middle ++ (q.mark ++ '-' :: ys) := by
  have hcut : (p.mark ++ ['-']) ++ xs = front ++ (q.mark ++ '-' :: ys) := by simpa using h
  rcases List.append_eq_append_iff.1 hcut with ⟨middle, hfront, hxs⟩ | ⟨part, hmark, hq⟩
  · exact Or.inr ⟨middle, by simpa using hfront, hxs⟩
  · cases front with
    | nil => exact Or.inl rfl
    | cons c front =>
      cases part with
      | nil => exact Or.inr ⟨[], by simpa using hmark.symm, by simpa using hq.symm⟩
      | cons d part =>
        -- The second mark would begin behind the colon of the first and before its dash.
        exfalso
        simp only [mark, List.cons_append, List.cons.injEq] at hmark hq
        obtain ⟨-, hmark⟩ := hmark
        have hd : d ∈ 'P' :: (Nat.toDigits 10 p.number ++ ['-']) := by simp [hmark]
        rw [← hq.1] at hd
        have hdigit : ':' ∈ Nat.toDigits 10 p.number := by simpa using hd
        exact absurd (isDigit_of_mem_number hdigit) (by decide)

end Port

/-! ## Names -/

theorem Endpoint.toList_toString (e : Endpoint) :
    (toString e).toList = e.cell.name.toList ++ e.port.mark := by
  show (e.cell.name ++ ":" ++ ("P" ++ toString e.port.number)).toList = _
  simp [Port.mark]

namespace CellId

/-- No endpoint with a dash behind it stands at the front of the name. -/
def IsPlain (id : CellId) : Prop :=
  ∀ (e : Endpoint) (rest : String), id.name ≠ toString e ++ "-" ++ rest

/-- Names such as `C:12` and `edge-1` are plain. -/
theorem isPlain_of_notMem {id : CellId} (h : ':' ∉ id.name.toList ∨ '-' ∉ id.name.toList) :
    id.IsPlain := by
  intro e rest hname
  rw [hname] at h
  simp [Endpoint.toList_toString, Port.mark] at h

end CellId

namespace Link

variable {a b : Link}

theorem toList_id (link : Link) : link.id.text.toList =
    link.first.cell.name.toList ++ (link.first.port.mark ++
      '-' :: (link.second.cell.name.toList ++ link.second.port.mark)) := by
  simp [id, Endpoint.toList_toString]

/-- The first cell of `b` is called like the first end of `a`, a dash, and a middle part; that part
with the port of `b`, a dash, and the second cell of `b` is how the second cell of `a` is called. -/
def Overlaps (a b : Link) : Prop :=
  ∃ middle : String, b.first.cell.name = toString a.first ++ "-" ++ middle ∧
    a.second.cell.name =
      toString (⟨⟨middle⟩, b.first.port⟩ : Endpoint) ++ "-" ++ b.second.cell.name ∧
    a.second.port = b.second.port

theorem Overlaps.id_eq (h : a.Overlaps b) : a.id = b.id := by
  obtain ⟨middle, hfirst, hsecond, hport⟩ := h
  have htext : a.id.text.toList = b.id.text.toList := by
    simp [toList_id, Endpoint.toList_toString, hfirst, hsecond, hport]
  exact congrArg LinkId.mk (String.toList_injective htext)

/-- No link overlaps itself, since no name is part of itself with more behind it. -/
theorem not_overlaps_self (a : Link) : ¬ a.Overlaps a := by
  rintro ⟨middle, hfirst, -⟩
  have hlength := congrArg (fun name : String => name.toList.length) hfirst
  simp only [String.toList_append, Endpoint.toList_toString, List.length_append] at hlength
  have hdash : "-".toList.length = 1 := rfl
  omega

/-- Two links that share a name are the same, unless the first cell of one is called longer. -/
theorem eq_or_overlaps_of_prefix {front : List Char} (hid : a.id = b.id)
    (hname : b.first.cell.name.toList = a.first.cell.name.toList ++ front) :
    a = b ∨ a.Overlaps b := by
  have htext := congrArg (fun id : LinkId => id.text.toList) hid
  simp only [toList_id, hname, List.append_assoc, List.append_cancel_left_eq] at htext
  rcases Port.mark_dash_append htext with rfl | ⟨middle, rfl, hsecond⟩
  · left
    rw [List.nil_append, Port.mark_dash_inj, Port.append_mark_inj] at htext
    obtain ⟨hport, hcell, hport'⟩ := htext
    rw [List.append_nil] at hname
    obtain ⟨⟨⟨_⟩, _⟩, ⟨⟨_⟩, _⟩⟩ := a
    obtain ⟨⟨⟨_⟩, _⟩, ⟨⟨_⟩, _⟩⟩ := b
    simp_all [String.toList_inj]
  · right
    have hcut : a.second.cell.name.toList ++ a.second.port.mark =
        (middle ++ (b.first.port.mark ++ '-' :: b.second.cell.name.toList)) ++
          b.second.port.mark := by simpa using hsecond
    rw [Port.append_mark_inj] at hcut
    refine ⟨String.ofList middle, ?_, ?_, hcut.2⟩
    · rw [← String.toList_inj]
      simpa [Endpoint.toList_toString] using hname
    · rw [← String.toList_inj]
      simpa [Endpoint.toList_toString] using hcut.1

/-- **Sharing a name** means being the same link or overlapping. -/
theorem id_eq_id_iff : a.id = b.id ↔ a = b ∨ a.Overlaps b ∨ b.Overlaps a := by
  constructor
  · intro hid
    have htext := congrArg (fun id : LinkId => id.text.toList) hid
    simp only [toList_id] at htext
    rcases List.append_eq_append_iff.1 htext with ⟨front, hb, -⟩ | ⟨front, ha, -⟩
    · rcases eq_or_overlaps_of_prefix hid hb with h | h
      · exact Or.inl h
      · exact Or.inr (Or.inl h)
    · rcases eq_or_overlaps_of_prefix hid.symm ha with h | h
      · exact Or.inl h.symm
      · exact Or.inr (Or.inr h)
  · rintro (rfl | h | h)
    · rfl
    · exact h.id_eq
    · exact h.id_eq.symm

theorem not_overlaps_of_isPlain (hb : b.first.cell.IsPlain) : ¬ a.Overlaps b :=
  fun ⟨middle, hfirst, _⟩ => hb a.first middle hfirst

end Link

end CellNet
