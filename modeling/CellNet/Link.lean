import CellNet.Tree

/-!
# Links

A link joins two endpoints, each a port of a cell. Both sides may report it, so a link has one
written name whichever side is given first: the endpoint whose cell name comes first as text is
written first, and of two ports of one cell the lower. A name is only text: different links can
share one when cell names themselves contain port marks and dashes.
-/

namespace CellNet

/-- One end of a link. -/
structure Endpoint where
  cell : CellId
  port : Port
deriving DecidableEq, Repr

namespace Endpoint

/-- Endpoints compare by cell name as text, then by port. -/
def order : Endpoint → Endpoint → Ordering :=
  compareLex (compareOn fun e => e.cell.name) (compareOn Endpoint.port)

instance : Std.TransCmp order :=
  inferInstanceAs (Std.TransCmp (compareLex _ _))

instance : Std.LawfulEqCmp order where
  eq_of_compare {a b} h := by
    obtain ⟨hc, hp⟩ := Ordering.then_eq_eq.mp (show (_ : Ordering).then _ = .eq from h)
    have hc : a.cell.name = b.cell.name := Std.LawfulEqOrd.eq_of_compare (α := String) hc
    have hp : a.port = b.port := Std.LawfulEqOrd.eq_of_compare (α := Port) hp
    obtain ⟨⟨_⟩, _⟩ := a
    obtain ⟨⟨_⟩, _⟩ := b
    simp_all

/-- Endpoints are ordered by the names of their cells as texts, and by port on one cell. -/
theorem isLE_order_iff {a b : Endpoint} : (a.order b).isLE ↔
    a.cell.name < b.cell.name ∨ a.cell.name = b.cell.name ∧ a.port.number ≤ b.port.number := by
  show ((compare a.cell.name b.cell.name).then (compare a.port.number b.port.number)).isLE ↔ _
  rw [Ordering.isLE_then_iff_or, Std.LawfulEqOrd.compare_eq_iff_eq,
    Std.LawfulOrderOrd.isLE_compare]
  exact or_congr compareOfLessAndEq_eq_lt Iff.rfl

/-- An endpoint is written as the cell and the port with a colon between. -/
instance : ToString Endpoint := ⟨fun e => e.cell.name ++ ":" ++ toString e.port⟩

end Endpoint

/-- The written name of a link, such as `C0:P0-C1:P0`. -/
structure LinkId where
  text : String
deriving DecidableEq, Repr

namespace LinkId

/-- Link names are listed in text order. -/
instance : Ord LinkId := ⟨compareOn text⟩

instance : Std.TransOrd LinkId :=
  inferInstanceAs (Std.TransCmp (compareOn text))

instance : Std.LawfulEqOrd LinkId where
  eq_of_compare {a b} h := by
    cases a; cases b
    exact congrArg mk (Std.LawfulEqOrd.eq_of_compare (α := String) h)

instance : ToString LinkId := ⟨text⟩

end LinkId

/-- An unordered pair of endpoints, kept in order. -/
structure Link where
  first : Endpoint
  second : Endpoint
deriving DecidableEq, Repr

namespace Link

/-- The link between two endpoints, given in either order. -/
def between (a b : Endpoint) : Link :=
  if (a.order b).isLE then ⟨a, b⟩ else ⟨b, a⟩

def id (link : Link) : LinkId := ⟨toString link.first ++ "-" ++ toString link.second⟩

/-- A link has the two endpoints it is made from, in one order or the other. -/
theorem between_eq_or (a b : Endpoint) : between a b = ⟨a, b⟩ ∨ between a b = ⟨b, a⟩ := by
  unfold between
  split
  · exact Or.inl rfl
  · exact Or.inr rfl

theorem isLE_order_between (a b : Endpoint) :
    ((between a b).first.order (between a b).second).isLE := by
  unfold between
  split
  · assumption
  · next h =>
    have hgt : a.order b = .gt := by simpa using h
    have hlt : b.order a = .lt := Std.OrientedCmp.gt_iff_lt.1 hgt
    show (b.order a).isLE
    rw [hlt]
    rfl

/-- Both sides of a link name the same link. -/
theorem between_comm (a b : Endpoint) : between a b = between b a := by
  unfold between
  rw [(inferInstance : Std.OrientedCmp Endpoint.order).eq_swap (a := b)]
  cases h : a.order b <;> simp
  have := (inferInstance : Std.LawfulEqCmp Endpoint.order).eq_of_compare h
  exact ⟨this, this.symm⟩

end Link

/-- The name of the link between two endpoints, given in either order. -/
def LinkId.between (a b : Endpoint) : LinkId := (Link.between a b).id

namespace LinkId

variable {a b : Endpoint}

/-- Both sides of a link agree on its name. -/
theorem between_comm (a b : Endpoint) : between a b = between b a :=
  congrArg Link.id (Link.between_comm a b)

theorem text_between_of_isLE (h : (a.order b).isLE) :
    (between a b).text = toString a ++ "-" ++ toString b := by
  rw [between, Link.between, if_pos h]
  rfl

theorem text_between_of_not_isLE (h : ¬ (a.order b).isLE) :
    (between a b).text = toString b ++ "-" ++ toString a := by
  rw [between, Link.between, if_neg h]
  rfl

/-- A link is named by its endpoints with a dash between them, in one order or the other. -/
theorem text_between_eq_or (a b : Endpoint) :
    (between a b).text = toString a ++ "-" ++ toString b ∨
      (between a b).text = toString b ++ "-" ++ toString a := by
  by_cases h : (a.order b).isLE
  · exact Or.inl (text_between_of_isLE h)
  · exact Or.inr (text_between_of_not_isLE h)

end LinkId

end CellNet
