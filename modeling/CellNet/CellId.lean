import CellNet.Text.Unsigned
import CellNet.Text.Split
import Std.Data.ExtTreeMap
import Std.Data.ExtTreeSet

/-!
# Cell names

A cell is known by its name alone. Names are listed in the order a reader expects: a name that ends
in a colon and a number, such as `C:12`, is *indexed*; indexed names come first, by stem and then
by number, and all other names follow in text order. Names that agree on all of that (`C:1` and
`C:01`) fall back to text order, so the order is total and only equal names compare equal.
-/

namespace CellNet

/-- The name of a cell. -/
structure CellId where
  name : String
deriving DecidableEq, Repr

namespace CellId

/-- What decides the place of a name before its text does. -/
structure Rank where
  /-- False for indexed names, which come first. -/
  plain : Bool
  /-- The text before the last colon. -/
  stem : String
  /-- The number after the last colon. -/
  index : Nat
deriving DecidableEq, Repr

/-- The rank all names without an index share. -/
def Rank.unindexed : Rank := ⟨true, "", 0⟩

/-- The rank of a name: its stem and number if the text after the last colon is a number. -/
def rank (id : CellId) : Rank :=
  match Text.splitLast [':'] id.name.toList with
  | none => .unindexed
  | some (stem, suffix) =>
    match Text.Unsigned.read? suffix with
    | none => .unindexed
    | some index => ⟨false, String.ofList stem, index⟩

/-- Ranks compare by kind, then stem, then number. -/
def Rank.order : Rank → Rank → Ordering :=
  compareLex (compareOn (fun r => r.plain.toNat))
    (compareLex (compareOn Rank.stem) (compareOn Rank.index))

/-- Names compare by rank and then by text. -/
def order : CellId → CellId → Ordering :=
  compareLex (fun a b => Rank.order a.rank b.rank) (compareOn name)

instance : Ord CellId := ⟨order⟩

instance : Std.TransCmp Rank.order :=
  inferInstanceAs (Std.TransCmp (compareLex _ _))

instance : Std.TransCmp fun a b : CellId => Rank.order a.rank b.rank where
  eq_swap {_ _} := (inferInstance : Std.OrientedCmp Rank.order).eq_swap
  isLE_trans {_ _ _} := (inferInstance : Std.TransCmp Rank.order).isLE_trans

instance : Std.TransOrd CellId :=
  inferInstanceAs (Std.TransCmp (compareLex _ _))

instance : Std.LawfulEqOrd CellId where
  eq_of_compare {a b} h := by
    have h : ((Rank.order a.rank b.rank).then (compare a.name b.name)) = .eq := h
    have hn : compare a.name b.name = .eq := (Ordering.then_eq_eq.mp h).2
    cases a; cases b
    exact congrArg CellId.mk (Std.LawfulEqOrd.eq_of_compare hn)

instance : ToString CellId := ⟨name⟩

end CellId

end CellNet
