import CellNet.CellId

/-!
# Ports

A cell reaches its neighbours through numbered ports. A `Neighbor` is the far side of a port: the
cell behind it and the port of that cell the connection arrives at.
-/

namespace CellNet

/-- A port of a cell, by number. -/
structure Port where
  number : Nat
deriving DecidableEq, Repr

namespace Port

instance : Ord Port := ⟨compareOn number⟩

instance : Std.TransOrd Port :=
  inferInstanceAs (Std.TransCmp (compareOn number))

instance : Std.LawfulEqOrd Port where
  eq_of_compare {a b} h := by
    cases a; cases b
    exact congrArg mk (Std.LawfulEqOrd.eq_of_compare (α := Nat) h)

/-- Ports are written `P0`, `P1` and so on. -/
instance : ToString Port := ⟨fun port => "P" ++ toString port.number⟩

end Port

/-- The far side of a port. -/
structure Neighbor where
  cell : CellId
  port : Port
deriving DecidableEq, Repr

end CellNet
