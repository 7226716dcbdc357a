import CellNet.Port

/-!
# Spanning trees

A spanning tree is known by its name, and each cell that takes part in it gives some of its ports a
*role*: toward the root (`parent`), toward a descendant (`child`), or a word of the backend's own.
There are two families of trees. Every cell may root one *black* tree, named after the cell;
*stacked* trees have names of their own.
-/

namespace CellNet

/-- The name of a spanning tree. -/
structure TreeId where
  name : String
deriving DecidableEq, Repr

namespace TreeId

/-- Tree names are listed in text order. -/
instance : Ord TreeId := ⟨compareOn name⟩

instance : Std.TransOrd TreeId :=
  inferInstanceAs (Std.TransCmp (compareOn name))

instance : Std.LawfulEqOrd TreeId where
  eq_of_compare {a b} h := by
    cases a; cases b
    exact congrArg mk (Std.LawfulEqOrd.eq_of_compare (α := String) h)

instance : ToString TreeId := ⟨name⟩

/-- The black tree a cell roots carries the cell's name. -/
def blackOf (cell : CellId) : TreeId := ⟨"Tree:" ++ cell.name⟩

end TreeId

/-- The two families of trees. -/
inductive TreeKind where
  /-- One tree per cell, rooted at that cell. -/
  | black
  /-- Trees laid over the black ones. -/
  | stacked
deriving DecidableEq, Repr

instance : ToString TreeKind where
  toString
    | .black => "black"
    | .stacked => "stacked"

/-- What a port does in a tree. -/
inductive Role where
  /-- Leads toward the root. -/
  | parent
  /-- Leads toward a descendant. -/
  | child
  /-- Any other word; it is kept, and no walk follows it. -/
  | other (word : String)
deriving DecidableEq, Repr

namespace Role

/-- The role a word names. -/
def ofWord : String → Role
  | "Parent" => .parent
  | "Child" => .child
  | word => .other word

/-- The word for a role. -/
def word : Role → String
  | .parent => "Parent"
  | .child => "Child"
  | .other word => word

theorem word_ofWord (w : String) : (ofWord w).word = w := by
  unfold ofWord
  split <;> rfl

end Role

/-- The roles one cell gives its ports in one tree. -/
abbrev PortTree := Std.ExtTreeMap Port Role

namespace PortTree

/-- The ports with a given role, lowest first. -/
def portsWith (roles : PortTree) (role : Role) : List Port :=
  roles.toList.filterMap fun (port, r) => if r = role then some port else none

/-- The ports that lead toward the root, lowest first. -/
def parentPorts (roles : PortTree) : List Port := roles.portsWith .parent

/-- The ports that lead toward descendants, lowest first. -/
def childPorts (roles : PortTree) : List Port := roles.portsWith .child

/-- The lowest port that leads toward the root. -/
def parentPort? (roles : PortTree) : Option Port := roles.parentPorts.head?

/-- A cell is a root of the tree when no port of it leads toward another root. -/
def isRoot (roles : PortTree) : Bool := roles.parentPorts.isEmpty

end PortTree

end CellNet
