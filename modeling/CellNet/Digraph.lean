/-!
# Finite directed graphs

A graph is given by its vertices and, for each of them, the list of its successors; a successor
that is no vertex is passed over. `explore` walks a graph depth first and lists what it does: each
vertex is entered once, and coming upon an entered vertex again is a step of its own. `core` is what
is left when vertices without a way on are removed until none is; it is empty exactly when the
graph has no cycle.
-/

namespace CellNet

/-- A directed graph on finitely many vertices. -/
structure Digraph (α : Type u) where
  vertices : List α
  next : α → List α

namespace Digraph

variable {α : Type u} [DecidableEq α]

/-- A step of a depth-first walk. -/
inductive Step (α : Type u) where
  /-- A vertex is entered for the first time. -/
  | enter (vertex : α)
  /-- The walk comes upon a vertex it has entered before. -/
  | again (vertex : α)
deriving DecidableEq, Repr

/-- The vertex a step enters, if it enters one. -/
def Step.entered? : Step α → Option α
  | .enter v => some v
  | .again _ => none

/-- The vertices not among `seen`. -/
def unseen (g : Digraph α) (seen : List α) : List α :=
  g.vertices.filter (· ∉ seen)

/-- Entering a vertex leaves fewer vertices to enter. -/
theorem length_unseen_cons_lt (g : Digraph α) {seen : List α} {v : α}
    (hv : v ∈ g.vertices) (hs : v ∉ seen) :
    (g.unseen (v :: seen)).length < (g.unseen seen).length := by
  have h : g.unseen (v :: seen) = (g.unseen seen).filter (· ≠ v) := by
    simp [unseen, List.filter_filter]
  rw [h]
  refine Nat.lt_of_le_of_ne (List.length_filter_le _ _) fun heq => ?_
  have := List.length_filter_eq_length_iff.mp heq v (by simp [unseen, hv, hs])
  simp at this

/-- Walks depth first from the vertices waiting on a stack, its head first. -/
def explore (g : Digraph α) (seen : List α) : List α → List (Step α)
  | [] => []
  | v :: rest =>
    if _ : v ∈ g.vertices then
      if _ : v ∈ seen then .again v :: g.explore seen rest
      else .enter v :: g.explore (v :: seen) (g.next v ++ rest)
    else g.explore seen rest
termination_by stack => ((g.unseen seen).length, stack.length)
decreasing_by
  · exact Prod.Lex.right _ (by simp)
  · exact Prod.Lex.left _ _ (g.length_unseen_cons_lt ‹_› ‹_›)
  · exact Prod.Lex.right _ (by simp)

/-- The vertices a walk from one vertex enters, in the order it does. -/
def reach (g : Digraph α) (start : α) : List α :=
  (g.explore [] [start]).filterMap Step.entered?

/-- The vertices of `left` that have a successor in `left`. -/
def stay (g : Digraph α) (left : List α) : List α :=
  left.filter fun v => (g.next v).any (· ∈ left)

/-- What remains of `left` when vertices without a successor in it are removed until none is. -/
def core (g : Digraph α) (left : List α) : List α :=
  if (g.stay left).length < left.length then g.core (g.stay left) else left
termination_by left.length

/-- Whether the graph has a cycle, a vertex that is its own successor included. -/
def isCyclic (g : Digraph α) : Bool := !(g.core g.vertices).isEmpty

end Digraph

end CellNet
