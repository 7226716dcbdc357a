import CellNet.Proofs.Exploration
import Mathlib.Data.Set.Finite.Basic
import Mathlib.Order.WellFounded

/-!
# When peeling leaves nothing

**Theorem (`isCyclic_iff`).** A graph is reported as cyclic exactly when some vertex can be reached
from itself by one edge or more.

Peeling removes vertices without a successor among those left. What it leaves (`core`) is the
greatest set of vertices each of which has a successor in the set: every vertex of the core has one
(`exists_next_mem_core`), and no set with that property loses a vertex (`mem_core_of_closed`). The
vertices on cycles are such a set. Conversely, a way that never has to stop among finitely many
vertices comes back to one of them.
-/

namespace CellNet.Digraph

/-! ## Ways that never stop -/

/-- Where each of finitely many elements leads to another of them, one of them leads back to
itself. -/
theorem exists_transGen_self {α : Type u} {r : α → α → Prop} {l : List α} (hne : l ≠ [])
    (hon : ∀ v ∈ l, ∃ w ∈ l, r v w) : ∃ v, Relation.TransGen r v v := by
  by_contra hnone
  rw [not_exists] at hnone
  have hfinite : Finite {v // v ∈ l} := (List.finite_toSet l).to_subtype
  have htrans : IsTrans {v // v ∈ l} fun a b => Relation.TransGen r b a :=
    ⟨fun _ _ _ hba hcb => hcb.trans hba⟩
  have hirrefl : Std.Irrefl fun a b : {v // v ∈ l} => Relation.TransGen r b a :=
    ⟨fun a => hnone a⟩
  have hwf := Finite.wellFounded_of_trans_of_irrefl
    fun a b : {v // v ∈ l} => Relation.TransGen r b a
  obtain ⟨v, hv⟩ := List.exists_mem_of_ne_nil l hne
  -- An element after which no other comes would have nowhere to lead.
  obtain ⟨last, -, hlast⟩ := hwf.has_min Set.univ ⟨⟨v, hv⟩, trivial⟩
  obtain ⟨w, hw, hstep⟩ := hon last last.2
  exact hlast ⟨w, hw⟩ trivial (.single hstep)

variable {α : Type u} [DecidableEq α] {g : Digraph α} {left : List α} {v w : α}

/-! ## The core -/

theorem mem_stay : v ∈ g.stay left ↔ v ∈ left ∧ ∃ w ∈ g.next v, w ∈ left := by
  simp [stay]

/-- Peeling stops when every vertex left has a successor among those left. -/
theorem stay_eq_self (h : ¬ (g.stay left).length < left.length) : g.stay left = left :=
  List.filter_sublist.eq_of_length_le (Nat.le_of_not_lt h)

theorem mem_left_of_mem_core (g : Digraph α) (left : List α) : v ∈ g.core left → v ∈ left := by
  induction left using core.induct g with
  | case1 left hlt ih =>
    rw [core, if_pos hlt]
    exact fun h => (mem_stay.1 (ih h)).1
  | case2 left hlt => rw [core, if_neg hlt]; exact id

theorem exists_next_mem_core (g : Digraph α) (left : List α) :
    v ∈ g.core left → ∃ w ∈ g.next v, w ∈ g.core left := by
  induction left using core.induct g with
  | case1 left hlt ih => rwa [core, if_pos hlt]
  | case2 left hlt =>
    rw [core, if_neg hlt]
    intro h
    rw [← stay_eq_self hlt] at h
    exact (mem_stay.1 h).2

/-- Vertices that always have a successor among themselves are never peeled off. -/
theorem mem_core_of_closed {s : α → Prop} (hnext : ∀ v, s v → ∃ w ∈ g.next v, s w)
    (left : List α) : (∀ v, s v → v ∈ left) → ∀ v, s v → v ∈ g.core left := by
  induction left using core.induct g with
  | case1 left hlt ih =>
    rw [core, if_pos hlt]
    intro hleft
    refine ih fun v hv => ?_
    obtain ⟨w, hw, hsw⟩ := hnext v hv
    exact mem_stay.2 ⟨hleft v hv, w, hw, hleft w hsw⟩
  | case2 left hlt => rw [core, if_neg hlt]; exact id

/-! ## Cycles -/

omit [DecidableEq α] in
/-- A vertex on a cycle has a successor on a cycle. -/
theorem exists_edge_transGen_self (h : Relation.TransGen g.Edge v v) :
    ∃ w, g.Edge v w ∧ Relation.TransGen g.Edge w w := by
  obtain ⟨w, hvw, hwv⟩ := Relation.TransGen.head'_iff.1 h
  exact ⟨w, hvw, .tail' hwv hvw⟩

/-- **A graph is reported as cyclic exactly when it has a cycle.** -/
theorem isCyclic_iff : g.isCyclic ↔ ∃ v, Relation.TransGen g.Edge v v := by
  have hcore : g.isCyclic ↔ g.core g.vertices ≠ [] := by
    simp [isCyclic]
  rw [hcore]
  constructor
  · intro hne
    have hvertex := fun v => mem_left_of_mem_core (v := v) g g.vertices
    refine exists_transGen_self hne fun v hv => ?_
    obtain ⟨w, hnext, hw⟩ := exists_next_mem_core g g.vertices hv
    exact ⟨w, hw, hvertex v hv, hnext, hvertex w hw⟩
  · rintro ⟨v, hv⟩
    have hnext : ∀ u, Relation.TransGen g.Edge u u →
        ∃ w ∈ g.next u, Relation.TransGen g.Edge w w := by
      intro u hu
      obtain ⟨w, hedge, hw⟩ := exists_edge_transGen_self hu
      exact ⟨w, hedge.2.1, hw⟩
    have hvertex : ∀ u, Relation.TransGen g.Edge u u → u ∈ g.vertices := by
      intro u hu
      obtain ⟨w, hedge, -⟩ := exists_edge_transGen_self hu
      exact hedge.1
    exact List.ne_nil_of_mem (mem_core_of_closed hnext g.vertices hvertex v hv)

end CellNet.Digraph
