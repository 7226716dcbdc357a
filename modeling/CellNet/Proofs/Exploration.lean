import CellNet.Digraph
import Mathlib.Logic.Relation

/-!
# What a depth-first walk enters

**Theorem (`mem_reach_iff`).** The vertices a walk from `start` enters are exactly those that can
be reached from `start` along edges between vertices, and (`nodup_reach`) it enters each of them
once.

The walk is followed by the recursion of `explore`. Soundness says that whatever is entered is
reachable from the stack. Completeness says that the vertices seen and entered together are closed:
they contain every vertex on the stack, and with an entered vertex all its successors.

**Accounting (`count_explore`).** Every vertex pushed on the stack is met once, so the steps that
name a vertex are as many as the times it was pushed. Where each vertex has at most one way in, no
vertex is met twice (`again_notMem_explore`).
-/

namespace CellNet.Digraph

variable {α : Type u} [DecidableEq α]

/-! ## Reachability -/

/-- An edge leads from a vertex to a successor that is a vertex too. -/
def Edge (g : Digraph α) (v w : α) : Prop :=
  v ∈ g.vertices ∧ w ∈ g.next v ∧ w ∈ g.vertices

/-- A vertex can be reached from a vertex along edges. -/
def Reaches (g : Digraph α) (v w : α) : Prop :=
  v ∈ g.vertices ∧ Relation.ReflTransGen g.Edge v w

omit [DecidableEq α] in
theorem Reaches.mem_vertices {g : Digraph α} {v w : α} (h : g.Reaches v w) : w ∈ g.vertices := by
  obtain ⟨hv, hvw⟩ := h
  cases hvw with
  | refl => exact hv
  | tail _ hedge => exact hedge.2.2

omit [DecidableEq α] in
theorem Reaches.head {g : Digraph α} {v w x : α} (hv : v ∈ g.vertices) (hw : w ∈ g.next v)
    (h : g.Reaches w x) : g.Reaches v x :=
  ⟨hv, h.2.head ⟨hv, hw, h.1⟩⟩

/-! ## The vertices entered -/

/-- The vertices a walk from a stack enters, in the order it does. -/
def entered (g : Digraph α) (seen stack : List α) : List α :=
  (g.explore seen stack).filterMap Step.entered?

variable {g : Digraph α} {seen rest : List α} {v w start : α}

theorem reach_eq_entered (g : Digraph α) (start : α) : g.reach start = g.entered [] [start] := rfl

theorem mem_entered_iff {stack : List α} :
    v ∈ g.entered seen stack ↔ .enter v ∈ g.explore seen stack := by
  rw [entered, List.mem_filterMap]
  constructor
  · rintro ⟨step, hstep, hv⟩
    cases step with
    | enter u => rwa [← Option.some.inj hv]
    | again u => cases hv
  · exact fun h => ⟨_, h, rfl⟩

@[simp] theorem explore_nil : g.explore seen [] = [] := by
  rw [explore]

theorem explore_skip (hv : v ∉ g.vertices) : g.explore seen (v :: rest) = g.explore seen rest := by
  rw [explore, dif_neg hv]

theorem explore_again (hv : v ∈ g.vertices) (hs : v ∈ seen) :
    g.explore seen (v :: rest) = .again v :: g.explore seen rest := by
  rw [explore, dif_pos hv, dif_pos hs]

theorem explore_enter (hv : v ∈ g.vertices) (hs : v ∉ seen) :
    g.explore seen (v :: rest) = .enter v :: g.explore (v :: seen) (g.next v ++ rest) := by
  rw [explore, dif_pos hv, dif_neg hs]

@[simp] theorem entered_nil : g.entered seen [] = [] := by
  simp [entered]

theorem entered_skip (hv : v ∉ g.vertices) : g.entered seen (v :: rest) = g.entered seen rest := by
  rw [entered, explore_skip hv, entered]

theorem entered_again (hv : v ∈ g.vertices) (hs : v ∈ seen) :
    g.entered seen (v :: rest) = g.entered seen rest := by
  rw [entered, explore_again hv hs]; rfl

theorem entered_enter (hv : v ∈ g.vertices) (hs : v ∉ seen) :
    g.entered seen (v :: rest) = v :: g.entered (v :: seen) (g.next v ++ rest) := by
  rw [entered, explore_enter hv hs]; rfl

/-- Case analysis along a walk: the stack is empty, or its head is skipped, met again or entered. -/
theorem explore_induction {motive : List α → List α → Prop} (g : Digraph α)
    (nil : ∀ seen, motive seen [])
    (skip : ∀ seen v rest, v ∉ g.vertices → motive seen rest → motive seen (v :: rest))
    (again : ∀ seen v rest, v ∈ g.vertices → v ∈ seen → motive seen rest → motive seen (v :: rest))
    (enter : ∀ seen v rest, v ∈ g.vertices → v ∉ seen →
      motive (v :: seen) (g.next v ++ rest) → motive seen (v :: rest))
    (seen stack : List α) : motive seen stack := by
  induction seen, stack using explore.induct g with
  | case1 seen => exact nil seen
  | case2 seen v rest hv hs ih => exact again seen v rest hv hs ih
  | case3 seen v rest hv hs ih => exact enter seen v rest hv hs ih
  | case4 seen v rest hv ih => exact skip seen v rest hv ih

/-! ## Soundness -/

theorem exists_reaches_of_mem_entered (g : Digraph α) (seen stack : List α) :
    w ∈ g.entered seen stack → ∃ v ∈ stack, g.Reaches v w := by
  induction seen, stack using explore_induction g with
  | nil seen => simp
  | skip seen v rest hv ih =>
    rw [entered_skip hv]
    intro h
    obtain ⟨u, hu, huw⟩ := ih h
    exact ⟨u, List.mem_cons_of_mem v hu, huw⟩
  | again seen v rest hv hs ih =>
    rw [entered_again hv hs]
    intro h
    obtain ⟨u, hu, huw⟩ := ih h
    exact ⟨u, List.mem_cons_of_mem v hu, huw⟩
  | enter seen v rest hv hs ih =>
    rw [entered_enter hv hs]
    intro h
    rcases List.mem_cons.1 h with rfl | h
    · exact ⟨w, List.mem_cons_self, hv, .refl⟩
    · obtain ⟨u, hu, huw⟩ := ih h
      rcases List.mem_append.1 hu with hu | hu
      · exact ⟨v, List.mem_cons_self, .head hv hu huw⟩
      · exact ⟨u, List.mem_cons_of_mem v hu, huw⟩

/-! ## Completeness -/

/-- Entering a vertex keeps what is seen or still to be entered. -/
theorem seen_or_entered_enter (hv : v ∈ g.vertices) (hs : v ∉ seen) :
    w ∈ seen ∨ w ∈ g.entered seen (v :: rest) ↔
      w ∈ v :: seen ∨ w ∈ g.entered (v :: seen) (g.next v ++ rest) := by
  rw [entered_enter hv hs, List.mem_cons, List.mem_cons, or_left_comm, or_assoc]

theorem mem_entered_of_mem_stack (g : Digraph α) (seen stack : List α) :
    v ∈ stack → v ∈ g.vertices → v ∈ seen ∨ v ∈ g.entered seen stack := by
  induction seen, stack using explore_induction g with
  | nil seen => simp
  | skip seen u rest hu ih =>
    rw [entered_skip hu]
    intro h hv
    rcases List.mem_cons.1 h with rfl | h
    · exact absurd hv hu
    · exact ih h hv
  | again seen u rest hu hs ih =>
    rw [entered_again hu hs]
    intro h hv
    rcases List.mem_cons.1 h with rfl | h
    · exact Or.inl hs
    · exact ih h hv
  | enter seen u rest hu hs ih =>
    rw [seen_or_entered_enter hu hs]
    intro h hv
    rcases List.mem_cons.1 h with rfl | h
    · exact Or.inl List.mem_cons_self
    · exact ih (List.mem_append_right _ h) hv

theorem mem_entered_of_mem_next (g : Digraph α) (seen stack : List α) :
    v ∈ g.entered seen stack → w ∈ g.next v → w ∈ g.vertices →
      w ∈ seen ∨ w ∈ g.entered seen stack := by
  induction seen, stack using explore_induction g with
  | nil seen => simp
  | skip seen u rest hu ih => rwa [entered_skip hu]
  | again seen u rest hu hs ih => rwa [entered_again hu hs]
  | enter seen u rest hu hs ih =>
    rw [seen_or_entered_enter hu hs, entered_enter hu hs]
    intro h hw hg
    rcases List.mem_cons.1 h with rfl | h
    · exact mem_entered_of_mem_stack g _ _ (List.mem_append_left _ hw) hg
    · exact ih h hw hg

/-- **A walk enters exactly what can be reached.** -/
theorem mem_reach_iff : w ∈ g.reach start ↔ g.Reaches start w := by
  rw [reach_eq_entered]
  constructor
  · intro h
    obtain ⟨v, hv, hvw⟩ := exists_reaches_of_mem_entered g [] [start] h
    rwa [List.mem_singleton.1 hv] at hvw
  · rintro ⟨hs, hsw⟩
    induction hsw with
    | refl => simpa using mem_entered_of_mem_stack g [] [start] List.mem_cons_self hs
    | tail _ hedge ih => simpa using mem_entered_of_mem_next g [] [start] ih hedge.2.1 hedge.2.2

/-! ## Each vertex once -/

theorem notMem_seen_of_mem_entered (g : Digraph α) (seen stack : List α) :
    v ∈ g.entered seen stack → v ∉ seen := by
  induction seen, stack using explore_induction g with
  | nil seen => simp
  | skip seen u rest hu ih => rwa [entered_skip hu]
  | again seen u rest hu hs ih => rwa [entered_again hu hs]
  | enter seen u rest hu hs ih =>
    rw [entered_enter hu hs]
    intro h
    rcases List.mem_cons.1 h with rfl | h
    · exact hs
    · exact fun hv => ih h (List.mem_cons_of_mem u hv)

theorem nodup_entered (g : Digraph α) (seen stack : List α) : (g.entered seen stack).Nodup := by
  induction seen, stack using explore_induction g with
  | nil seen => simp
  | skip seen u rest hu ih => rwa [entered_skip hu]
  | again seen u rest hu hs ih => rwa [entered_again hu hs]
  | enter seen u rest hu hs ih =>
    rw [entered_enter hu hs, List.nodup_cons]
    exact ⟨fun h => notMem_seen_of_mem_entered g _ _ h List.mem_cons_self, ih⟩

/-- A walk enters no vertex twice. -/
theorem nodup_reach (g : Digraph α) (start : α) : (g.reach start).Nodup :=
  nodup_entered g [] [start]

/-! ## Accounting -/

/-- The steps that name a vertex are as many as the times it was on the stack or pushed. -/
theorem count_explore (hv : v ∈ g.vertices) (seen stack : List α) :
    (g.explore seen stack).count (.enter v) + (g.explore seen stack).count (.again v) =
      stack.count v + ((g.entered seen stack).flatMap g.next).count v := by
  induction seen, stack using explore_induction g with
  | nil seen => simp
  | skip seen u rest hu ih =>
    have hne : u ≠ v := fun h => hu (h ▸ hv)
    rw [explore_skip hu, entered_skip hu, ih, List.count_cons_of_ne hne]
  | again seen u rest hu hs ih =>
    rw [explore_again hu hs, entered_again hu hs]
    simp only [List.count_cons, beq_iff_eq, reduceCtorEq, if_false, Step.again.injEq]
    omega
  | enter seen u rest hu hs ih =>
    rw [explore_enter hu hs, entered_enter hu hs]
    simp only [List.count_cons, List.flatMap_cons, List.count_append, beq_iff_eq, reduceCtorEq,
      if_false, Step.enter.injEq] at ih ⊢
    omega

/-- A vertex that is met again has been seen or is entered. -/
theorem mem_entered_of_again (g : Digraph α) (seen stack : List α) :
    .again v ∈ g.explore seen stack → v ∈ seen ∨ v ∈ g.entered seen stack := by
  induction seen, stack using explore_induction g with
  | nil seen => simp
  | skip seen u rest hu ih => rwa [explore_skip hu, entered_skip hu]
  | again seen u rest hu hs ih =>
    rw [explore_again hu hs, entered_again hu hs]
    intro h
    rcases List.mem_cons.1 h with h | h
    · exact Or.inl (Step.again.inj h ▸ hs)
    · exact ih h
  | enter seen u rest hu hs ih =>
    rw [seen_or_entered_enter hu hs, explore_enter hu hs]
    intro h
    rcases List.mem_cons.1 h with h | h
    · cases h
    · exact ih h

/-! ## One way in -/

/-- Every vertex has at most one way in: one predecessor, which lists it once. The start has
none. -/
structure Branching (g : Digraph α) (start : α) : Prop where
  start : ∀ v, ¬ g.Edge v start
  once : ∀ v w, g.Edge v w → (g.next v).count w ≤ 1
  unique : ∀ u v w, g.Edge u w → g.Edge v w → u = v

omit [DecidableEq α] in
/-- What lies in one of the lists at most, and there once, lies once in all of them together. -/
theorem count_flatMap_le_one {β : Type v} [DecidableEq β] {l : List α} {f : α → List β} {b : β}
    (hl : l.Nodup) (hone : ∀ u ∈ l, b ∈ f u → (f u).count b ≤ 1)
    (huniq : ∀ u ∈ l, ∀ v ∈ l, b ∈ f u → b ∈ f v → u = v) : (l.flatMap f).count b ≤ 1 := by
  induction l with
  | nil => simp
  | cons u l ih =>
    obtain ⟨hu, hl⟩ := List.nodup_cons.1 hl
    rw [List.flatMap_cons, List.count_append]
    by_cases hb : b ∈ f u
    · have hrest : b ∉ l.flatMap f := by
        intro h
        obtain ⟨v, hv, hbv⟩ := List.mem_flatMap.1 h
        have huv := huniq u List.mem_cons_self v (List.mem_cons_of_mem u hv) hb hbv
        exact hu (huv ▸ hv)
      rw [List.count_eq_zero_of_not_mem hrest]
      exact hone u List.mem_cons_self hb
    · rw [List.count_eq_zero_of_not_mem hb, Nat.zero_add]
      exact ih hl (fun v hv => hone v (List.mem_cons_of_mem u hv)) fun v hv x hx =>
        huniq v (List.mem_cons_of_mem u hv) x (List.mem_cons_of_mem u hx)

/-- **No vertex is met twice** where each has at most one way in. -/
theorem again_notMem_explore (h : g.Branching start) (v : α) :
    .again v ∉ g.explore [] [start] := by
  intro hagain
  have hentered : v ∈ g.entered [] [start] := by
    simpa using mem_entered_of_again g [] [start] hagain
  have hvertex : ∀ u ∈ g.entered [] [start], u ∈ g.vertices :=
    fun u hu => (mem_reach_iff.1 (g.reach_eq_entered start ▸ hu)).mem_vertices
  have hv := hvertex v hentered
  -- The vertex is entered and met again, but pushed at most once.
  have hone := List.count_pos_iff.2 (mem_entered_iff.1 hentered)
  have htwo := List.count_pos_iff.2 hagain
  have hpushed := count_explore hv [] [start]
  by_cases hvs : v = start
  · subst hvs
    have hnone : v ∉ (g.entered [] [v]).flatMap g.next := by
      intro hmem
      obtain ⟨u, hu, huv⟩ := List.mem_flatMap.1 hmem
      exact h.start u ⟨hvertex u hu, huv, hv⟩
    rw [List.count_eq_zero_of_not_mem hnone, List.count_singleton_self] at hpushed
    omega
  · have hle : ((g.entered [] [start]).flatMap g.next).count v ≤ 1 :=
      count_flatMap_le_one (nodup_entered g [] [start])
        (fun u hu huv => h.once u v ⟨hvertex u hu, huv, hv⟩) fun u hu x hx huv hxv =>
          h.unique u x v ⟨hvertex u hu, huv, hv⟩ ⟨hvertex x hx, hxv, hv⟩
    rw [List.count_cons_of_ne (Ne.symm hvs), List.count_nil] at hpushed
    omega

end CellNet.Digraph
