import CellNet.Topology
import Mathlib.Data.Set.Card

/-!
# The members of a tree and their ports

The definitions of `Topology` list members, ports and roots by going through maps. Here they are
described by what a look-up says, and the later proofs use only these descriptions: a port has a
role (`HasRole`), a cell is a root when none of its ports leads toward another root (`IsRoot`), and
the first root is the least one in cell order (`IsFirstRoot`).
-/

namespace CellNet

theorem encard_setOf_mem {α : Type u} [DecidableEq α] {l : List α} (h : l.Nodup) :
    {a | a ∈ l}.encard = l.length := by
  rw [← List.coe_toFinset, Set.encard_coe_eq_coe_finsetCard, List.toFinset_card_of_nodup h]

/-! ## Lists in increasing order -/

section sorted

variable {α : Type u} [Ord α] [Std.LawfulEqOrd α] {l m : List α}

theorem nodup_of_sorted (h : l.Pairwise fun a b => compare a b = .lt) : l.Nodup :=
  h.imp fun hlt heq => by simp [heq] at hlt

theorem eq_of_sorted [Std.TransOrd α] (hl : l.Pairwise fun a b => compare a b = .lt)
    (hm : m.Pairwise fun a b => compare a b = .lt) (h : ∀ a, a ∈ l ↔ a ∈ m) : l = m := by
  have hperm : l.Perm m :=
    (List.perm_ext_iff_of_nodup (nodup_of_sorted hl) (nodup_of_sorted hm)).2 h
  refine List.Perm.eq_of_pairwise (fun a b _ _ hab hba => ?_) hl hm hperm
  exact absurd hba (Std.OrientedCmp.not_lt_of_lt hab)

end sorted

/-! ## Ports with a role -/

namespace PortTree

variable {roles : PortTree} {port : Port} {role : Role}

@[simp] theorem mem_portsWith : port ∈ roles.portsWith role ↔ roles[port]? = some role := by
  simp only [portsWith, List.mem_filterMap, Prod.exists, Option.ite_none_right_eq_some,
    Option.some.injEq, Std.ExtTreeMap.mem_toList_iff_getElem?_eq_some]
  constructor
  · rintro ⟨p, r, hmem, rfl, rfl⟩
    exact hmem
  · exact fun h => ⟨port, role, h, rfl, rfl⟩

theorem pairwise_portsWith (roles : PortTree) (role : Role) :
    (roles.portsWith role).Pairwise fun a b => compare a b = .lt := by
  refine roles.ordered_keys_toList.filterMap _ fun a b hab p hp q hq => ?_
  simp only [Option.ite_none_right_eq_some, Option.some.injEq] at hp hq
  rwa [← hp.2, ← hq.2]

theorem nodup_portsWith (roles : PortTree) (role : Role) : (roles.portsWith role).Nodup :=
  nodup_of_sorted (roles.pairwise_portsWith role)

theorem isRoot_iff : roles.isRoot ↔ ∀ port : Port, roles[port]? ≠ some .parent := by
  simp only [isRoot, parentPorts, List.isEmpty_iff, List.eq_nil_iff_forall_not_mem, mem_portsWith,
    ne_eq]

/-- The only port that leads toward the root is the lowest one. -/
theorem parentPort?_eq_some (h : ∀ p : Port, roles[p]? = some .parent ↔ p = port) :
    roles.parentPort? = some port := by
  have hmem : port ∈ roles.parentPorts := mem_portsWith.2 ((h port).2 rfl)
  cases hports : roles.parentPorts with
  | nil => rw [hports] at hmem; cases hmem
  | cons p rest =>
    have hp : p ∈ roles.portsWith .parent := by
      rw [show roles.portsWith .parent = p :: rest from hports]; exact List.mem_cons_self
    rw [parentPort?, hports, List.head?_cons, (h p).1 (mem_portsWith.1 hp)]

end PortTree

namespace Topology

variable {topo : Topology} {kind : TreeKind} {tree : TreeId} {id other : CellId} {port : Port}
  {role : Role}

/-! ## The far side of a port -/

def neighbor? (topo : Topology) (id : CellId) (port : Port) : Option Neighbor :=
  (topo.cell? id).bind fun cell => cell.neighbor? port

theorem cellBehind?_eq (topo : Topology) (id : CellId) (port : Port) :
    topo.cellBehind? id port = (topo.neighbor? id port).map Neighbor.cell := by
  rw [neighbor?, Option.map_bind]; rfl

theorem linkThrough?_eq (topo : Topology) (id : CellId) (port : Port) :
    topo.linkThrough? id port = (topo.neighbor? id port).map fun n => (linkAt id port n).id := by
  rw [neighbor?, Option.map_bind]; rfl

/-! ## Members -/

/-- A placed cell gives a port a role in a tree. -/
def HasRole (topo : Topology) (kind : TreeKind) (tree : TreeId) (id : CellId) (port : Port)
    (role : Role) : Prop :=
  ∃ roles, topo.roles? kind tree id = some roles ∧ roles[port]? = some role

theorem carries_iff :
    topo.carries kind tree id ↔ ∃ roles, topo.roles? kind tree id = some roles := by
  rw [carries, Option.isSome_iff_exists]

theorem HasRole.carries (h : topo.HasRole kind tree id port role) : topo.carries kind tree id := by
  obtain ⟨roles, hroles, -⟩ := h
  exact carries_iff.2 ⟨roles, hroles⟩

theorem hasRole_iff {roles : PortTree} (h : topo.roles? kind tree id = some roles) :
    topo.HasRole kind tree id port role ↔ roles[port]? = some role := by
  simp [HasRole, h]

/-- The ports of a cell with a role in a tree, lowest first. -/
def rolePorts (topo : Topology) (kind : TreeKind) (tree : TreeId) (id : CellId) (role : Role) :
    List Port :=
  match topo.roles? kind tree id with
  | none => []
  | some roles => roles.portsWith role

@[simp] theorem mem_rolePorts :
    port ∈ topo.rolePorts kind tree id role ↔ topo.HasRole kind tree id port role := by
  cases h : topo.roles? kind tree id with
  | none => simp [rolePorts, HasRole, h]
  | some roles => simp [rolePorts, hasRole_iff h, h]

theorem pairwise_rolePorts (topo : Topology) (kind : TreeKind) (tree : TreeId) (id : CellId)
    (role : Role) : (topo.rolePorts kind tree id role).Pairwise fun a b => compare a b = .lt := by
  rw [rolePorts]
  split
  · exact List.Pairwise.nil
  · exact PortTree.pairwise_portsWith _ role

theorem nodup_rolePorts (topo : Topology) (kind : TreeKind) (tree : TreeId) (id : CellId)
    (role : Role) : (topo.rolePorts kind tree id role).Nodup :=
  nodup_of_sorted (topo.pairwise_rolePorts kind tree id role)

theorem rolePorts_eq_nil_iff : topo.rolePorts kind tree id role = [] ↔
    ∀ port, ¬ topo.HasRole kind tree id port role := by
  simp only [List.eq_nil_iff_forall_not_mem, mem_rolePorts]

theorem rolePorts_eq_singleton_iff : topo.rolePorts kind tree id role = [port] ↔
    ∀ p, topo.HasRole kind tree id p role ↔ p = port := by
  simp only [← mem_rolePorts]
  constructor
  · intro h p
    rw [h, List.mem_singleton]
  · intro h
    refine List.perm_singleton.1 ((List.perm_ext_iff_of_nodup (nodup_rolePorts ..) ?_).2 ?_)
    · simp
    · simpa using h

theorem mem_cells_of_carries (h : topo.carries kind tree id) : id ∈ topo.cells := by
  obtain ⟨roles, hroles⟩ := carries_iff.1 h
  obtain ⟨cell, hcell, -⟩ := Option.bind_eq_some_iff.1 hroles
  exact Std.ExtTreeMap.mem_iff_isSome_getElem?.2 (Option.isSome_iff_exists.2 ⟨cell, hcell⟩)

@[simp] theorem mem_members : id ∈ topo.members kind tree ↔ topo.carries kind tree id := by
  rw [members, List.mem_filter, Std.ExtTreeMap.mem_keys]
  exact ⟨And.right, fun h => ⟨mem_cells_of_carries h, h⟩⟩

/-! ## Roots -/

/-- A member from which no port leads toward the root. -/
def IsRoot (topo : Topology) (kind : TreeKind) (tree : TreeId) (id : CellId) : Prop :=
  topo.carries kind tree id ∧ ∀ port, ¬ topo.HasRole kind tree id port .parent

/-- The least root in cell order. -/
def IsFirstRoot (topo : Topology) (kind : TreeKind) (tree : TreeId) (id : CellId) : Prop :=
  topo.IsRoot kind tree id ∧ ∀ other, topo.IsRoot kind tree other → (compare id other).isLE

theorem isRoot_iff : topo.IsRoot kind tree id ↔
    ∃ roles, topo.roles? kind tree id = some roles ∧ roles.isRoot := by
  constructor
  · rintro ⟨hcarries, hnone⟩
    obtain ⟨roles, hroles⟩ := carries_iff.1 hcarries
    exact ⟨roles, hroles, PortTree.isRoot_iff.2 fun p hp => hnone p ⟨roles, hroles, hp⟩⟩
  · rintro ⟨roles, hroles, hroot⟩
    refine ⟨carries_iff.2 ⟨roles, hroles⟩, fun p hp => ?_⟩
    exact PortTree.isRoot_iff.1 hroot p ((hasRole_iff hroles).1 hp)

@[simp] theorem mem_roots : id ∈ topo.roots kind tree ↔ topo.IsRoot kind tree id := by
  rw [roots, List.mem_filter, Std.ExtTreeMap.mem_keys, isRoot_iff]
  constructor
  · rintro ⟨-, hroot⟩
    split at hroot
    · exact ⟨_, ‹_›, hroot⟩
    · cases hroot
  · rintro ⟨roles, hroles, hroot⟩
    exact ⟨mem_cells_of_carries (carries_iff.2 ⟨roles, hroles⟩), by simpa [hroles] using hroot⟩

theorem pairwise_roots (topo : Topology) (kind : TreeKind) (tree : TreeId) :
    (topo.roots kind tree).Pairwise fun a b => compare a b = .lt :=
  topo.cells.ordered_keys.filter _

theorem IsFirstRoot.unique (h : topo.IsFirstRoot kind tree id)
    (h' : topo.IsFirstRoot kind tree other) : id = other :=
  Std.LawfulEqOrd.eq_of_compare <|
    Std.OrientedCmp.isLE_antisymm (h.2 other h'.1) (h'.2 id h.1)

/-- The first root is the head of the list of roots. -/
theorem head?_roots_eq_some_iff :
    (topo.roots kind tree).head? = some id ↔ topo.IsFirstRoot kind tree id := by
  have hleast : ∀ first rest, topo.roots kind tree = first :: rest →
      topo.IsFirstRoot kind tree first := by
    intro first rest hroots
    have hsorted := hroots ▸ topo.pairwise_roots kind tree
    refine ⟨mem_roots.1 (hroots ▸ List.mem_cons_self), fun other hother => ?_⟩
    rcases List.mem_cons.1 (hroots ▸ mem_roots.2 hother) with rfl | hmem
    · simp
    · simp [List.rel_of_pairwise_cons hsorted hmem]
  cases hroots : topo.roots kind tree with
  | nil =>
    refine ⟨fun h => ?_, fun h => ?_⟩
    · cases h
    · exact absurd (mem_roots.2 h.1) (by simp [hroots])
  | cons first rest =>
    have hfirst := hleast first rest hroots
    rw [List.head?_cons, Option.some.injEq]
    exact ⟨fun h => h ▸ hfirst, hfirst.unique⟩

theorem isFirstRoot_iff :
    topo.IsFirstRoot kind tree id ↔ ∃ others, topo.roots kind tree = id :: others := by
  rw [← head?_roots_eq_some_iff, List.head?_eq_some_iff]

instance (topo : Topology) (kind : TreeKind) (tree : TreeId) (id : CellId) :
    Decidable (topo.IsFirstRoot kind tree id) :=
  decidable_of_iff ((topo.roots kind tree).head? = some id) head?_roots_eq_some_iff

theorem roots_eq_nil_iff : topo.roots kind tree = [] ↔ ¬ ∃ id, topo.IsRoot kind tree id := by
  simp only [List.eq_nil_iff_forall_not_mem, mem_roots, not_exists]

theorem IsRoot.exists_isFirstRoot (h : topo.IsRoot kind tree id) :
    ∃ first, topo.IsFirstRoot kind tree first := by
  cases hroots : topo.roots kind tree with
  | nil => exact absurd ⟨id, h⟩ (roots_eq_nil_iff.1 hroots)
  | cons first others => exact ⟨first, head?_roots_eq_some_iff.1 (hroots ▸ rfl)⟩

end Topology

/-- A cell that takes part in one tree; small topologies are built from such cells. -/
def Cell.inTree (id : CellId) (kind : TreeKind) (tree : TreeId)
    (neighbors : List (Port × Neighbor)) (roles : List (Port × Role)) : Cell :=
  let cell : Cell :=
    { id, row := 0, col := 0, isBorder := false
      neighbors := Std.ExtTreeMap.ofList neighbors compare }
  cell.withTrees ((∅ : Std.ExtTreeMap TreeId PortTree).insert tree
    (Std.ExtTreeMap.ofList roles compare)) kind

end CellNet
