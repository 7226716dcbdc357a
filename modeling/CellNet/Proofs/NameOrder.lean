import CellNet.CellId
import Mathlib.Data.Finset.Card

/-!
# The order of cell names

Every map of cells is keyed by their names, and the first root of a tree is the least of its roots,
so much rests on the order of names. It compares in layers: whether a name is indexed, its stem,
its number, its text.

**Theorem (`order_lawful`).** The order is total, and only equal names compare equal. Names that end
in a colon and a number come before all others, and of two such names with one stem the lower number
is first, however the numbers are spelled. A map keyed by names holds each name once, and what it
holds for one name is not touched by an entry under another.

A name has its index (`HasIndex`) by what is written in it: behind its last colon stands one of the
spellings of a number. The rank of a name follows from that (`HasIndex.rank_eq`,
`rank_eq_unindexed`). One name can precede another in five ways (`Precedes`), each of which says in
which layer the two differ, and they do so exactly when the comparison says so
(`compare_eq_lt_iff`). A number too large for a word is no index, so a name can leave the upper
layers by a single digit. Ranks are something all names have, and so the order is transitive across
the layers.
-/

namespace CellNet

namespace CellId

open Text Unsigned

variable {a b id : CellId} {stem other : String} {m n index : Nat}

/-! ## Indexed names -/

/-- A name consists of a stem, a colon and a spelling of a number. No spelling holds a colon, so
this is the last one. -/
def HasIndex (id : CellId) (stem : String) (index : Nat) : Prop :=
  ∃ suffix, Spells suffix index ∧ id.name.toList = stem.toList ++ ':' :: suffix

/-- A name ends in a colon and a number. -/
def IsIndexed (id : CellId) : Prop := ∃ stem index, id.HasIndex stem index

theorem splitLast_of_hasIndex {suffix : List Char} (hsuffix : Spells suffix index)
    (hname : id.name.toList = stem.toList ++ ':' :: suffix) :
    splitLast [':'] id.name.toList = some (stem.toList, suffix) := by
  have hcolon : ':' ∉ suffix := hsuffix.notMem (by decide) (by decide)
  have hcut : splitLast (':' :: []) (stem.toList ++ (':' :: []) ++ suffix) =
      some (stem.toList, suffix) := splitLast_append hcolon
  rw [hname]
  simpa using hcut

theorem HasIndex.rank_eq (h : id.HasIndex stem index) : id.rank = ⟨false, stem, index⟩ := by
  obtain ⟨suffix, hsuffix, hname⟩ := h
  simp only [rank, splitLast_of_hasIndex hsuffix hname, read?_eq_some_iff.2 hsuffix,
    String.ofList_toList]

theorem rank_eq_unindexed (h : ¬ id.IsIndexed) : id.rank = .unindexed := by
  rw [rank]
  split
  · rfl
  · next before suffix hcut =>
    split
    · rfl
    · next index hread =>
      have hname := splitLast_eq_append hcut
      have hindex : id.HasIndex (String.ofList before) index :=
        ⟨suffix, read?_eq_some_iff.1 hread, by simpa using hname⟩
      exact absurd ⟨_, _, hindex⟩ h

theorem isIndexed_iff : id.IsIndexed ↔ id.rank.plain = false := by
  constructor
  · rintro ⟨stem, index, h⟩
    rw [h.rank_eq]
  · intro hplain
    by_contra h
    rw [rank_eq_unindexed h] at hplain
    cases hplain

theorem hasIndex_iff : id.HasIndex stem index ↔ id.rank = ⟨false, stem, index⟩ := by
  refine ⟨HasIndex.rank_eq, fun hrank => ?_⟩
  obtain ⟨s, n, h⟩ := isIndexed_iff.2 (congrArg Rank.plain hrank)
  obtain ⟨rfl, rfl⟩ : s = stem ∧ n = index := by simpa using h.rank_eq.symm.trans hrank
  exact h

instance (id : CellId) : Decidable id.IsIndexed := decidable_of_iff _ isIndexed_iff.symm

instance (id : CellId) (stem : String) (index : Nat) : Decidable (id.HasIndex stem index) :=
  decidable_of_iff _ hasIndex_iff.symm

/-! ## Five ways to come first -/

/-- One name precedes another: in each case the names agree up to some layer and differ there. -/
inductive Precedes : CellId → CellId → Prop
  | indexed {a b : CellId} (ha : a.IsIndexed) (hb : ¬ b.IsIndexed) : Precedes a b
  | stem {a b : CellId} {s t : String} {m n : Nat} (ha : a.HasIndex s m) (hb : b.HasIndex t n)
      (h : s < t) : Precedes a b
  | index {a b : CellId} {s : String} {m n : Nat} (ha : a.HasIndex s m) (hb : b.HasIndex s n)
      (h : m < n) : Precedes a b
  | spelling {a b : CellId} {s : String} {n : Nat} (ha : a.HasIndex s n) (hb : b.HasIndex s n)
      (h : a.name < b.name) : Precedes a b
  | text {a b : CellId} (ha : ¬ a.IsIndexed) (hb : ¬ b.IsIndexed) (h : a.name < b.name) :
      Precedes a b

theorem compare_eq (a b : CellId) :
    compare a b = (Rank.order a.rank b.rank).then (compare a.name b.name) := rfl

theorem order_indexed (s t : String) (m n : Nat) :
    Rank.order ⟨false, s, m⟩ ⟨false, t, n⟩ = (compare s t).then (compare m n) := rfl

theorem HasIndex.compare_eq (ha : a.HasIndex stem m) (hb : b.HasIndex other n) :
    compare a b = (compare stem other).then ((compare m n).then (compare a.name b.name)) := by
  rw [CellId.compare_eq, ha.rank_eq, hb.rank_eq, order_indexed, Ordering.then_assoc]

theorem compare_of_indexed (ha : a.IsIndexed) (hb : ¬ b.IsIndexed) : compare a b = .lt := by
  obtain ⟨stem, index, ha⟩ := ha
  rw [compare_eq, ha.rank_eq, rank_eq_unindexed hb]
  rfl

theorem compare_of_not_indexed (ha : ¬ a.IsIndexed) (hb : ¬ b.IsIndexed) :
    compare a b = compare a.name b.name := by
  rw [compare_eq, rank_eq_unindexed ha, rank_eq_unindexed hb]
  rfl

theorem compare_text_eq_lt_iff {s t : String} : compare s t = .lt ↔ s < t :=
  compareOfLessAndEq_eq_lt

/-- Names of one stem with different numbers come in the order of the numbers. -/
theorem HasIndex.compare_eq_compare_index (ha : a.HasIndex stem m) (hb : b.HasIndex stem n)
    (hne : m ≠ n) : compare a b = compare m n := by
  have hdiffer : compare m n ≠ .eq := by simpa using hne
  rw [ha.compare_eq hb, Std.ReflOrd.compare_self, Ordering.eq_then]
  cases hmn : compare m n with
  | lt => rfl
  | eq => exact absurd hmn hdiffer
  | gt => rfl

theorem Precedes.compare_eq_lt (h : a.Precedes b) : compare a b = .lt := by
  cases h with
  | indexed ha hb => exact compare_of_indexed ha hb
  | stem ha hb h => rw [ha.compare_eq hb, compare_text_eq_lt_iff.2 h, Ordering.lt_then]
  | index ha hb h => rw [ha.compare_eq_compare_index hb h.ne, Nat.compare_eq_lt.2 h]
  | spelling ha hb h =>
    rw [ha.compare_eq hb, Std.ReflOrd.compare_self, Std.ReflOrd.compare_self, Ordering.eq_then,
      Ordering.eq_then, compare_text_eq_lt_iff.2 h]
  | text ha hb h => rw [compare_of_not_indexed ha hb, compare_text_eq_lt_iff.2 h]

theorem compare_eq_lt_iff : compare a b = .lt ↔ a.Precedes b := by
  refine ⟨fun hlt => ?_, Precedes.compare_eq_lt⟩
  by_cases ha : a.IsIndexed
  · by_cases hb : b.IsIndexed
    · obtain ⟨s, m, ha⟩ := ha
      obtain ⟨t, n, hb⟩ := hb
      rw [ha.compare_eq hb, Ordering.then_eq_lt, Ordering.then_eq_lt] at hlt
      rcases hlt with hstem | ⟨hstem, hindex | ⟨hindex, htext⟩⟩
      · exact .stem ha hb (compare_text_eq_lt_iff.1 hstem)
      · obtain rfl := Std.LawfulEqOrd.eq_of_compare hstem
        exact .index ha hb (Nat.compare_eq_lt.1 hindex)
      · obtain rfl := Std.LawfulEqOrd.eq_of_compare hstem
        obtain rfl := Std.LawfulEqOrd.eq_of_compare hindex
        exact .spelling ha hb (compare_text_eq_lt_iff.1 htext)
    · exact .indexed ha hb
  · by_cases hb : b.IsIndexed
    · have hgt : compare a b = .gt := Std.OrientedCmp.gt_iff_lt.2 (compare_of_indexed hb ha)
      rw [hlt] at hgt
      contradiction
    · rw [compare_of_not_indexed ha hb] at hlt
      exact .text ha hb (compare_text_eq_lt_iff.1 hlt)

/-! ## Maps keyed by names -/

theorem eq_iff_name_eq : a = b ↔ a.name = b.name := by
  cases a; cases b
  simp

theorem name_injective : Function.Injective name := fun _ _ => eq_iff_name_eq.2

theorem compare_eq_eq_iff : compare a b = .eq ↔ a.name = b.name := by
  rw [Std.LawfulEqOrd.compare_eq_iff_eq, eq_iff_name_eq]

theorem nodup_map_name_keys {β : Type} (map : Std.ExtTreeMap CellId β) :
    (map.keys.map name).Nodup :=
  map.nodup_keys.map name_injective

theorem getElem?_insert_name {β : Type} (map : Std.ExtTreeMap CellId β) (a b : CellId)
    (value : β) :
    (map.insert a value)[b]? = if a.name = b.name then some value else map[b]? := by
  rw [Std.ExtTreeMap.getElem?_insert]
  exact if_congr compare_eq_eq_iff rfl rfl

/-- A map has as many entries as different names have been entered. -/
theorem size_ofList_eq_card {β : Type} (entries : List (CellId × β)) :
    (Std.ExtTreeMap.ofList entries compare).size =
      (entries.map fun entry => entry.1.name).toFinset.card := by
  have hnames : ((Std.ExtTreeMap.ofList entries compare).keys.map name).toFinset =
      (entries.map fun entry => entry.1.name).toFinset := by
    ext text
    simp [Std.ExtTreeMap.mem_ofList]
  rw [← Std.ExtTreeMap.length_keys, ← hnames, List.toFinset_card_of_nodup (nodup_map_name_keys _),
    List.length_map]

/-! ## The order is lawful -/

/-- A comparison of names is a total order on them, with indexed names first and by number. -/
structure OrdersNames (cmp : CellId → CellId → Ordering) : Prop where
  eq_iff : ∀ a b, cmp a b = .eq ↔ a.name = b.name
  swap : ∀ a b, cmp b a = (cmp a b).swap
  trans : ∀ a b c, (cmp a b).isLE → (cmp b c).isLE → (cmp a c).isLE
  lt_trans : ∀ a b c, cmp a b = .lt → cmp b c = .lt → cmp a c = .lt
  lt_iff : ∀ a b, cmp a b = .lt ↔ a.Precedes b
  indexed_first : ∀ a b, a.IsIndexed → ¬ b.IsIndexed → cmp a b = .lt
  by_index : ∀ a b stem m n, a.HasIndex stem m → b.HasIndex stem n → m ≠ n →
    cmp a b = compare m n

/-- Maps keyed by names neither merge two names nor hold one twice. -/
structure MapsKeepApart : Prop where
  nodup : ∀ {β : Type} (map : Std.ExtTreeMap CellId β), (map.keys.map name).Nodup
  insert : ∀ {β : Type} (map : Std.ExtTreeMap CellId β) (a b : CellId) (value : β),
    (map.insert a value)[b]? = if a.name = b.name then some value else map[b]?
  size : ∀ {β : Type} (entries : List (CellId × β)),
    (Std.ExtTreeMap.ofList entries compare).size =
      (entries.map fun entry => entry.1.name).toFinset.card

/-- **The order of names is lawful**, and so are the maps keyed by it. -/
theorem order_lawful : OrdersNames compare ∧ MapsKeepApart where
  left := {
    eq_iff := fun _ _ => compare_eq_eq_iff
    swap := fun _ _ => Std.OrientedOrd.eq_swap
    trans := fun _ _ _ => Std.TransOrd.isLE_trans
    lt_trans := fun _ _ _ => Std.TransCmp.lt_trans
    lt_iff := fun _ _ => compare_eq_lt_iff
    indexed_first := fun _ _ => compare_of_indexed
    by_index := fun _ _ _ _ _ => HasIndex.compare_eq_compare_index }
  right := {
    nodup := nodup_map_name_keys
    insert := getElem?_insert_name
    size := size_ofList_eq_card }

/-- A sign and a zero in front make no difference to the number; one digit too many makes the name a
text. -/
theorem order_lawful_spellings :
    HasIndex ⟨"C:+9"⟩ "C" 9 ∧ HasIndex ⟨"C:010"⟩ "C" 10 ∧
      compare (⟨"C:+9"⟩ : CellId) ⟨"C:010"⟩ = .lt ∧
      ¬ IsIndexed ⟨"C:18446744073709551616"⟩ ∧
      compare (⟨"C:010"⟩ : CellId) ⟨"C:18446744073709551616"⟩ = .lt := by
  have hnine : HasIndex ⟨"C:+9"⟩ "C" 9 := by decide +kernel
  have hten : HasIndex ⟨"C:010"⟩ "C" 10 := by decide +kernel
  have hlarge : ¬ IsIndexed ⟨"C:18446744073709551616"⟩ := by decide +kernel
  have hnumber := order_lawful.1.by_index _ _ _ _ _ hnine hten (by decide)
  exact ⟨hnine, hten, hnumber, hlarge, order_lawful.1.indexed_first _ _ ⟨_, _, hten⟩ hlarge⟩

end CellId

end CellNet
