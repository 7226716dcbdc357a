import CellNet.Proofs.Links
import CellNet.Proofs.LinkNames
import Mathlib.Data.Sym.Sym2

/-!
# Is every connection listed once?

**Theorem (`listsConnections_iff`).** A connection is an unordered pair of endpoints, one of which
reports the other, both on placed cells. The list of links holds connections only, it holds one for
each name a connection has, and so it is as long as connections have different names. It holds each
connection, once and under a name of its own, exactly when no two connections overlap
(`Link.Overlaps`), which they do not if the cells have plain names.

Links are merged by name. Two that share one are the same or overlap (`Link.id_eq_id_iff`), and of
two that overlap only one is listed.

**Counterexample (`sharedName_not_listsConnections`).** The connection from `A` to `B:P0-C` and the
one from `A:P0-B` to `C` have one name between them.
-/

namespace CellNet

/-! ## Unordered pairs of endpoints -/

namespace Link

/-- The two endpoints a link joins, in no order. -/
def ends (link : Link) : Sym2 Endpoint := s(link.first, link.second)

/-- The link that joins two endpoints. -/
def ofEnds : Sym2 Endpoint → Link := Sym2.lift ⟨between, between_comm⟩

@[simp] theorem ofEnds_mk (a b : Endpoint) : ofEnds s(a, b) = between a b := rfl

@[simp] theorem ends_between (a b : Endpoint) : (between a b).ends = s(a, b) := by
  rw [between, ends]
  split_ifs
  · rfl
  · exact Sym2.eq_swap

@[simp] theorem ends_ofEnds (pair : Sym2 Endpoint) : (ofEnds pair).ends = pair := by
  induction pair using Sym2.inductionOn with
  | hf a b => rw [ofEnds_mk, ends_between]

theorem ofEnds_injective : Function.Injective ofEnds :=
  Function.LeftInverse.injective ends_ofEnds

end Link

/-- A cell with its connections and no trees; small topologies are built from such cells. -/
def Cell.wired (id : CellId) (neighbors : List (Port × Neighbor)) : Cell :=
  { id, row := 0, col := 0, isBorder := false
    neighbors := Std.ExtTreeMap.ofList neighbors compare }

namespace Topology

variable {topo : Topology} {pair : Sym2 Endpoint} {link : Link}

/-- Two endpoints are connected when one of them, on a placed cell, reports the other, and the cell
of the other is placed. -/
def Connects (topo : Topology) (pair : Sym2 Endpoint) : Prop :=
  ∃ id port far, topo.neighbor? id port = some far ∧ topo.contains far.cell ∧
    s(⟨id, port⟩, ⟨far.cell, far.port⟩) = pair

/-- The name of the link that joins two endpoints. -/
def nameOf (pair : Sym2 Endpoint) : LinkId := (Link.ofEnds pair).id

theorem connects_iff : topo.Connects pair ↔ Link.ofEnds pair ∈ topo.reportedLinks := by
  rw [mem_reportedLinks]
  constructor
  · rintro ⟨id, port, far, hfar, hplaced, rfl⟩
    exact ⟨id, port, far, hfar, hplaced, rfl⟩
  · rintro ⟨id, port, far, hfar, hplaced, hlink⟩
    refine ⟨id, port, far, hfar, hplaced, ?_⟩
    rw [← Link.ends_ofEnds pair, ← hlink, linkAt, Link.ends_between]

/-- A reported link is the one that joins its two endpoints. -/
theorem ofEnds_ends_of_mem_reportedLinks (h : link ∈ topo.reportedLinks) :
    Link.ofEnds link.ends = link := by
  obtain ⟨id, port, far, -, -, rfl⟩ := mem_reportedLinks.1 h
  rw [linkAt, Link.ends_between, Link.ofEnds_mk]

/-! ## The list -/

theorem mem_reportedLinks_of_mem_links (h : link ∈ topo.links) : link ∈ topo.reportedLinks := by
  rw [mem_links, getElem?_linkMap] at h
  exact List.mem_of_find?_eq_some h

theorem connects_of_mem_links (h : link ∈ topo.links) : topo.Connects link.ends := by
  have hreported := mem_reportedLinks_of_mem_links h
  rwa [connects_iff, ofEnds_ends_of_mem_reportedLinks hreported]

theorem nameOf_ends_of_mem_links (h : link ∈ topo.links) : nameOf link.ends = link.id := by
  rw [nameOf, ofEnds_ends_of_mem_reportedLinks (mem_reportedLinks_of_mem_links h)]

theorem eq_of_mem_links_of_id_eq {other : Link} (h : link ∈ topo.links) (h' : other ∈ topo.links)
    (hid : link.id = other.id) : link = other := by
  rw [mem_links] at h h'
  rw [hid, h'] at h
  exact (Option.some.inj h).symm

theorem map_id_links (topo : Topology) : topo.links.map Link.id = topo.linkMap.keys := by
  rw [links, values_eq_map_snd, List.map_map, ← Std.ExtTreeMap.map_fst_toList_eq_keys]
  refine List.map_congr_left fun entry hmem => ?_
  obtain ⟨name, link⟩ := entry
  rw [Std.ExtTreeMap.mem_toList_iff_getElem?_eq_some, getElem?_linkMap] at hmem
  simpa using List.find?_some hmem

theorem nodup_map_id_links (topo : Topology) : (topo.links.map Link.id).Nodup := by
  rw [map_id_links]
  exact topo.linkMap.nodup_keys

theorem mem_map_id_links_iff {name : LinkId} :
    name ∈ topo.links.map Link.id ↔ ∃ pair, topo.Connects pair ∧ nameOf pair = name := by
  rw [List.mem_map]
  show topo.IsDrawn name ↔ _
  rw [isDrawn_iff_reported]
  constructor
  · rintro ⟨link, hlink, rfl⟩
    have hjoined := ofEnds_ends_of_mem_reportedLinks hlink
    exact ⟨link.ends, connects_iff.2 (hjoined.symm ▸ hlink), congrArg Link.id hjoined⟩
  · rintro ⟨pair, hpair, rfl⟩
    exact ⟨_, connects_iff.1 hpair, rfl⟩

/-- There is a link for each name a connection has. -/
theorem length_links (topo : Topology) :
    (topo.links.length : ℕ∞) = (nameOf '' {pair | topo.Connects pair}).encard := by
  have hnames : {name | name ∈ topo.links.map Link.id} = nameOf '' {pair | topo.Connects pair} :=
    Set.ext fun _ => mem_map_id_links_iff
  rw [← hnames, encard_setOf_mem topo.nodup_map_id_links, List.length_map]

/-! ## What is listed -/

/-- The list holds connections only, and one of each name. -/
structure ListsNames (topo : Topology) : Prop where
  connected : ∀ link ∈ topo.links, topo.Connects link.ends
  names : (topo.links.map Link.id).Nodup
  listed : ∀ pair, topo.Connects pair → ∃! link, link ∈ topo.links ∧ link.id = nameOf pair
  count : (topo.links.length : ℕ∞) = (nameOf '' {pair | topo.Connects pair}).encard

/-- The list holds each connection once, under a name of its own, and nothing else. -/
structure ListsConnections (topo : Topology) : Prop where
  connected : ∀ link ∈ topo.links, topo.Connects link.ends
  listed : ∀ pair, topo.Connects pair → ∃! link, link ∈ topo.links ∧ link.ends = pair
  names : (topo.links.map Link.id).Nodup
  apart : ∀ a b, topo.Connects a → topo.Connects b → nameOf a = nameOf b → a = b
  count : (topo.links.length : ℕ∞) = {pair | topo.Connects pair}.encard

theorem listsNames (topo : Topology) : topo.ListsNames where
  connected _ := connects_of_mem_links
  names := topo.nodup_map_id_links
  listed pair hpair := by
    obtain ⟨link, hlink, hname⟩ := List.mem_map.1 (mem_map_id_links_iff.2 ⟨pair, hpair, rfl⟩)
    exact ⟨link, ⟨hlink, hname⟩, fun other ⟨hother, hid⟩ =>
      eq_of_mem_links_of_id_eq hother hlink (hid.trans hname.symm)⟩
  count := topo.length_links

/-- Where connections have names of their own, the list holds each of them. -/
theorem listsConnections_of_injOn (h : Set.InjOn nameOf {pair | topo.Connects pair}) :
    topo.ListsConnections where
  connected _ := connects_of_mem_links
  listed pair hpair := by
    obtain ⟨link, ⟨hlink, hname⟩, hunique⟩ := topo.listsNames.listed pair hpair
    refine ⟨link, ⟨hlink, ?_⟩, fun other ⟨hother, hends⟩ => hunique other ⟨hother, ?_⟩⟩
    · exact h (connects_of_mem_links hlink) hpair ((nameOf_ends_of_mem_links hlink).trans hname)
    · rw [← hends, nameOf_ends_of_mem_links hother]
  names := topo.nodup_map_id_links
  apart _ _ ha hb := h ha hb
  count := by rw [length_links, h.encard_image]

/-- Connections have names of their own when no two of them overlap. -/
theorem injOn_nameOf_iff : Set.InjOn nameOf {pair | topo.Connects pair} ↔
    ∀ a b, topo.Connects a → topo.Connects b → ¬ (Link.ofEnds a).Overlaps (Link.ofEnds b) := by
  constructor
  · intro h a b ha hb hover
    have hab : a = b := h ha hb hover.id_eq
    subst hab
    exact Link.not_overlaps_self _ hover
  · intro h a ha b hb hname
    rcases Link.id_eq_id_iff.1 hname with heq | hover | hover
    · exact Link.ofEnds_injective heq
    · exact absurd hover (h a b ha hb)
    · exact absurd hover (h b a hb ha)

theorem contains_first_of_connects (h : topo.Connects pair) :
    topo.contains (Link.ofEnds pair).first.cell := by
  obtain ⟨id, port, far, hfar, hplaced, rfl⟩ := h
  rw [Link.ofEnds_mk]
  rcases Link.between_eq_or ⟨id, port⟩ ⟨far.cell, far.port⟩ with hlink | hlink <;> rw [hlink]
  · exact contains_of_neighbor? hfar
  · exact hplaced

/-- **What the list of links holds**: one connection of each name in any case, and all connections
exactly when no two of them overlap. -/
theorem listsConnections_iff (topo : Topology) :
    topo.ListsNames ∧
    (topo.ListsConnections ↔ ∀ a b, topo.Connects a → topo.Connects b →
      ¬ (Link.ofEnds a).Overlaps (Link.ofEnds b)) ∧
    ((∀ id ∈ topo.cells, id.IsPlain) → topo.ListsConnections) := by
  have hiff : topo.ListsConnections ↔ ∀ a b, topo.Connects a → topo.Connects b →
      ¬ (Link.ofEnds a).Overlaps (Link.ofEnds b) := by
    rw [← injOn_nameOf_iff]
    exact ⟨fun h a ha b hb => h.apart a b ha hb, listsConnections_of_injOn⟩
  refine ⟨topo.listsNames, hiff, fun hplain => hiff.2 fun a b _ hb => ?_⟩
  exact Link.not_overlaps_of_isPlain (hplain _ (contains_iff.1 (contains_first_of_connects hb)))

/-- A cell whose name has a colon and one whose name has a dash, connected twice; only one of them
reports the second connection. -/
def crossing : Topology :=
  empty
    |>.place (.wired ⟨"core:P0"⟩ [(⟨0⟩, ⟨⟨"edge-1"⟩, ⟨1⟩⟩), (⟨2⟩, ⟨⟨"edge-1"⟩, ⟨2⟩⟩)])
    |>.place (.wired ⟨"edge-1"⟩ [(⟨1⟩, ⟨⟨"core:P0"⟩, ⟨0⟩⟩)])

/-- Both names are plain, and both connections are listed. -/
theorem crossing_listsConnections :
    (∀ id ∈ crossing.cells, id.IsPlain) ∧ crossing.ListsConnections ∧
      crossing.links.length = 2 := by
  have hnames : ∀ id ∈ crossing.cells.keys, ':' ∉ id.name.toList ∨ '-' ∉ id.name.toList := by
    decide +kernel
  have hplain : ∀ id ∈ crossing.cells, id.IsPlain := fun id hid =>
    CellId.isPlain_of_notMem (hnames id (Std.ExtTreeMap.mem_keys.2 hid))
  exact ⟨hplain, (listsConnections_iff crossing).2.2 hplain, by decide +kernel⟩

/-- Four cells in two connected pairs. -/
def sharedName : Topology :=
  empty
    |>.place (.wired ⟨"A"⟩ [(⟨0⟩, ⟨⟨"B:P0-C"⟩, ⟨1⟩⟩)])
    |>.place (.wired ⟨"B:P0-C"⟩ [])
    |>.place (.wired ⟨"A:P0-B"⟩ [(⟨0⟩, ⟨⟨"C"⟩, ⟨1⟩⟩)])
    |>.place (.wired ⟨"C"⟩ [])

/-- Both connections are called `A:P0-B:P0-C:P1`. -/
theorem sharedName_not_listsConnections : ¬ sharedName.ListsConnections := by
  intro h
  let a : Sym2 Endpoint := s(⟨⟨"A"⟩, ⟨0⟩⟩, ⟨⟨"B:P0-C"⟩, ⟨1⟩⟩)
  let b : Sym2 Endpoint := s(⟨⟨"A:P0-B"⟩, ⟨0⟩⟩, ⟨⟨"C"⟩, ⟨1⟩⟩)
  have ha : sharedName.Connects a :=
    ⟨⟨"A"⟩, ⟨0⟩, ⟨⟨"B:P0-C"⟩, ⟨1⟩⟩, by decide +kernel, by decide +kernel, rfl⟩
  have hb : sharedName.Connects b :=
    ⟨⟨"A:P0-B"⟩, ⟨0⟩, ⟨⟨"C"⟩, ⟨1⟩⟩, by decide +kernel, by decide +kernel, rfl⟩
  have hab : a = b := h.apart a b ha hb (by decide +kernel)
  exact absurd hab (by decide +kernel)

end Topology

end CellNet
