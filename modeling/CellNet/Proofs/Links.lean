import CellNet.Proofs.Membership

/-!
# The links of a topology

A link is drawn when some placed cell reports it on a port and the cell behind that port is placed
(`isDrawn_iff`). The list of links is gathered from all such reports, and of those under one name
the first is kept (`getElem?_linkMap`), so every name reported is the name of a link listed.
-/

namespace CellNet

theorem values_eq_map_snd {α : Type u} {β : Type v} {cmp : α → α → Ordering} [Std.TransCmp cmp]
    (m : Std.ExtTreeMap α β cmp) : m.values = m.toList.map Prod.snd := by
  obtain ⟨m⟩ := m
  induction m using Std.ExtDTreeMap.inductionOn with
  | mk m =>
    show m.inner.values = (Std.DTreeMap.Internal.Impl.Const.toList m.inner).map Prod.snd
    rw [Std.DTreeMap.Internal.Impl.values_eq_map_snd,
      Std.DTreeMap.Internal.Impl.Const.toList_eq_toListModel_map, List.map_map]
    rfl

namespace Topology

variable {topo : Topology} {id : CellId} {port : Port} {far : Neighbor} {name : LinkId}
  {link : Link}

/-! ## Reports -/

theorem contains_iff : topo.contains id ↔ id ∈ topo.cells :=
  Std.ExtTreeMap.contains_iff_mem

theorem neighbor?_eq_some_iff : topo.neighbor? id port = some far ↔
    ∃ cell, topo.cells[id]? = some cell ∧ cell.neighbors[port]? = some far := by
  rw [neighbor?, Option.bind_eq_some_iff]
  rfl

theorem contains_of_neighbor? (h : topo.neighbor? id port = some far) : topo.contains id := by
  obtain ⟨cell, hcell, -⟩ := neighbor?_eq_some_iff.1 h
  rw [contains_iff, Std.ExtTreeMap.mem_iff_isSome_getElem?, hcell]
  rfl

/-- A link is reported when the far side of a port is a port of a placed cell. -/
theorem mem_reportedLinks : link ∈ topo.reportedLinks ↔
    ∃ id port far, topo.neighbor? id port = some far ∧ topo.contains far.cell ∧
      linkAt id port far = link := by
  simp only [reportedLinks, List.mem_flatMap, List.mem_filterMap, Prod.exists,
    Std.ExtTreeMap.mem_toList_iff_getElem?_eq_some, Option.ite_none_right_eq_some,
    Option.some.injEq, neighbor?_eq_some_iff]
  constructor
  · rintro ⟨id, cell, hcell, port, far, hfar, hplaced, hlink⟩
    exact ⟨id, port, far, ⟨cell, hcell, hfar⟩, hplaced, hlink⟩
  · rintro ⟨id, port, far, ⟨cell, hcell, hfar⟩, hplaced, hlink⟩
    exact ⟨id, cell, hcell, port, far, hfar, hplaced, hlink⟩

/-! ## One link for each name -/

/-- Where links are entered one after the other, what a name stands for is what it stood for
before, or else the first of the links that bears it. -/
theorem getElem?_foldl_insertIfNew (reports : List Link) (links : Std.ExtTreeMap LinkId Link) :
    (reports.foldl (fun links link => links.insertIfNew link.id link) links)[name]? =
      links[name]?.or (reports.find? (·.id = name)) := by
  induction reports generalizing links with
  | nil => simp
  | cons report reports ih =>
    rw [List.foldl_cons, ih, Std.ExtTreeMap.getElem?_insertIfNew, List.find?_cons]
    by_cases hname : report.id = name
    · subst hname
      cases hlink : links[report.id]? with
      | none => simp [Std.ExtTreeMap.mem_iff_isSome_getElem?, hlink]
      | some link => simp [Std.ExtTreeMap.mem_iff_isSome_getElem?, hlink]
    · simp [hname]

theorem getElem?_linkMap : topo.linkMap[name]? = topo.reportedLinks.find? (·.id = name) := by
  rw [linkMap, getElem?_foldl_insertIfNew]
  simp

/-- A link is listed when it is the one kept under its name. -/
theorem mem_links : link ∈ topo.links ↔ topo.linkMap[link.id]? = some link := by
  simp only [links, values_eq_map_snd, List.mem_map, Prod.exists,
    Std.ExtTreeMap.mem_toList_iff_getElem?_eq_some]
  constructor
  · rintro ⟨name, link, hkept, rfl⟩
    have hid : link.id = name := by
      simpa using List.find?_some (getElem?_linkMap.symm.trans hkept)
    rwa [hid]
  · exact fun hkept => ⟨link.id, link, hkept, rfl⟩

/-- A name is drawn when a link that bears it is listed. -/
def IsDrawn (topo : Topology) (name : LinkId) : Prop :=
  ∃ link ∈ topo.links, link.id = name

instance (topo : Topology) (name : LinkId) : Decidable (topo.IsDrawn name) :=
  inferInstanceAs (Decidable (∃ link ∈ topo.links, link.id = name))

/-- Keeping one link for each name loses no name. -/
theorem isDrawn_iff_reported :
    topo.IsDrawn name ↔ ∃ link ∈ topo.reportedLinks, link.id = name := by
  constructor
  · rintro ⟨link, hlink, rfl⟩
    rw [mem_links, getElem?_linkMap] at hlink
    exact ⟨link, List.mem_of_find?_eq_some hlink, rfl⟩
  · rintro ⟨report, hreport, rfl⟩
    have hsome : (topo.reportedLinks.find? (·.id = report.id)).isSome :=
      List.find?_isSome.2 ⟨report, hreport, by simp⟩
    obtain ⟨link, hlink⟩ := Option.isSome_iff_exists.1 hsome
    have hid : link.id = report.id := by simpa using List.find?_some hlink
    exact ⟨link, mem_links.2 (by rw [getElem?_linkMap, hid, hlink]), hid⟩

/-- The names drawn are those of the connections between placed cells. -/
theorem isDrawn_iff : topo.IsDrawn name ↔
    ∃ id port far, topo.neighbor? id port = some far ∧ topo.contains far.cell ∧
      (linkAt id port far).id = name := by
  rw [isDrawn_iff_reported]
  constructor
  · rintro ⟨link, hlink, rfl⟩
    obtain ⟨id, port, far, hfar, hplaced, rfl⟩ := mem_reportedLinks.1 hlink
    exact ⟨id, port, far, hfar, hplaced, rfl⟩
  · rintro ⟨id, port, far, hfar, hplaced, rfl⟩
    exact ⟨_, mem_reportedLinks.2 ⟨id, port, far, hfar, hplaced, rfl⟩, rfl⟩

end Topology

end CellNet
