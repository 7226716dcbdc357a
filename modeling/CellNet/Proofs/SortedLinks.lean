import CellNet.Proofs.Listing

/-!
# The list of links against the ports

**Theorem (`listsReports`).** The names of the links listed increase as texts, and they are the
names found behind the ports that lead from a placed cell to a placed cell. Where one of two
endpoints on placed cells reports the other, one listed link is behind the port of each side that
reports. Each link listed joins two endpoints on placed cells, one of which reports the other; they
stand in text order, and the link has the name they give it in either order.

The list is gathered cell by cell, in the order of cells, in which `C:2` comes before `C:10`; names
are put together and listed in text order, in which it comes after. The look-up behind a port goes
through neither. What ties the three together is that all of them name the link between the same two
endpoints, and that this name does not depend on the side.
-/

namespace CellNet

namespace Topology

variable {topo : Topology} {a b : Endpoint} {link : Link} {name : LinkId}

/-! ## Reports -/

/-- One endpoint, on a placed cell, reports another as the far side of its port. -/
def Reports (topo : Topology) (a b : Endpoint) : Prop :=
  topo.neighbor? a.cell a.port = some ⟨b.cell, b.port⟩

theorem Reports.contains (h : topo.Reports a b) : topo.contains a.cell := contains_of_neighbor? h

/-- Behind the port of a side that reports is the link between the two. -/
theorem Reports.linkThrough? (h : topo.Reports a b) :
    topo.linkThrough? a.cell a.port = some (.between a b) := by
  rw [linkThrough?_eq, show topo.neighbor? a.cell a.port = _ from h]
  rfl

/-- The link between two endpoints is listed under its name if one of them reports the other. -/
theorem Reports.isDrawn (h : topo.Reports a b) (hb : topo.contains b.cell) :
    topo.IsDrawn (.between a b) :=
  isDrawn_iff.2 ⟨a.cell, a.port, ⟨b.cell, b.port⟩, h, hb, rfl⟩

/-- A link is listed because one of its endpoints reports the other. -/
theorem exists_reports_of_mem_links (h : link ∈ topo.links) :
    ∃ a b, topo.Reports a b ∧ topo.contains b.cell ∧ Link.between a b = link := by
  obtain ⟨id, port, far, hfar, hplaced, hlink⟩ :=
    mem_reportedLinks.1 (mem_reportedLinks_of_mem_links h)
  exact ⟨⟨id, port⟩, ⟨far.cell, far.port⟩, hfar, hplaced, hlink⟩

theorem contains_of_mem_links (h : link ∈ topo.links) :
    topo.contains link.first.cell ∧ topo.contains link.second.cell := by
  obtain ⟨a, b, hreports, hb, rfl⟩ := exists_reports_of_mem_links h
  rcases Link.between_eq_or a b with hlink | hlink <;> rw [hlink]
  · exact ⟨hreports.contains, hb⟩
  · exact ⟨hb, hreports.contains⟩

/-! ## The order of names -/

theorem pairwise_map_text_links (topo : Topology) :
    (topo.links.map fun link => link.id.text).Pairwise (· < ·) := by
  have hnames : (topo.links.map Link.id).Pairwise fun a b => compare a b = .lt := by
    rw [map_id_links]
    exact topo.linkMap.ordered_keys
  have htexts := hnames.map LinkId.text fun a b hab => compareOfLessAndEq_eq_lt.1 hab
  rwa [List.map_map] at htexts

/-! ## What is listed -/

/-- The list of links says what the ports say, in text order. -/
structure ListsReports (topo : Topology) : Prop where
  sorted : (topo.links.map fun link => link.id.text).Pairwise (· < ·)
  names : ∀ name, name ∈ topo.links.map Link.id ↔
    ∃ id port far, topo.neighbor? id port = some far ∧ topo.contains far.cell ∧
      topo.linkThrough? id port = some name
  sides : ∀ a b, topo.contains a.cell → topo.contains b.cell →
    topo.Reports a b ∨ topo.Reports b a →
      ∃! link, link ∈ topo.links ∧
        (topo.Reports a b → topo.linkThrough? a.cell a.port = some link.id) ∧
        (topo.Reports b a → topo.linkThrough? b.cell b.port = some link.id)
  placed : ∀ link ∈ topo.links, topo.contains link.first.cell ∧ topo.contains link.second.cell
  named : ∀ link ∈ topo.links,
    link.id = .between link.first link.second ∧ link.id = .between link.second link.first
  ordered : ∀ link ∈ topo.links, link.first.cell.name < link.second.cell.name ∨
    link.first.cell.name = link.second.cell.name ∧
      link.first.port.number ≤ link.second.port.number
  reported : ∀ link ∈ topo.links,
    topo.Reports link.first link.second ∨ topo.Reports link.second link.first

theorem mem_map_id_links_iff_linkThrough? : name ∈ topo.links.map Link.id ↔
    ∃ id port far, topo.neighbor? id port = some far ∧ topo.contains far.cell ∧
      topo.linkThrough? id port = some name := by
  rw [List.mem_map]
  show topo.IsDrawn name ↔ _
  rw [isDrawn_iff]
  refine exists_congr fun id => exists_congr fun port => exists_congr fun far => ?_
  refine and_congr_right fun hfar => and_congr_right fun _ => ?_
  have hreports : topo.Reports ⟨id, port⟩ ⟨far.cell, far.port⟩ := hfar
  rw [hreports.linkThrough?, Option.some.injEq]
  rfl

/-- Both sides of a connection lead to one listed link. -/
theorem existsUnique_link_of_reports (ha : topo.contains a.cell) (hb : topo.contains b.cell)
    (h : topo.Reports a b ∨ topo.Reports b a) :
    ∃! link, link ∈ topo.links ∧
      (topo.Reports a b → topo.linkThrough? a.cell a.port = some link.id) ∧
      (topo.Reports b a → topo.linkThrough? b.cell b.port = some link.id) := by
  have hdrawn : topo.IsDrawn (.between a b) := by
    rcases h with h | h
    · exact h.isDrawn hb
    · exact LinkId.between_comm b a ▸ h.isDrawn ha
  obtain ⟨link, hlink, hid⟩ := hdrawn
  refine ⟨link, ⟨hlink, fun h => ?_, fun h => ?_⟩, ?_⟩
  · rw [hid, h.linkThrough?]
  · rw [hid, h.linkThrough?, LinkId.between_comm]
  · rintro other ⟨hother, hleft, hright⟩
    refine eq_of_mem_links_of_id_eq hother hlink (Option.some.inj ?_)
    rcases h with h | h
    · rw [← hleft h, hid, h.linkThrough?]
    · rw [← hright h, hid, h.linkThrough?, LinkId.between_comm]

/-- **The list of links** is sorted by name and agrees with the look-up behind every port. -/
theorem listsReports (topo : Topology) : topo.ListsReports where
  sorted := topo.pairwise_map_text_links
  names _ := mem_map_id_links_iff_linkThrough?
  sides _ _ := existsUnique_link_of_reports
  placed _ := contains_of_mem_links
  named link hlink := by
    have hjoined : Link.between link.first link.second = link :=
      ofEnds_ends_of_mem_reportedLinks (mem_reportedLinks_of_mem_links hlink)
    have hid : link.id = .between link.first link.second := by rw [LinkId.between, hjoined]
    exact ⟨hid, hid.trans (LinkId.between_comm ..)⟩
  ordered link hlink := by
    obtain ⟨a, b, -, -, rfl⟩ := exists_reports_of_mem_links hlink
    exact Endpoint.isLE_order_iff.1 (Link.isLE_order_between a b)
  reported link hlink := by
    obtain ⟨a, b, hreports, -, rfl⟩ := exists_reports_of_mem_links hlink
    rcases Link.between_eq_or a b with h | h <;> rw [h]
    · exact Or.inl hreports
    · exact Or.inr hreports

/-- Two cells connected on both sides, with a loop on one of them, a port that leads to a cell that
is not placed, and one that contradicts the other side. -/
def tangledPair : Topology :=
  empty
    |>.place (.wired ⟨"C:2"⟩
      [(⟨0⟩, ⟨⟨"C:10"⟩, ⟨1⟩⟩), (⟨3⟩, ⟨⟨"C:2"⟩, ⟨2⟩⟩), (⟨4⟩, ⟨⟨"C:9"⟩, ⟨0⟩⟩)])
    |>.place (.wired ⟨"C:10"⟩ [(⟨1⟩, ⟨⟨"C:2"⟩, ⟨0⟩⟩), (⟨5⟩, ⟨⟨"C:2"⟩, ⟨0⟩⟩)])

example : tangledPair.cells.keys = [⟨"C:2"⟩, ⟨"C:10"⟩] ∧ tangledPair.links.map Link.id =
    [⟨"C:10:P1-C:2:P0"⟩, ⟨"C:10:P5-C:2:P0"⟩, ⟨"C:2:P2-C:2:P3"⟩] := by
  decide +kernel

end Topology

end CellNet
