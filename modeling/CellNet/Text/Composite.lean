import CellNet.Text.Table

/-!
# Composite characters

Some characters are the same as two others in a row: `é` is `e` with an acute accent. The pairs are
those of Unicode 17, for the characters that may stand in names of servers; the syllables of Hangul
are composed by a rule instead, of two or three letters.
-/

namespace CellNet.Text

namespace Composite

/-- The table: `Z` for characters that are not composite, `C` for one with its two parts. -/
def lines : List String := [
  "Z68C2p.lcC2p.ldC2p.leC2p.lfC2p.lkC2p.lmZC2r.mfC2t.lcC2t.ldC2t.leC2t.lkC2x.lcC2x.ldC2x.leC2x.lk",
  "ZC32.lfC33.lcC33.ldC33.leC33.lfC33.lkZ2C39.lcC39.ldC39.leC39.lkC3d.ldZC3d.lkZC2p.lgZC2p.liZ",
  "C2p.mgZC2r.ldZC2r.leZC2r.ljZC2r.loZC2s.loZ3C2t.lgZC2t.liZC2t.ljZC2t.mgZC2t.loZC2v.leZC2v.liZ",
  "C2v.ljZC2v.mfZC2w.leZ3C2x.lfZC2x.lgZC2x.liZC2x.mgZ5C2y.leZC2z.mfZ2C30.ldZC30.mfZC30.loZ5C32.ld",
  "ZC32.mfZC32.loZ4C33.lgZC33.liZC33.lnZ3C36.ldZC36.mfZC36.loZC37.ldZC37.leZC37.mfZC37.loZC38.mfZ",
  "C38.loZ3C39.lfZC39.lgZC39.liZC39.lmZC39.lnZC39.mgZC3b.leZC3d.leZ2C3e.ldZC3e.ljZC3e.loZyC33.m3",
  "ZeC39.m3ZtC2p.loZC2x.loZC33.loZC39.loZC70.lgZC70.ldZC70.loZC70.lcZ2C6c.lgZCfb.lgZC6e.lgZ3",
  "C2v.loZC2z.loZC33.mgZCdn.lgZCia.loC2y.loZ4C2v.ldZ3C32.lcZC6d.ldZC6e.ldZC6w.ldZC2p.lrZC2p.ltZ",
  "C2t.lrZC2t.ltZC2x.lrZC2x.ltZC33.lrZC33.ltZC36.lrZC36.ltZC39.lrZC39.ltZC37.meZC38.meZ3C2w.loZ7",
  "C2p.ljZC2t.mfZC6u.lgZC6t.lgZC33.ljZCfj.lgZC3d.lgZ9oCqy.ldZrCq9.ldCqd.ldCqf.ldCqh.ldCqz.ldZp",
  "Cqh.lkCqt.lkCqn.ldCqt.ldCqx.ldZ2yCu0.liZmCtx.lcCtx.lkZCtv.ldZ3Cuu.lkZ4Cu2.ldCu0.lcCub.liZo",
  "Cvp.lrZ22Cty.liZeCts.liZCts.lkZ3Ctx.liZ3Cyh.lkZCty.lkZCtz.lkZ3Cu0.lgZCu0.lkZCu6.lkZ3Cyx.lkZ",
  "Cul.lkZCub.lgZCub.lkZCub.lnZCuf.lkZ3Cuj.lkZ88C17r.18zC17r.190C18o.190C17r.191C18q.190Z49",
  "C1cl.190ZC1c1.190ZgC1ci.190ZglC1t4.1toZ7C1tc.1toZ2C1tf.1toZ46C1xj.1xaC1xj.1xzZajC287.28mZ2",
  "C287.27yC287.28nZ1zC2aa.2c7Z1hC2bq.2biC2br.2biC2bq.2c7Z3fC2fa.2fqZ3bC2in.2j9Z6C2iu.2j9C2iu.2ja",
  "ZC2iu.2iqC2iy.2j9Z3iC2me.2m6C2mf.2m6C2me.2mvZ3xC2qh.2q2ZC2qh.2q7C2qk.2q2C2qh.2qnZg7C36t.372",
  "Z25bC5c5.5dhZC5c7.5dhZC5c9.5dhZC5cb.5dhZC5cd.5dhZ3C5ch.5dhZ14C5dm.5dhZC5do.5dhZ2C5dq.5dh",
  "C5dr.5dhZC5du.5dhZjhC2p.mdZC2q.ljZC2q.mbZC2q.mpZC6f.ldZC2s.ljZC2s.mbZC2s.mpZC2s.mfZC2s.mlZ",
  "C7n.lcZC7n.ldZC2t.mlZC2t.moZCfd.liZC2u.ljZC2v.lgZC2w.ljZC2w.mbZC2w.lkZC2w.mfZC2w.mmZC2x.moZ",
  "C6n.ldZC2z.ldZC2z.mbZC2z.mpZC30.mbZC5yv.lgZC30.mpZC30.mlZC31.ldZC31.ljZC31.mbZC32.ljZC32.mbZ",
  "C32.mpZC32.mlZC6t.ldZC6t.lkZC99.lcZC99.ldZC34.ldZC34.ljZC36.ljZC36.mbZC5zv.lgZC36.mpZC37.ljZ",
  "C37.mbZC9n.ljZC9t.ljZC603.ljZC38.ljZC38.mbZC38.mpZC38.mlZC39.mcZC39.moZC39.mlZCa1.ldZCa3.lkZ",
  "C3a.lfZC3a.mbZC3b.lcZC3b.ldZC3b.lkZC3b.ljZC3b.mbZC3c.ljZC3c.lkZC3d.ljZC3e.leZC3e.mbZC3e.mp",
  "C2w.mpC38.lkC3b.lmC3d.lmZ7C2p.mbZC2p.llZC6a.ldZC6a.lcZC6a.llZC6a.lfZC61t.leZC77.ldZC77.lcZ",
  "C77.llZC77.lfZC61t.liZC2t.mbZC2t.llZC2t.lfZC6i.ldZC6i.lcZC6i.llZC6i.lfZC62h.leZC2x.llZC2x.mbZ",
  "C33.mbZC33.llZC6s.ldZC6s.lcZC6s.llZC6s.lfZC631.leZCbl.ldZCbl.lcZCbl.llZCbl.lfZCbl.mbZC39.mbZ",
  "C39.llZCc0.ldZCc0.lcZCc0.llZCc0.lfZCc0.mbZC3d.lcZC3d.mbZC3d.llZC3d.lfZ6Cq9.lvCq9.lwC64g.lc",
  "C64h.lcC64g.ldC64h.ldC64g.n6C64h.n6Z8Cqd.lvCqd.lwC64w.lcC64x.lcC64w.ldC64x.ldZaCqf.lvCqf.lw",
  "C65c.lcC65d.lcC65c.ldC65d.ldC65c.n6C65d.n6Z8Cqh.lvCqh.lwC65s.lcC65t.lcC65s.ldC65t.ldC65s.n6",
  "C65t.n6Z8Cqn.lvCqn.lwC668.lcC669.lcC668.ldC669.ldZaCqt.lvCqt.lwC66o.lcC66p.lcC66o.ldC66p.ld",
  "C66o.n6C66p.n6Z8Cqx.lvCqx.lwC674.lcC675.lcC674.ldC675.ldC674.n6C675.n6Z8Cq9.lcZCqd.lcZCqf.lcZ",
  "Cqh.lcZCqn.lcZCqt.lcZCqx.lcZ1fCq9.liCq9.lgZ4Cq9.n6ZfCqf.n6Z9Cqh.liCqh.lgCqy.lcZ3Cqh.n6Cqy.n6Z8",
  "Cqt.liCqt.lgCqz.lcZCqp.lvCqp.lwCqt.n6Cqz.n6ZeCqx.n6ZbnC6mo.mwC6mq.mwZiC6ms.mwZuC6og.mwC6ok.mw",
  "C6oi.mwZ1gC6pv.mwZ4C6q0.mwZ2C6q3.mwZnC6qr.mwZC6qt.mwZqC6rg.mwZ2C6rn.mwZ2C6rp.mwZC6rs.mwZm",
  "C1p.mwZC6sh.mwZaC6rx.mwC1o.mwC1q.mwC6sk.mwC6sl.mwZ2C6sy.mwC6sz.mwZ2C6t2.mwC6t3.mwZ6C6t6.mw",
  "C6t7.mwZ2C6te.mwC6tf.mwZ2C6ti.mwC6tj.mwZyC6ua.mwC6ug.mwC6uh.mwC6uj.mwZ1cC6t8.mwC6t9.mwC6tt.mw",
  "C6tu.mwZ6C6uq.mwC6ur.mwC6us.mwC6ut.mwZ2n2C9jf.9llZC9jh.9llZC9jj.9llZC9jl.9llZC9jn.9llZC9jp.9ll",
  "ZC9jr.9llZC9jt.9llZC9jv.9llZC9jx.9llZC9jz.9llZC9k1.9llZ2C9k4.9llZC9k6.9llZC9k8.9llZ6C9kf.9ll",
  "C9kf.9lmZC9ki.9llC9ki.9lmZC9kl.9llC9kl.9lmZC9ko.9llC9ko.9lmZC9kr.9llC9kr.9lmZmC9ja.9llZ9",
  "C9lp.9llZdC9m3.9llZC9m5.9llZC9m7.9llZC9m9.9llZC9mb.9llZC9md.9llZC9mf.9llZC9mh.9llZC9mj.9llZ",
  "C9ml.9llZC9mn.9llZC9mp.9llZ2C9ms.9llZC9mu.9llZC9mw.9llZ6C9n3.9llC9n3.9lmZC9n6.9llC9n6.9lmZ",
  "C9n9.9llC9n9.9lmZC9nc.9llC9nc.9lmZC9nf.9llC9nf.9lmZmC9ly.9llZ2C9nz.9llC9o0.9llC9o1.9llC9o2.9ll",
  "Z3C9od.9llZ1616C1fpu.ljZqC1fq2.ljZ245C1huh.1hveZC1huj.1hveZeC1hut.1hveZ3mC1hyp.1hyfC1hyq.1hyf",
  "ZezC1idj.1idaC1idj.1idzZ1iC1if6.1ih5ZC1if8.1igrZ8C1iff.1igyZ2C1ifk.1ih5Z1fC1igy.1igyZ",
  "C1igy.1igoC1igy.1ih5Z6qC1int.1inuC1int.1inkZC1int.1inxZ6zC1iuw.1iunC1iux.1iunZosC1jjp.1jjkZe7c",
  "C1xr2.1xr2C1xr2.1xrdC1xr2.1xr3C1xrd.1xr3C1xr2.1xr4C1xr5.1xr3C1xr6.1xr3C1xr5.1xr4Z2f3C206f.206f",
  "C206b.206fC206h.206f"]

/-- How many characters an entry is about, and their parts. -/
def ofEntry (entry : Table.Entry) : Nat × Option (Char × Char) :=
  match entry.mark, entry.numbers with
  | 'C', [first, second] => (1, some (Char.ofNat first, Char.ofNat second))
  | _, numbers => (numbers.headD 1, none)

def table : List (Table.Stretch (Option (Char × Char))) :=
  Table.stretches ofEntry 0 (Table.entries lines)

/-- The composite characters with their parts. -/
def pairs : List (Char × (Char × Char)) :=
  table.filterMap fun stretch => stretch.value.map fun parts => (Char.ofNat stretch.first, parts)

/-! ## Syllables -/

/-- The place of a character behind another one, below a limit. -/
def placeFrom? (first limit : Nat) (c : Char) : Option Nat :=
  if first ≤ c.toNat ∧ c.toNat < first + limit then some (c.toNat - first) else none

/-- The place of a syllable among all of them. -/
def syllable? : Char → Option Nat := placeFrom? 0xac00 11172

/-- The place of a letter that syllables begin with. -/
def lead? : Char → Option Nat := placeFrom? 0x1100 19

def vowel? : Char → Option Nat := placeFrom? 0x1161 21

/-- The place of a letter that syllables end with. -/
def tail? : Char → Option Nat := placeFrom? 0x11a8 27

/-- The parts of a syllable: with a last letter, the syllable without it and that letter. -/
def syllableParts (place : Nat) : Char × Char :=
  if place % 28 = 0 then
    (Char.ofNat (0x1100 + place / 588), Char.ofNat (0x1161 + place / 28 % 21))
  else (Char.ofNat (0xac00 + place - place % 28), Char.ofNat (0x11a7 + place % 28))

/-- The syllable of two parts. -/
def syllableOf? (first second : Char) : Option Char :=
  match lead? first, vowel? second, syllable? first, tail? second with
  | some lead, some vowel, _, _ => some (Char.ofNat (0xac00 + 588 * lead + 28 * vowel))
  | _, _, some place, some tail =>
    if place % 28 = 0 then some (Char.ofNat (0xac00 + place + tail + 1)) else none
  | _, _, _, _ => none

end Composite

/-- The two parts of a composite character. -/
def compositeParts? (c : Char) : Option (Char × Char) :=
  match Composite.syllable? c with
  | some place => some (Composite.syllableParts place)
  | none => (Table.find? Composite.table c).bind (·.value)

def compositeOf? (first second : Char) : Option Char :=
  match Composite.syllableOf? first second with
  | some syllable => some syllable
  | none => (Composite.pairs.find? fun pair => pair.2 = (first, second)).map (·.1)

end CellNet.Text
