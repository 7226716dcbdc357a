import CellNet.Text.Table

/-!
# What stands for a character in a name

Names of servers are compared regardless of case and of similar differences: before anything else,
every character is replaced by those that stand for it. Some characters are left out, and some may
not stand in a name at all. The table is the one of Unicode 17.
-/

namespace CellNet.DomainName

/-- What becomes of the characters of a stretch. -/
inductive Mapping where
  | kept
  | refused
  | dropped
  /-- Every other character, the first one too, is replaced by its neighbour. -/
  | paired
  /-- The characters are replaced by as many others, from a number on. -/
  | moved (first : Nat)
  | replaced (codes : List Nat)
deriving DecidableEq, Repr

namespace Mapping

/-- The table: `V` for what is kept, `X` for what is refused, `I` for what is dropped, `P` for
pairs, `S` for neighbours and where they are moved to, `M` for a character and what replaces it. -/
def lines : List String := [
  "V1tSq.2pV11XwMwV7Mw.lkVM2pV2IVMw.lgV2S2.1eMw.ldMqkV2Mw.mfM1dM33VM1d.6dg.1gM1d.6dg.1eM1f.6dg.1g",
  "VSn.68VS7.6wVxP1cM2x.ljVM2x.2yM2x.2yP4VP6M30.53M30.53P8Mjg.32P1aM73P6M37VMgjP4MgkMawVS2.gmMb0",
  "V2Md9MgpMgrMb6VMgwMgzVMh5Mh4MbdV3MhbMheVMhhP6MhsMbsVMhvV2MbxVMi0Mc0VS2.i2P4MiaMc9V3McdV7M2s.am",
  "M2s.amM2s.amM30.2yM30.2yM30.2yM32.2yM32.2yM32.2yPgVPiVM2s.3eM2s.3eM2s.3eMdxVMb9McfP14MbiVPiV6",
  "M8rpMfwVMbeM8rqV2Mg2VMaoMi1Mi4PaV2oM2wMh2M2yM36MhlMhnMhtM3bM3dVvMw.liMw.ljMw.lmMw.mgMw.lfMw.ln",
  "V2MgzM30M37M3cMidV2jS2.lcVMlvMlk.ldMqhV9IVwP4MjdVMonVX2Mw.qhV3M1nMs3X4Mw.ldMw.lk.ldMq4M53S3.q5",
  "XMr0XS2.r1VSh.q9XS9.qrVzMrbMqaMqgMqtMr1MqzMquMqoVPoMqiMqpMqrVMqgMqdVMs8VMqrMsbV2S3.orSg.uo",
  "Sw.tsV1cPyV8P1iMy7PeVP2oXS12.129X2V1aM12d.136V3X2V3XV1jX8VrX4V6XhVmXV2gM17r.19wM18o.19w",
  "M1c7.19wM18q.19wV2sXV1cX2V1nX2V2tXeV1nX2V1dX2VfXVsX2VXVbX5VwX7V23XV39M1sl.1toM1sm.1toM1sn.1to",
  "M1ss.1toM1sx.1toM1sy.1toM1t7.1toM1tb.1toV10XV8X2V2X2VmXV7XVX3V4X2V9X2V2X2V4X8VX4M1wh.1x8",
  "M1wi.1x8XM1wv.1x8V4X2VpX2V3XV6X4V2X2VmXV7XVM20i.20sXVM20o.20sXV2X2VXV5X4V2X2V3X3VX7M1zq.20s",
  "M1zr.20sM1zw.20sVXM20b.20sX7VhXaV3XV9XV3XVmXV7XV2XV5X2VaXV3XV3X2VXfV4X2VcX7V7XV3XV8X2V2X2VmXV7",
  "XV2XV5X2V9X2V2X2V3X7V3X4M275.27wM276.27wXV5X2ViXaV2XV6X3V3XV4X3V2XVXV2X3V2X3V3X3VcX4V5X3V3XV4",
  "X2VX6VXeVlX5VdXV3XVnXVgX2V9XV3XV4X7V2XV3XV2X2V4X2VaX7VmXV3XVnXVaXV5X2V9XV3XV4X7V2X5V3XV4X2VaX",
  "V3XcVdXV3XV1fXV3XV6X4VgX2VqXV3XViX3VoXV9XVX2V7X3VX4V6XVXV8X6VaX2V3XcV1eM2tp.2syV7X4VtX11V2XVX",
  "V5XVoXVXVcM2x9.2wiVaX2V5XVXV7XVaX2M2wb.2vtM2wb.2w1V2XwVcM2yzV1iM30i.33rV4XV4M30s.33rV4M30x.33r",
  "V4M312.33rV4M317.33rVcM30g.33pV3X4V2M31t.31uVM31t.31wM33m.328M33m.31t.328M33n.328M33n.31t.328",
  "V7M31t.328VhM32q.33rV4XV4M330.33rV4M335.33rV4M33a.33rV4M33f.33rVcM32o.33pV3XVfXVdX11V4gS12.8w0",
  "XM8x3X5M8x9X2V18M3bwV2qI2V6gXV4X2V7XVXV4X2V15XV4X2VxXV4X2V7XVXV4X2VfXV1lXV4X2V1vX2VwX3VqX6V2e",
  "X2S6.3xsX2VhsXVsX3V2hX7VmX9VoX9VkXcVdXV3XV2XcV1gI2V14X2VaX6VaX6VbI5VaX6V2hX7V17X5V1yXaVvXVcX4",
  "VcX4VX3V16X2V5XbV18X4VqX6VbX3V1qX2V1tXVtX2VbX6VaX6VeX2V1aX2VcXkV25XV4mX8V1oX3VfX3V1fMtuMtwMu6",
  "S2.u9MuaMuiMv7MwujM5myVX5S17.3bkX2S3.3ctV8X8V17X5V18M2pM6eM2qVS2.2sMd9S8.2vVM33Mf7M34M36S2.38",
  "M3bM2pS2.ggM5qaM2qS2.2sMgpS2.grM2vVM2zM31M97M33MgkS2.5quM34S2.38M5r1MhbM3aM5r9S3.qaS2.quM2xM36",
  "S2.39S2.qaMqpS2.quVdMu5VyMgiM2rMglM6oMgsM2uMgvMgxMh1S3.h4M5tnMilMh9M5txMinMhdMhcS4.heMhkS2.hu",
  "MbvS2.i1M5r0S2.i3M3eS3.i8MqgV1sP46V4M2p.jiM601V2M67VP2oV8S8.64gV6X2S6.64wX2V8S8.65cV8S8.65sV6",
  "X2S6.668X2V8XM66pXM66rXM66tXM66vV8S8.674VMq4VMq5VMq6VMq7VMr0VMr1VMr2X2M64g.qhM64h.qhM64i.qh",
  "M64j.qhM64k.qhM64l.qhM64m.qhM64n.qhM64g.qhM64h.qhM64i.qhM64j.qhM64k.qhM64l.qhM64m.qhM64n.qh",
  "M65c.qhM65d.qhM65e.qhM65f.qhM65g.qhM65h.qhM65i.qhM65j.qhM65c.qhM65d.qhM65e.qhM65f.qhM65g.qh",
  "M65h.qhM65i.qhM65j.qhM674.qhM675.qhM676.qhM677.qhM678.qhM679.qhM67a.qhM67b.qhM674.qhM675.qh",
  "M676.qhM677.qhM678.qhM679.qhM67a.qhM67b.qhV2M67k.qhMq9.qhMq4.qhXVM69i.qhS2.69cM67kMq4Mq9.qh",
  "Mw.lvMqhMw.lvMw.n6Mw.lk.n6M67o.qhMqf.qhMq6.qhXVM69y.qhM67mMq5M67oMq6Mqf.qhMw.lv.lcMw.lv.ld",
  "Mw.lv.n6V3MpcX2V2S2.6a8M67qMq7XMw.lw.lcMw.lw.ldMw.lw.n6V3Mq8V4S2.6aoM67uMr1M6atMw.lk.lc",
  "Mw.lk.ldM2oX2M67w.qhMqx.qhMr2.qhXVM6ba.qhM67sMr0M67wMr2Mqx.qhMw.ldMw.lwXMwMwMwMwMwMwMwMwMwMwMw",
  "IV2X2VM6c0V5Mw.mrVcX3VX7MwV3M6cy.6cyM6cy.6cy.6cyVM6d1.6d1M6d1.6d1.6d1V4Mx.xVMw.lhV8M1r.1rM1r.x",
  "Mx.1rVdM6cy.6cy.6cy.6cyV7MwI5X5I6M1cM2xX2S6.1gM17M6qaM1pS2.14M32Sa.1cM17M6qaM1pS2.14XM2pM2tM33",
  "M3cMgpM2wS4.2zM34S2.37X3V8M36.37VpXeVxXfM2p.1b.2rM2p.1b.37M2rM4w.2rVM2r.1b.33M2r.1b.39MgrV",
  "M4w.2uS2.2vM2wM2wM2wM87M2xM2xM30M30VM32M32.33V2S3.34M36M36V2M37.31M38.2t.30M38.31VM3eVMqxVM3eV",
  "M2zM6dS2.2qVM2tS2.2tM6kuM31M33S4.15cM2xVM2u.2p.3cMqoMqbMqbMqoM6q9V4M2sS2.2sS2.2xV6M1d.6dg.1j",
  "M1d.6dg.1lM1d.6dg.1d.1cM1d.6dg.1fM1e.6dg.1fM1d.6dg.1hM1e.6dg.1hM1f.6dg.1hM1g.6dg.1hM1d.6dg.1i",
  "M1h.6dg.1iM1d.6dg.1kM1f.6dg.1kM1h.6dg.1kM1j.6dg.1kM1d.6dgM2xM2x.2xM2x.2x.2xM2x.3aM3aM3a.2x",
  "M3a.2x.2xM3a.2x.2x.2xM2x.3cM3cM3c.2xM3c.2x.2xM30S2.2rM31M2xM2x.2xM2x.2x.2xM2x.3aM3aM3a.2x",
  "M3a.2x.2xM3a.2x.2x.2xM2x.3cM3cM3c.2xM3c.2x.2xM30S2.2rM31V3M6mcV5M1c.6dg.1fV2X4V4cM6qz.6qz",
  "M6qz.6qz.6qzVM6r2.6r2M6r2.6r2.6r2V6wS2.9hkV73XmVbXlS9.1dM1d.1cM1d.1dM1d.1eM1d.1fM1d.1gM1d.1h",
  "M1d.1iM1d.1jM1d.1kM1d.1lM1e.1cM14.1d.15M14.1e.15M14.1f.15M14.1g.15M14.1h.15M14.1i.15M14.1j.15",
  "M14.1k.15M14.1l.15M14.1d.1c.15M14.1d.1d.15M14.1d.1e.15M14.1d.1f.15M14.1d.1g.15M14.1d.1h.15",
  "M14.1d.1i.15M14.1d.1j.15M14.1d.1k.15M14.1d.1l.15M14.1e.1c.15XkM14.2p.15M14.2q.15M14.2r.15",
  "M14.2s.15M14.2t.15M14.2u.15M14.2v.15M14.2w.15M14.2x.15M14.2y.15M14.2z.15M14.30.15M14.31.15",
  "M14.32.15M14.33.15M14.34.15M14.35.15M14.36.15M14.37.15M14.38.15M14.39.15M14.3a.15M14.3b.15",
  "M14.3c.15M14.3d.15M14.3e.15Sq.2pSq.2pM1cV10hM6qz.6qz.6qz.6qzV2vM1m.1m.1pM1p.1pM1p.1p.1pV2t",
  "M8gt.mwV47X2V3uS1c.8q8V1cM8rlVMh7M5tpMhpV2P6MghMhdMggMgiVM8s3V2M8s6V6M2yM3aS2.fzP2sV7P4V3M8vnV",
  "X5V19XVX5VX2V1kX7M8ypVXeVoX9V7XV7XV7XV7XV7XV7XV7XV7XV3iXyVqXV4MlalV2bMvj3XcMfeoMffsMfg6Mfgf",
  "Mfh5MfidMfikMfj4MfjuMg1rMg2tMg2zMg3mMg46Mg4rMg68Mg6tMg74MgbfMge1MgetMgeyMgfsMgg1MggsMgh5Mghu",
  "MgjaMgjsMgkjMh5jMh7jMhkbMhkyMhl6MhlhMhlzMho3Mi1cMi2oMi60Mi6nMi76Mi7sMi9aMi9dMijfMijpMik1Mike",
  "MinmMinuMinzMir8MiriMirvMis3MitsMiu9MiurMiwzMjd4MjeeMjezMjzjMjzoMk1zMk2fMk2sMk3dMk4gMk4lMkc0",
  "MkcoMkdkMl5sMl7mMl89Ml9vMlajMlasMlazMlcfMlckMldgMm7fMmjuMmk6MmkbMmkfMmknMml5Mml7MmngMmtgMmtl",
  "Mn30Mn3aMn4oMn4vMn54Mn5cMn7vMn82MneeMnelMnfyMngfMnhqMnobMnoiMnozMny2Mo1kMo1qMo6sMo97MoahMokz",
  "MoooMp4mMp5dMp6yMp8dMpa9MpakMpaqMpbnMpdrMpe1MpnnMpnuMpo3MpocMposMpp7MppbMpriMprmMprsMqj1Mqjv",
  "MqwwMqx8MqxvMr5qMr63Mr82Mr9cMrp3MrpiMrpxMrqwMrrxMrxgMrxsMrznMs6jMs7eMsd7MsdsMsdxMsk1Msp5Mssm",
  "MsssMssxMtivMtj4MtngMtrqMtrtMtt4Mtw1MtweMtwiMtwpMtzfMu0dMu0jMu0xMu5kMu6zMu73Muc6Muc9MucsMujs",
  "Mul4MulbMun9MunjMunmMunwMuoqMuzpMvatMvb3Mvc5MvcrMvczMvd9MvddMvehMvelMvf2Mvf7MvfkMvgbMvgqMvgy",
  "MvilMvj0Mvj4X16MwVM1aV1fM9huVMgg1S2.gg4V5XV2eX2V2Mw.9llMw.9lmV2M9l4.9l6V2nM9mb.9mwX5V17XS2.3cw",
  "M3hmM3cyS2.3hoS3.3czS6.3hsM3dmS3.3d2M3dtSa.3d5Sl.3flIS2.3dgS2.3ifM3ikM3imM3irM3ivM3ixM3doM3j1",
  "M3j3S2.3dpM3dsS2.3duM3dzM3e1S5.3e3M3eaM3eeM3eoM3evM3f0S2.3jlS3.3fbS2.3gkM3goS2.3gxM3h0M3haM3hd",
  "XV2MfeoMfikMfexMh5nMfeyMffxMfezMn5eMfh5MffdMfepMhm1Mh80MfjuV1yXaVgM14.3cw.15M14.3cy.15",
  "M14.3cz.15M14.3d1.15M14.3d2.15M14.3d3.15M14.3d5.15M14.3d7.15M14.3d8.15M14.3da.15M14.3db.15",
  "M14.3dc.15M14.3dd.15M14.3de.15M14.xz4.15M14.yvs.15M14.zc4.15M14.108s.15M14.10p4.15M14.115g.15",
  "M14.1224.15M14.12ys.15M14.13f4.15M14.14bs.15M14.14s4.15M14.158g.15M14.15os.15M14.1654.15",
  "M14.13p8.15M14.1350.13ic.15M14.1350.16f8.15XM14.feo.15M14.fik.15M14.fex.15M14.h5n.15M14.fis.15",
  "M14.g31.15M14.fer.15M14.g2z.15M14.fh9.15M14.gg1.15M14.kco.15M14.m7f.15M14.ldg.15M14.kdk.15",
  "M14.ssx.15M14.h7j.15M14.k4l.15M14.kkq.15M14.kcp.15M14.ny6.15M14.glp.15M14.mm1.15M14.rs1.15",
  "M14.nz1.15M14.gc4.15M14.fkz.15M14.gos.15M14.i1y.15M14.nhf.15M14.flt.15M14.rt3.15M14.ggk.15",
  "M14.nzh.15M14.fm9.15M14.pnu.15M14.po3.15MgunMinwMk1zMoenV8M34.38.2tM1e.1dM1e.1eM1e.1fM1e.1g",
  "M1e.1hM1e.1iM1e.1jM1e.1kM1e.1lM1f.1cM1f.1dM1f.1eM1f.1fM1f.1gM1f.1hM3cwS2.3cyS3.3d1M3d5S2.3d7",
  "S5.3daMxz4MyvsMzc4M108sM10p4M115gM1224M12ysM13f4M14bsM14s4M158gM15osM1654M14c8.y5cM13p8.13dk",
  "M138wVMfeoMfikMfexMh5nMfisMg31MferMg2zMfh9Mgg1MkcoMm7fMldgMkdkMssxMh7jMk4lMkkqMkcpMny6MglpMmm1",
  "Mrs1Mnz1Mgc4Mo2gMn5jMho3MsixMg16MghcMligMu11Mfm9Mg49Ml7nMfeyMffxMfezMijqMgkzMgfvMi3bMi1yMnhf",
  "MfltMrt3MggkMhloM1f.1iM1f.1jM1f.1kM1f.1lM1g.1cM1g.1dM1g.1eM1g.1fM1g.1gM1g.1hM1g.1iM1g.1jM1g.1k",
  "M1g.1lM1h.1cM1d.kcoM1e.kcoM1f.kcoM1g.kcoM1h.kcoM1i.kcoM1j.kcoM1k.kcoM1l.kcoM1d.1c.kco",
  "M1d.1d.kcoM1d.1e.kcoM2w.2vM2t.36.2vM2t.3aM30.38.2sM9luM9lwM9lyM9m0S2.9m2M9m5M9m7M9m9M9mbM9md",
  "M9mfM9mhM9mjM9mlM9mnM9mpM9msM9muM9mwS6.9myM9n6M9n9M9ncM9nfS5.9niM9noM9nqS6.9nsS4.9nzMfl0.gp8",
  "M9lu.9n5.9oc.9mwM9lu.9nv.9n9.9ltM9lu.9o3.9ne.9luM9lu.9oc.9nvM9lw.9mz.9o3.9m8M9lw.9o3.9mp",
  "M9ly.9m1.9o3M9m0.9mh.9m7.9oc.9mxM9m0.9oc.9m3.9ocM9m2.9o3.9mhM9m2.9oc.9nkM9m3.9lw.9nu",
  "M9m3.9nt.9mr.9mwM9m3.9nx.9nu.9ocM9m4.9nx.9o3M9m4.9o3.9niM9m6.9m4M9m6.9mz.9ocM9m5.9np.9nu.9oc",
  "M9m6.9nv.9mo.9ocM9m5.9nxM9m5.9nx.9m8.9nt.9nkM9m5.9nx.9nl.9oc.9mw.9nvM9m5.9nx.9nz.9mr.9mw",
  "M9m8.9nt.9nkM9m8.9nt.9nk.9mw.9o3M9m7.9nv.9mk.9lw.9nxM9m7.9nx.9oc.9n1M9m9.9oc.9mhM9mb.9nv.9my",
  "M9mb.9oc.9nhM9md.9lw.9m7.9nvM9md.9o3.9mp.9oc.9nkM9mf.9nu.9o3.9m8M9mj.9o3.9mpM9mj.9o3.9mw",
  "M9mo.9oc.9mhM9mv.9mfM9mx.9nvM9mw.9o3M9my.9n2M9n2.9mr.9mwM9n3.9lw.9msM9n5.9oc.9mj.9o3.9mw",
  "M9n5.9oc.9msM9n4.9oc.9nw.9nvM9n8.9lu.9mh.9mw.9nvM9n8.9m7.9nvM9n8.9mbM9n7.9nv",
  "M9n9.9lt.9nt.9mr.9mxM9n9.9lv.9oc.9mwM9na.9mr.9mf.9lz.9nvM9n9.9nt.9o3M9nc.9m7.9mn.9oc.9nv",
  "M9ne.9mlM9ne.9mz.9n6M9nc.9nv.9msM9ne.9o3.9mhM9ne.9oc.9mgM9nd.9oc.9mnM9nh.9lw.9o3.9mw",
  "M9ng.9nv.9mwM9nf.9o3M9nh.9o3.9mxM9nf.9oc.9nvM9nf.9oc.9o3M9ni.9lw.9m7.9nxM9ni.9lw.9nv",
  "M9ni.9mr.9n3M9ni.9nv.9m7M9ni.9o3.9mf.9nr.9o3M9nj.9m7.9nx.9o3M9nj.9nuM9nj.9nu.9n4.9oc.9nv",
  "M9nl.9m4M9nl.9m4.9mw.9o3M9nl.9oc.9mw.9nvM9no.9oc.9mxM9no.9oc.9nvM9nq.9lu.9o3M9nu.9mr.9mw.9nv",
  "M9nu.9ntM9nv.9n8.9ocM9nv.9oc.9na.9nvM9nw.9nkM9nw.9o3.9mw.9ma.9o3M9nz.9mr.9mwM1c.m9lM1d.m9l",
  "M1e.m9lM1f.m9lM1g.m9lM1h.m9lM1i.m9lM1j.m9lM1k.m9lM1l.m9lM1d.1c.m9lM1d.1d.m9lM1d.1e.m9l",
  "M1d.1f.m9lM1d.1g.m9lM1d.1h.m9lM1d.1i.m9lM1d.1j.m9lM1d.1k.m9lM1d.1l.m9lM1e.1c.m9lM1e.1d.m9l",
  "M1e.1e.m9lM1e.1f.m9lM1e.1g.m9lM2w.34.2pM2s.2pM2p.39M2q.2p.36M33.3aM34.2rM2s.31M2s.31.1e",
  "M2s.31.1fM2x.39Minn.jdcMk6l.gp8Mhlz.l7nMk5q.lh7Mkkq.irz.fmi.ny6M34.2pM32.2pMqk.2pM31.2pM2z.2p",
  "M2z.2qM31.2qM2v.2qM2r.2p.30M2z.2r.2p.30M34.2uM32.2uMqk.2uMqk.2vM31.2vM2z.2vM2w.3eM2z.2w.3e",
  "M31.2w.3eM2v.2w.3eM38.2w.3eMqk.30M31.30M2s.30M2z.30M2u.31M32.31Mqk.31M31.31M2r.31M2z.31",
  "M31.31.1eM2r.31.1eM31.1eM2z.31.1eM31.31.1fM2r.31.1fM31.1fM2z.31.1fM31.6qd.37M31.6qd.37.1e",
  "M34.2pM2z.34.2pM31.34.2pM2v.34.2pM36.2p.2sM36.2p.2s.6qd.37M36.2p.2s.6qd.37.1eM34.37M32.37",
  "Mqk.37M31.37M34.3aM32.3aMqk.3aM31.3aM2z.3aM31.3aM34.3bM32.3bMqk.3bM31.3bM2z.3bM31.3bM2z.qx",
  "M31.qxXM2q.35M2r.2rM2r.2sM2r.6qd.2z.2vXM2s.2qM2v.3dM2w.2pM2w.34M2x.32M2z.2zM2z.31M2z.38M30.31",
  "M30.32M30.33.2vM30.3cM31.2qM31.2x.30M31.33.30M34.2wXM34.34.31M34.36M37.36M37.3aM3b.2q",
  "M3a.6qd.31M2p.6qd.31M1d.k4lM1e.k4lM1f.k4lM1g.k4lM1h.k4lM1i.k4lM1j.k4lM1k.k4lM1l.k4lM1d.1c.k4l",
  "M1d.1d.k4lM1d.1e.k4lM1d.1f.k4lM1d.1g.k4lM1d.1h.k4lM1d.1i.k4lM1d.1j.k4lM1d.1k.k4lM1d.1l.k4l",
  "M1e.1c.k4lM1e.1d.k4lM1e.1e.k4lM1e.1f.k4lM1e.1g.k4lM1e.1h.k4lM1e.1i.k4lM1e.1j.k4lM1e.1k.k4l",
  "M1e.1l.k4lM1f.1c.k4lM1f.1d.k4lM2v.2p.30Vm8dX3V1jX9V9oXkP1aViPsMuiMukV2iX8VyPeV2P1qMx2nV8P4M5tl",
  "PaV3Mx3gVMh1V2P4V2PkMh2MgsMgxMh8Mh6VMimMhzMilMxubPgMx3oMhuM5u6P4Mh0PgMbfXkM37M2rM2uM35Mx6eV2",
  "M87M9fV1fX3VaX6V1kX8V1yX8VcX6V38XbVuX3V26XVbX4VxXV1jX9VeX2VaX2V2vXoVsXaV6X2V6X2V6X9V7XV7XV18",
  "Mx0nMxtjMh7MxuaV9Mi5V2X4S28.3vkV1aX2VaX6V8mcXcVnX4V1dX6isMrpkMkc4Ms7eMrt4Mlw1Mfg2MgklMvj0Mvj0",
  "Mhn5MssxMgw7MhmwMjcmMne1Mp6tMqinMqt6Mr20MsjzMkxuMljvMmahMmvyMq4dMsq2MuepMfiaMghhMl50MmjfMqi5",
  "Mv8eMifkMm3vMqfhMr50MjihMpncMqvzMiq2Mkd3Mlm2MmpoMslqMfpiMg53MgdaMjwkMl3nMmj4MnhjMpa9Mqh2Mqjg",
  "Ms1bMtv6MupbMv7eMnt8MnzzMotcMq15Mt1gMvb3MrfaMhjzMiroMokgMpdqMmleMnuyMrsyMttjMhjsMi8yMkybMlp6",
  "MlxrMoq7MoxjMtorMgcyMpe3Mg64Mg5oMo4cMou6Mq29MtpxMrk0MjinMkxuMrgeMfg9Mi5jMiz6MmtjMn74MgevMnwb",
  "Mfr3Miw9Mff1MlhoMk1kMopuMgjnMhgeMni9Mq4pMre2Mla2MsdsMlfsMjjyMputMjogMn6tMfjiMg2xMg5lMkn5Moo7",
  "MprjMrf6MssvMgdxMgn6Mho3Mir0Mk3pMm4eMnxmMtkdMui2MvbrMvdaMgbfMkauMl87MsbmMinoMj9sMjcwMjveMlyb",
  "MmdlMn0pMo22MovoMpdbMs9yMq9aMsgzMt3eMg7rMgbnMgqlMma0Mr0iMre2Miq1MiydMjnfMl9qMojiMmt1Mfl0Mh6h",
  "Mi5jMiiiMizgMmuqMmztMp7eMpc6MsvoMttiMtvsMu1kMfpnMo1aMss4MtrsMj4xMfieMfyyMi5qMi7zMk2hMkxuMmha",
  "MncyMq9oMsjgMvilMk94MtnyMgaxMkfvMkj7MlkxMlukMmx5Mn6hMnsbMopcMu3iMg31Mje6Mtq0Mfu3Mie1MlpmMsa2",
  "MivfMj7oMkk7MmtjMtqeMg89MglrMi91Mk5vMkemMko8MlidMmx2MnaaMp6hMr0vMr1dMsssMtsyMgfzMlveMgm5Mmhc",
  "Mn14MqgqMtr7MuvrMvbzMkgnMlorMpnsMo97MobkMoluMmo0Mm8pMriwMfk0Mpx2Mg8qMg7bMip2MjirMonqMi2tMljy",
  "MkacMsajMqx8MtotMr63MiqbMg1sMgxsV2MhgaVMk8kV2Mg66MmqyMngqMny4Mnz2Mnz9Mo0fMtw6Mon2Mp8dVMqheV",
  "Mrg8V2MshkMsn1V3Mu7jMu7wMu94Mv5gMsm6MtrrMfqmMfzbMg25MgcpMgdgMgghMgwtMgzqMh2gMhfkMhigMi90Mi9a",
  "Mj2sMj8oMj9qMjciMk0fMk4iMk9dMkn9MlmfMlqyMlyaMmemMmjvMmxuMntdMny6MnyhMnygMnyoMnyuMnz1S2.o0dMo5c",
  "Mo75Mog0MovoMow9MoxtMp6aMpadMpnxMprtMprtMq53Mr2oMr6eMrghMri1MrtfMruwMsdyMshkMtszMu0vMu2jMj1x",
  "M36cuMpp4X2MffqMg51Mg2wMfpcMg1xMg3kMgcnMge2MgwtMgutMgwpMgyqMhgaMhirMhmsMhn8MhuqMi08MiqaMiqh",
  "MiuhMiwdMj4oMj7yMj60Mj9qMj8gMjciMjecMjpgMjrwMjteMk0mMk8kMkd3Mkd7MkeuMl89Mla2MlkxMlwbMlvvMlya",
  "Mm5aMmemMnmvMmk5MmnjMmqyMn01Mn46Mn5nMnbxMnbzMngqMnh7MnhwMnkaMnk0Mnv0Mo8hMog0Mol7MorfMovoMp4u",
  "MpadMpxuMq27MqrdMr41Mr5yMr6eMrenMrg8MrezMrghMrgeMrfxMri1MrkaMruwMsagMsj6MsrdMsxiMtq4MtszMtw6",
  "MtzvMu0vMu17Mu2jMumqMvj0M313eM3138M33dhMbrxMcnsMcopM39e1M3bgwM3i6rMvgjMvimX12M2u.2uM2u.2x",
  "M2u.30M2u.2u.2xM2u.2u.30M37.38M37.38XcM12s.12uM12s.12dM12s.12jM132.12uM12s.12lX5M15l.14kV",
  "M16a.14nM15uM15cS2.15fS3.15nM160M162M17M161.14xM161.14yM161.14s.14xM161.14s.14yM15c.14n",
  "M15c.14oM15c.14sM15d.14sM15e.14sM15f.14sM15g.14sM15h.14sM15i.14sXM15k.14sM15l.14sM15m.14s",
  "M15n.14sM15o.14sXM15q.14sXM15s.14sM15t.14sXM15v.14sM15w.14sXM15y.14sM15z.14sM160.14sM161.14s",
  "M162.14sM15h.14pM15d.14vM15n.14vM15w.14vM15c.15oM19tM19tM1a3M1a3M1a3M1a3M1a6M1a6M1a6M1a6M1a8",
  "M1a8M1a8M1a8M1a2M1a2M1a2M1a2M1a7M1a7M1a7M1a7M1a1M1a1M1a1M1a1M1b8M1b8M1b8M1b8M1baM1baM1baM1ba",
  "M1acM1acM1acM1acM1abM1abM1abM1abM1aeM1aeM1aeS2.1aeM1afM1afM1afM1alM1alM1akM1akM1amM1amM1agM1ag",
  "M1awM1awM1apM1apM1bdM1bdM1bdM1bdM1bjM1bjM1bjM1bjM1bnM1bnM1bnM1bnM1blM1blM1blM1blM1buS2.1buM1bv",
  "M1bvM1bvM1c0S2.1c0M1c1M1c1M1c1M1byM1byM1byM1byM1ciS2.1ciM1cjVxM1bhM1bhM1bhM1bhM1c7M1c7M1c6M1c6",
  "M1c8M1c8M1c7.19wM1cbM1cbM1c5M1c5M1c9M1c9M1cgM1cgM1cgM1cgM18pM18pM17q.17rM17q.17rM17q.1cl",
  "M17q.1clM17q.18oM17q.18oM17q.1c7M17q.1c7M17q.1c6M17q.1c6M17q.1c8M17q.1c8M17q.1cgM17q.1cg",
  "M17q.1cgM17q.18pM17q.18pM17q.18pM1ccM1ccM1ccM1ccM17q.17wM17q.17xM17q.18lM17q.18pM17q.18q",
  "M17s.17wM17s.17xM17s.17yM17s.18lM17s.18pM17s.18qM17u.17wM17u.17xM17u.17yM17u.18lM17u.18p",
  "M17u.18qM17v.17wM17v.18lM17v.18pM17v.18qM17w.17xM17w.18lM17x.17wM17x.18lM17y.17wM17y.17x",
  "M17y.18lM183.17wM183.17xM183.17yM183.18lM185.17xM185.18lM186.17wM186.17xM186.17yM186.18l",
  "M187.17xM187.18lM188.18lM189.17wM189.18lM18a.17wM18a.18lM18h.17wM18h.17xM18h.17yM18h.18l",
  "M18h.18pM18h.18qM18i.17xM18i.18lM18i.18pM18i.18qM18j.17rM18j.17wM18j.17xM18j.17yM18j.18k",
  "M18j.18lM18j.18pM18j.18qM18k.17wM18k.17xM18k.17yM18k.18lM18k.18pM18k.18qM18l.17wM18l.17x",
  "M18l.17yM18l.18lM18l.18pM18l.18qM18m.17wM18m.17xM18m.17yM18m.18lM18m.18pM18m.18qM18n.17w",
  "M18n.18lM18n.18pM18n.18qM18q.17wM18q.17xM18q.17yM18q.18lM18q.18pM18q.18qM180.19sM181.19s",
  "M18p.19sMw.18s.18xMw.18t.18xMw.18u.18xMw.18v.18xMw.18w.18xMw.18x.19sM17q.181M17q.182M17q.18l",
  "M17q.18mM17q.18pM17q.18qM17s.181M17s.182M17s.18lM17s.18mM17s.18pM17s.18qM17u.181M17u.182",
  "M17u.18lM17u.18mM17u.18pM17u.18qM17v.181M17v.182M17v.18lM17v.18mM17v.18pM17v.18qM18h.18p",
  "M18h.18qM18i.18pM18i.18qM18j.17rM18j.18kM18j.18lM18j.18pM18j.18qM18k.18lM18k.18pM18k.18q",
  "M18l.17rM18l.18lM18m.181M18m.182M18m.18lM18m.18mM18m.18pM18m.18qM18p.19sM18q.181M18q.182",
  "M18q.18lM18q.18mM18q.18pM18q.18qM17q.17wM17q.17xM17q.17yM17q.18lM17q.18nM17s.17wM17s.17x",
  "M17s.17yM17s.18lM17s.18nM17u.17wM17u.17xM17u.17yM17u.18lM17u.18nM17v.18lM17w.17xM17w.18l",
  "M17x.17wM17x.18lM17y.17wM17y.18lM183.17wM183.17xM183.17yM183.18lM185.17xM185.17yM185.18l",
  "M186.17wM186.17xM186.17yM186.18lM187.17xM188.18lM189.17wM189.18lM18a.17wM18a.18lM18h.17w",
  "M18h.17xM18h.17yM18h.18lM18i.17xM18i.18lM18j.17wM18j.17xM18j.17yM18j.18kM18j.18lM18k.17w",
  "M18k.17xM18k.17yM18k.18lM18k.18nM18l.17wM18l.17xM18l.17yM18l.18lM18m.17wM18m.17xM18m.17y",
  "M18m.18lM18m.18nM18n.17wM18n.18lM18n.19sM18q.17wM18q.17xM18q.17yM18q.18lM18q.18nM17q.18l",
  "M17q.18nM17s.18lM17s.18nM17u.18lM17u.18nM17v.18lM17v.18nM183.18lM183.18nM184.18lM184.18n",
  "M18j.18kM18j.18lM18k.18lM18m.18lM18m.18nM18q.18lM18q.18nM18g.18u.18xM18g.18v.18xM18g.18w.18x",
  "M187.18pM187.18qM189.18pM189.18qM18a.18pM18a.18qM183.18pM183.18qM184.18pM184.18qM17x.18p",
  "M17x.18qM17w.18pM17w.18qM17y.18pM17y.18qM185.18pM185.18qM186.18pM186.18qM184.17wM184.17x",
  "M184.17yM184.18lM184.181M183.181M185.181M186.181M187.18pM187.18qM189.18pM189.18qM18a.18p",
  "M18a.18qM183.18pM183.18qM184.18pM184.18qM17x.18pM17x.18qM17w.18pM17w.18qM17y.18pM17y.18q",
  "M185.18pM185.18qM186.18pM186.18qM184.17wM184.17xM184.17yM184.18lM184.181M183.181M185.181",
  "M186.181M184.17wM184.17xM184.17yM184.18lM183.18nM184.18nM187.18lM183.17wM183.17xM183.17y",
  "M184.17wM184.17xM184.17yM187.18lM188.18lM17r.18rM17r.18rViM17u.17w.18lM17u.17x.17wM17u.17x.17w",
  "M17u.17x.18lM17u.17y.18lM17u.18l.17wM17u.18l.17xM17u.18l.17yM17w.18l.17xM17w.18l.17x",
  "M17x.18l.18qM17x.18l.18pM183.17x.17wM183.17w.17xM183.17w.18pM183.18l.17xM183.18l.17x",
  "M183.18l.17wM183.18l.18lM183.18l.18lM185.17x.17xM185.17x.17xM185.18l.18lM184.17x.18l",
  "M184.17x.18lM184.17w.18qM184.18l.17yM184.18l.17yM184.18l.18lM184.18l.18lM186.17x.18p",
  "M186.17y.18lM186.17y.18lM187.18l.17xM187.18l.17xM187.18l.18lM187.18l.18qM189.17w.18l",
  "M189.18l.18lM189.18l.18lM189.18l.18pM18a.18l.18lM18a.18l.18qM18a.18l.18pM18h.17y.18l",
  "M18h.17y.18lM18i.18l.17xM18i.18l.18lM18k.17x.18lM18k.17x.18qM18k.17x.18pM18k.17w.17w",
  "M18k.17w.17wM18k.17y.18lM18k.17y.18lM18k.18l.17xM18k.18l.17xM18l.17x.17wM18l.17x.18l",
  "M18l.17x.18qM18l.17w.17xM18l.17w.18lM18l.17y.17wM18l.17y.18lV2M18l.17w.17yM18n.18l.17w",
  "M18n.18l.18lM18m.17x.18lM18m.17x.18pM18m.17w.18lM18m.17w.18lM18m.17w.18pM18m.18l.18q",
  "M18m.18l.18pM18q.18l.18lM18q.18l.18lM17s.17y.18qM17u.17w.18qM17u.17w.18pM17u.17y.18q",
  "M17u.17y.18pM17u.18l.18qM17u.18l.18pM17w.18l.18qM17w.17x.18pM17w.18l.18pM183.17y.18p",
  "M185.17x.18qM184.17x.18qM186.17x.18qM18k.17w.18qM18k.18l.18qM18q.17x.18qM18q.17w.18q",
  "M18q.18l.18qM18l.18l.18qM18i.18l.18qM18m.17x.18qM18i.18l.17xM18k.17x.18lM189.18l.18q",
  "M18j.18l.18qM18m.17w.17xM18l.17y.18qM18k.17w.18lM18j.18l.18lM18k.17w.18lM18m.17w.17x",
  "M17w.17x.18qM17x.17w.18qM18l.17w.18qM18h.18l.18qM17s.17x.18qM18j.18l.18lM189.17w.18l",
  "M185.18l.18lM183.17y.18qM18m.17w.18qV8XwM185.18k.1ciM18i.18k.1ciM17r.18k.18k.18n",
  "M17r.18j.17s.181M18l.17x.18l.17zM185.18k.189.18lM181.183.18o.18kM189.18k.18q.18n",
  "M18o.183.18k.18lM185.18k.18pM185.18k.18p.w.17r.18k.18k.18n.w.189.18k.18q.18n.w.18o.183.18k.18l",
  "M17w.18k.w.17w.18k.17r.18k.18nM181.1cc.17r.18kV3IgM18M9hdXS2.1mMxM1rS2.9hyX7VgXM6c4M6c3M2nM2n",
  "S2.14M3fM3hS2.9hwS2.9hsS2.9hmS2.9hkS4.9hoV2M2jM2lMw.lhMw.lhMw.lhMw.lhM2nM2nM2nM18M9hdX2M1nM1m",
  "M1rMxM6c4S2.14M3fM3hS2.9hwMzM12S2.16M19M1oM1qM1pXM2kS2.10M1sX4Mw.18rM18g.18rMw.18sVMw.18tX",
  "Mw.18uM18g.18uMw.18vM18g.18vMw.18wM18g.18wMw.18xM18g.18xMw.18yM18g.18yS2.17lS2.17mS2.17nS2.17o",
  "S2.17pM17qM17qS2.17qS2.17rM17sM17sS2.17sS2.17tM17uM17uS2.17uM17vM17vS2.17vM17wM17wS2.17wM17x",
  "M17xS2.17xM17yM17yS2.17yS2.17zS2.180S2.181S2.182M183M183S2.183M184M184S2.184M185M185S2.185M186",
  "M186S2.186M187M187S2.187M188M188S2.188M189M189S2.189M18aM18aM18aM18hM18hM18hS2.18hM18iM18i",
  "S2.18iM18jM18jS2.18jM18kM18kS2.18kM18lM18lS2.18lM18mM18mS2.18mM18nM18nS2.18nS2.18oS2.18pM18q",
  "M18qM18qM18k.17mM18k.17mM18k.17nM18k.17nM18k.17pM18k.17pM18k.17rM18k.17rX2IXSw.xSq.2pS10.2j",
  "S2.879M1aS2.9hoM9hdM9obM9o2M9ltM9lvM9lxM9lzM9m1M9nnM9npM9nrM9mrM9ocM9luM9lwM9lyM9m0S2.9m2M9m5",
  "M9m7M9m9M9mbM9mdM9mfM9mhM9mjM9mlM9mnM9mpM9msM9muM9mwS6.9myM9n6M9n9M9ncM9nfS5.9niM9noM9nqS6.9ns",
  "M9nzM9o3S2.9llIS2.3cwM3hmM3cyS2.3hoS3.3czS6.3hsM3dmS3.3d2M3dtSa.3d5X3S6.3flX2S6.3frX2S6.3fxX2",
  "S3.3g3X3S2.4iM4sMw.lgM4mM4lM6g9XM7b6S4.6moM7fkM7grXhVcXVqXVjXV2XVfX2VeXyV3fX5V3X4V19X3V2gXVdX3",
  "VX1bV1aX3mVtX3V1dXfVsX4V10X9VuX5V17X5VuXV11X4VeX16S14.1fe0V3aX2VaX6S10.1fiwX4V10X4V14X8V1gXbV",
  "Sb.1fo7XSf.1fojXS7.1fozXS2.1fp7XVbXVfXV7XV2X3V1gXcV8nX9VmXaV8XoVS2.k0M6eMihMgjXMirMxuuMitMis",
  "S2.gmM5u9MgoMguMixMh0MgyMgwMijM87MikMh3MhwS2.iyMh8M2mmcMx3iMhaM2mmdMi6M2mmeM6wS2.hiM35MhmM2mmg",
  "S2.hpMhsMiwMiuMxuvMivMi0M8s1XMi7S2.ipMigS3.cgM2mmiM2mn2X1xV6X2VXV18XV2X3VX2VnXV20X8V9X1cVjXV2",
  "X5VxX3VrX5VrX12V1kX4VkX2V1eXV2X5V8XV3XVtX2V3X4VaX7V9X7V1sXwV13X4VcX9V1iX3VtX2VrX5VqX7V4XcV7X28",
  "V21X1jS1f.1h34XdV1fX7V1aX8VaX6VgSm.1h80X3VtX8V2X5sVvXV16XV3X2V2XgV6X8V9XxV1aX8V16XmVqX12VsXkVn",
  "X9V26X4V10X9V1qXV5XdVpX7VaX6V1hXViX8V13X9V2oXVkXbViXV1bX1qV7XVXV4XVfXVbX6V1nX5VaX6V4XV8X2V2X2",
  "VmXV7XV2XV5XVaX2V2X2V3X2VX6VX5V7X2V7X3V5XbVaXVX2VXV12XVaXVX2VXV4XVaXV2X8V2XtV2kXV5XuV20X8VaX4m",
  "V1iX2V12XyV1xXbVaX6VdXjV1mX6VaX6VkXsVrX2VfX4VnX55V1oX2sSw.1jggV1fXcV8X2VX2V8XV2XVuXV2X2VcX9Va",
  "X1yV8X2V1aX2VbXrV20X8V2bXdV21X7VaX2eV8X2gVyXeVaX6V9XV19XVeXaVtX3VwX2VmXVeX21V7XV2XV18X3VXV2XV9",
  "X8VaX6V6XV2XV11XV2XV6X7VaX6V18X4VaX6uVpX7VhXV15X3VtX2dVXfV1eXdVpnX2uV33XV5XbV5gX218V2rXdVtsXg",
  "VmXaV32zX5Vg7X5a1V1mX1c6VftX7VvXVaX4V29XVaX6VuX2V6XaV1yXaVaXV7XVlX5VjXc0V1mX5iSw.20dcV1nX5",
  "Sp.20fvX2VpX18V23X4V1lX7VhX1sV5XbV7X9V5p2X15VwX2pV37X6ppV4XV7XV2XV83XfVXtV3X2VXeV4X8Vb0X1s4V2z",
  "X5VdX3V9X7VaX2V4I4X318V5ySq.2pSa.1cV3X3Vc4X6VnXfVhXfV1aX2VnX9V38X1oV6uXaV13X2V1hM2jx3.2jxh",
  "M2jx4.2jxhM2jx4.2jxh.2jxqM2jx4.2jxh.2jxrM2jx4.2jxh.2jxsM2jx4.2jxh.2jxtM2jx4.2jxh.2jxuVeI8V1s",
  "M2jzt.2jxhM2jzu.2jxhM2jzt.2jxh.2jxqM2jzu.2jxh.2jxqM2jzt.2jxh.2jxrM2jzu.2jxh.2jxrV16XlV1yX3eVk",
  "XcVkXcV2fX9VpX3rSq.2pSq.2pSq.2pS7.2pXSi.2xSq.2pSq.2pM2pXS2.2rX2M2vX2S2.2yX2S4.32XS8.37S4.2pX",
  "M2uXS7.2wXSb.34Sq.2pSq.2pS2.2pXS4.2sX2S8.2yXS7.37XSq.2pS2.2pXS4.2sXS5.2xXM33X3S7.37XSq.2pSq.2p",
  "Sq.2pSq.2pSq.2pSq.2pSq.2pSq.2pSq.2pSq.2pSq.2pSq.2pSq.2pM8hMfrX2Sh.q9MqgS7.qrM6pzSh.q9MqrS7.qr",
  "M6puMqdMqgMqiMquMqpMqoSh.q9MqgS7.qrM6pzSh.q9MqrS7.qrM6puMqdMqgMqiMquMqpMqoSh.q9MqgS7.qrM6pz",
  "Sh.q9MqrS7.qrM6puMqdMqgMqiMquMqpMqoSh.q9MqgS7.qrM6pzSh.q9MqrS7.qrM6puMqdMqgMqiMquMqpMqoSh.q9",
  "MqgS7.qrM6pzSh.q9MqrS7.qrM6puMqdMqgMqiMquMqpMqoMrhMrhX2Sa.1cSa.1cSa.1cSa.1cSa.1cVi4XfV5XVfXuo",
  "VvX6V6X5xV7XVhX2V7XV2XV5X5S9.tsS3.u2Sb.u6MujS2.ulMww9MyhMuuMuwMyxMxbMy7S9.tsS2.u2S2.u6Mu9S6.ub",
  "S2.uiMwhMuuMutMv3Mx7MwupMxdXxVX34V19X3VeX2VaX4V2X8wVvXhV1mX5VXcwV16X5yV17X4VX5cVvXVmX8V2X68V7X",
  "V4XV2XVfXV5hX2VgX15Sy.2omaV16X4VaX4V2XltV1wX24V1pX5eS2.17rM17wM17zXM18oM182M17xM187M18qS4.18j",
  "M183M189M18hM185M18iM181M184S2.17uM17yM180M186M188M18aM19qM1buM1b5M19rXM17sM17wXM18nX2M17xX",
  "M18qS4.18jM183M189M18hM185M18iXM184S2.17uM17yXM186XM18aX6M17wX4M17xXM18qXM18kXM18mM183M189X",
  "M185M18iXM184X2M17yXM186XM18aXM1buXM19rXM17sM17wXM18nX2M17xM187M18qM18jXS2.18lM183M189M18hM185",
  "M18iXM184S2.17uM17yXM186M188M18aM19qXM1b5XS2.17rM17wM17zS2.18nM182M17xM187M18qXS3.18kM183M189",
  "M18hM185M18iM181M184S2.17uM17yM180M186M188M18aX5M17sM17wM17zXM18oM182M17xM187M18qXS3.18kM183",
  "M189M18hM185M18iM181M184S2.17uM17yM180M186M188M18aX1gV2X7iV18X4V2sXcVfX2VfXVfXV11XbM1c.18",
  "M1d.18M1e.18M1f.18M1g.18M1h.18M1i.18M1j.18M1k.18M1l.18V5M14.2p.15M14.2q.15M14.2r.15M14.2s.15",
  "M14.2t.15M14.2u.15M14.2v.15M14.2w.15M14.2x.15M14.2y.15M14.2z.15M14.30.15M14.31.15M14.32.15",
  "M14.33.15M14.34.15M14.35.15M14.36.15M14.37.15M14.38.15M14.39.15M14.3a.15M14.3b.15M14.3c.15",
  "M14.3d.15M14.3e.15M9hw.37.9hxM2rM36M2r.2sM3b.3eVSq.2pM2w.3aM31.3aM37.2sM37.37M34.34.3aM3b.2rVq",
  "M31.2rM31.2sM31.36VzM2s.2yVtX1kVqM9kr.9jfM9mb.9mbM9mdXdMjezMi1jMgjwM9mvMfikMhlmMr8jMhm1Mfj8",
  "Mk68MmchMk2hMg99MivgMg3xMk34Mg7xMoqqMn4vMrs9MhkgMgmxMlxwMjh1MjmdMfeoMfexMsi2MijqMffxMgkzMjk7",
  "MrxsMjf7Mo01Mo6yMglkMltsMkcpMkcoMn5fMgaaMgxiMsp9X4M9hw.kdo.9hxM9hw.fex.9hxM9hw.fik.9hx",
  "M9hw.i2x.9hxM9hw.m9l.9hxM9hw.jf7.9hxM9hw.nh3.9hxM9hw.gd9.9hxM9hw.k0n.9hxX7MivrMgkvXeV6X4aVrdX3",
  "VhX3VdX3V62X6VcX4VXfVcX4V1kX8VaX6V14X8VuX2VcX4V2XeV9X13V9kX8VeX2VdX3VbX3V1lXVX4VgX2VcX4VaX7V43",
  "XV2kSa.1cVXslVwyoXwV3dqX2V4geX2V5rlXfVhaX1wiMfgdMfg8MfghM2tcyMfogMfqmMfqzMfsyMfwaMfx5MfzbMfyn",
  "Mae6M2ud6Mg25Mg2cMg2sMg3bM2u58MaexMg2vMg3xM2u6jMg47Mg4kMfkcMg4sMg51M3ly7Mg6tMg77MafzMg8rMg92",
  "MgaaMgafMahhMgcnMgcpMgdgMge2S2.gedMgevMgg9MgghMggqMghfMghpMghrMghrMghrM2v58Mm7kMgjuMgkfM2vdv",
  "MgkrMgkxMgliMgpqMgmwMgncMgo8MgpuMgs6MgswMgurMgv7Mgw4Mgw4MgwpMgx7MgxfMgxuMh7aMgzqMh7bMh1tMh2s",
  "Mg7bMhkeMhceMhdgMhe5MhajMhf6Mhf5MhikM2x9gMhkiMhknMhl2MhlmMhluMhnmM2xm0M2xnuMhrgMhsrMht3Mhqw",
  "MhuuMaumMav0MhzcMi0uMi0uM2y88Mi4jMi54Mi5jMi5vM2yhkMi67Mi6eMitvMi76MaypMi8wMi9aMibkMia5M2z1g",
  "Mif7M2z1iMigeMigbMigsS2.ijlMb3jMikdMilkMim5MindMb4yM2zr7Mb5oMipcMipfMipiMiq2M3pg2MiriM3035",
  "M3035MpohMisiMisiMb7rM335kM3cgqMiuaMiujMb8jMivuMix9MixjMiyhMj29MbayMba4Mj2sM30t0Mj47Mj7sMj7w",
  "Mj7yMj7wMj96Mj9qMjaqMjacMjanMjbyMjciMjcmMjdcMjdnMjfhMjhtMjisMjm8M31n0MjlpMjjwMjmwMjnnMjqcM31td",
  "Mjs2MjphMjopMbhqMju1MjumMjvhMjufMbjgMk0fMk18M32miMk4jMkc8Mk7dMbo9Mk9dMbnsMbmsMg42Mg45MkcgMk9o",
  "Mpf1MdehMkd3Mkd7MkddMkf2MkerM33czMbplMkjeMkg5MkluMkn9M33hpMkniMkkfMkr8MbrxMksiMkv7Mkx6Ml2g",
  "M33xfMl3vMbvcMl5tM34brMl78MbwuMl82Ml9bS2.la2M34p9M2yvfM34saMle6M354sMlhbMlhpMlevMljqMlkuMlmf",
  "MlkxMlm1MlmgMlmtM357iMlkkMlrjMltaMc37MlvvMlvrM35jlMlq1Mm0eM35niM35ouMm2uMm61Mm5aMm57Mc5yMm6i",
  "Mm7xMm7rMm99M2u5hMmdhM368zMmfwM36i3MmjsMmk5MmkwM36ywMmm8MmmtM3779M37dgMmt6MmtnMcdoMmudMce0Mce0",
  "MmyvMmzgMn01Mn0lMn2iMcgrMn50M386uMn5qM389eMn74M2zrzMnbkM38v5M38vsM38zoMcn0McncMnhwM394jM394i",
  "M395lM396bS2.nj2Mnj3MnkaMcopMnm3Mcp2McraM39r1MnriMnt8Mnv0MctfM3a5iMnyuM3a8qM3a9xMo0fMo2zMcvj",
  "Mo5cMo5mMo5rM3at8M3b1jM3b1jMoa6Md1eM3b8rMog6Mog9Md2fM3beoMonmMd5sMoo8Moo3MoowM3c06MornMd8hMouf",
  "Mow2MoxxMd9wM3ciwM3cjrMdaxM3cntMp6iM3cqmMp79Mpa2MpadM3d22M3d43MpcwM3d7sMpdcM33a7MdedMpf6Mphf",
  "MdfvMpj2Mhx1M3dlzM3dmdM33bnM33bwMpohMpokMsdaMdijMpshMpsbMpstMgc3MptdMptfMptpMpuuM3ebgMputMpwd",
  "MpybMq0dMpwjMq0tMq1zMq53MpxvMq16Mq18Mq1oM3eieM3eqzM3emtMdnvMq9dMq9fMqaeM3g0aMqckM3f3gMdp9Mdpd",
  "M3f75M3ff6MdpnMqj4MqjgMqjrMqjtMqllMqkoMqoeMqn6MqrdMqp4MqqzMqrqMdsnMqu9Mqv5MdtlMqxsMqxvM3giv",
  "Mr13Mr1aMdv9Mr22MaezM3gz2M3h46Mdz2MdzbMrdsMrfxMrkaMrpxM3hrcMrsbMrsxMrvfMrxzM3i9bM2upwMs0bMrzw",
  "Ms1cM2uvyMs7oMsagM3jkiM3jl9Msk4MsmpMsnlM3ju6MsnvMsvsS2.t07MsxoMt89Mt91M3ksaMtjfMej9MtknM3l2v",
  "MeliMts3MiiaMturM3ltxM3lzuMepaMepiMu00M3mdmMer6M3mhiMu17Mu17Mu21M3mpiMu76MeurMu95MucnMudeMuf2",
  "Mez2M3nsgMumqMuv4Mv0dMf66Mf71Mv3bM3oweMf7cM3oxxM3p5aM3p8xMvcrMf9yMvehMvemMvetMvf3MvfaMvgbM3pxc",
  "X15uV3t7X5V6juXf62uI6o"]

/-- How many characters an entry is about, and what becomes of them. -/
def ofEntry (entry : Text.Table.Entry) : Nat × Mapping :=
  let count := entry.numbers.headD 1
  match entry.mark, entry.numbers with
  | 'V', _ => (count, .kept)
  | 'I', _ => (count, .dropped)
  | 'P', _ => (count, .paired)
  | 'S', [count, first] => (count, .moved first)
  | 'M', codes => (1, .replaced codes)
  | _, _ => (count, .refused)

def table : List (Text.Table.Stretch Mapping) :=
  Text.Table.stretches ofEntry 0 (Text.Table.entries lines)

/-- What stands for the character at some place of a stretch. -/
def image? (mapping : Mapping) (c : Char) (place : Nat) : Option (List Char) :=
  match mapping with
  | .kept => some [c]
  | .refused => none
  | .dropped => some []
  | .paired => some [if place % 2 = 0 then Char.ofNat (c.toNat + 1) else c]
  | .moved first => some [Char.ofNat (first + place)]
  | .replaced codes => some (codes.map Char.ofNat)

end Mapping

/-- What stands for a character in a name; `none` if it may not stand there. -/
def image? (c : Char) : Option (List Char) :=
  (Text.Table.find? Mapping.table c).bind fun stretch =>
    stretch.value.image? c (c.toNat - stretch.first)

/-- Whether a character stands for itself. -/
def isKept (c : Char) : Bool := image? c = some [c]

end CellNet.DomainName
