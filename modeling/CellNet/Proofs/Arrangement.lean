import CellNet.Program
import CellNet.Host.InMemory
import CellNet.Json.Printer
import CellNet.Proofs.Marking
import CellNet.Proofs.TwoSided

/-!
# Drawing with broken elements

**Theorem (`marking_commutes`).** On any view that a run leads to, marking an element as broken and
another gesture have the same effect in either order. So the names given to the drawing command to
be marked as broken, if each of them names something, can be given in any order and repeatedly, and
it draws the session that results from showing the tree first and marking the names afterwards.

The command is split where it has loaded a session (`render_eq`). From there on it reads the names
only to mark them (`arrange_congr`), and marking names is marking what they stand for
(`markBroken_eq_ok`), so the theorem rests on what is known of marks on views (`attemptView_marked`,
`marked_congr`).
-/

namespace CellNet

/-! ## Names that are accepted -/

namespace Session

variable {session : Session} {v w : View} {name : String}

/-- A name to be marked as broken is accepted. -/
def Accepts (session : Session) (name : String) : Prop :=
  ∃ next, session.perform (.markBroken name) = .ok next

instance (session : Session) (name : String) : Decidable (session.Accepts name) :=
  match h : session.perform (.markBroken name) with
  | .ok next => .isTrue ⟨next, h⟩
  | .error _ => .isFalse fun ⟨next, hnext⟩ => by rw [h] at hnext; cases hnext

theorem accepts_iff : session.Accepts name ↔
    ∃ next, changeView session.topology session.view (.markBroken name) = .ok next := by
  constructor
  · rintro ⟨next, hnext⟩
    obtain ⟨view, hview, -⟩ := perform_eq_ok_iff.1 hnext
    exact ⟨view, hview⟩
  · rintro ⟨view, hview⟩
    exact ⟨_, perform_eq_ok_iff.2 ⟨view, hview, rfl⟩⟩

/-- Names stay accepted, whatever is done. -/
theorem Accepts.of_view (hv : v.Of session.topology) (hw : w.Of session.topology)
    (h : { session with view := v }.Accepts name) : { session with view := w }.Accepts name := by
  obtain ⟨next, hnext⟩ := accepts_iff.1 h
  rcases changeView_alike hv hw (.markBroken name) with ⟨error, herror, -⟩ | ⟨_, wnext, -, hwnext⟩
  · exact absurd (hnext.symm.trans herror) (by simp)
  · exact accepts_iff.2 ⟨wnext, hwnext⟩

/-- The session after what some names stand for was marked. -/
def withBroken (session : Session) (names : List String) : Session :=
  { session with
    view := marked session.topology session.view (names.map session.topology.named) }

theorem of_withBroken (hview : session.view.Of session.topology) (names : List String) :
    (session.withBroken names).view.Of session.topology :=
  of_viewAfter hview _

theorem withBroken_congr (session : Session) {names others : List String}
    (hsame : ∀ name, name ∈ others ↔ name ∈ names) :
    session.withBroken others = session.withBroken names := by
  have hmarks : ∀ mark, mark ∈ others.map session.topology.named ↔
      mark ∈ names.map session.topology.named := by simp [hsame]
  rw [withBroken, withBroken, marked_congr _ _ hmarks]

end Session

namespace Program

open Session

variable {session : Session} {names others : List String} {console : Console}

/-- Marking names that are accepted marks what they stand for. -/
theorem markBroken_eq_ok (hview : session.view.Of session.topology)
    (haccepts : ∀ name ∈ names, session.Accepts name) :
    markBroken session names = .ok (session.withBroken names) := by
  rw [withBroken, ← viewAfter_markBroken hview, ← after_eq]
  -- The induction is on the names, from every session on which they are accepted.
  induction names generalizing session with
  | nil => rfl
  | cons name names ih =>
    obtain ⟨next, hnext⟩ := haccepts name (by simp)
    obtain ⟨view, hok, rfl⟩ := perform_eq_ok_iff.1 hnext
    have hnextview : view.Of session.topology := of_changeView hview hok
    have hrest : ∀ name ∈ names, { session with view }.Accepts name := fun other hother =>
      Accepts.of_view hview hnextview (haccepts other (by simp [hother]))
    rw [markBroken, List.foldlM_cons, hnext]
    refine (ih hnextview hrest).trans (congrArg Except.ok ?_)
    rw [List.map_cons, after, after, List.foldl_cons, attempt, EStateM.leaves_of_outcome hnext]

theorem markBroken_congr (hview : session.view.Of session.topology)
    (haccepts : ∀ name ∈ names, session.Accepts name)
    (hsame : ∀ name, name ∈ others ↔ name ∈ names) :
    markBroken session others = markBroken session names := by
  have hothers : ∀ name ∈ others, session.Accepts name := fun name hname =>
    haccepts name ((hsame name).1 hname)
  rw [markBroken_eq_ok hview haccepts, markBroken_eq_ok hview hothers, withBroken_congr _ hsame]

/-- Names that are accepted can be marked before a gesture or after it. -/
theorem markBroken_perform (hview : session.view.Of session.topology)
    (haccepts : ∀ name ∈ names, session.Accepts name) (gesture : Gesture) :
    (markBroken session names).bind (·.perform gesture) =
      (session.perform gesture).bind (markBroken · names) := by
  rw [markBroken_eq_ok hview haccepts]
  show (session.withBroken names).perform gesture = _
  rcases changeView_alike (of_withBroken hview names) hview gesture with
    ⟨error, hafter, hbefore⟩ | ⟨after, before, hafter, hbefore⟩
  · rw [perform_eq_error_iff.2 hbefore]
    exact perform_eq_error_iff.2 hafter
  · have hnext : before.Of session.topology := of_changeView hview hbefore
    have hlast : { session with view := after } =
        { session with view := before }.withBroken names := by
      rw [withBroken, ← attemptView_of_ok hafter, ← attemptView_of_ok hbefore, withBroken,
        attemptView_marked hview]
    rw [perform_eq_ok_iff.2 ⟨before, hbefore, rfl⟩]
    show _ = markBroken { session with view := before } names
    rw [markBroken_eq_ok hnext fun name hname => Accepts.of_view hview hnext (haccepts name hname),
      ← hlast]
    exact perform_eq_ok_iff.2 ⟨after, hafter, rfl⟩

/-! ## What is drawn -/

/-- The names are read only to mark them. -/
theorem arrange_congr {arguments : RenderArguments}
    (h : markBroken session others = markBroken session arguments.broken) :
    arrange console session { arguments with broken := others } =
      arrange console session arguments := by
  simp only [arrange, h]

/-- What is drawn, if anything, is the session after the names were marked and the tree shown. -/
theorem arrange_shown (arguments : RenderArguments) (shown : ShownTree)
    (h : arguments.shown = some shown) :
    (arrange console session arguments).toOption.map Prod.fst =
      ((markBroken session arguments.broken).bind
        (·.perform (ShownTree.gesture shown))).toOption := by
  rw [arrange, h]
  cases markBroken session arguments.broken with
  | error error => rfl
  | ok marked =>
    simp only [Except.bind]
    cases marked.perform (ShownTree.gesture shown) <;> rfl

/-! ## The command -/

section

variable {m : Type → Type} [Monad m]

/-- The session a drawing command loads. -/
def loaded (host : Host m) (console : Console) (source : SourceArguments) : m (Option Session) := do
  loadSession host console (← settings host console source)

/-- Goes on with the session that was loaded, unless none was. -/
def withLoaded (host : Host m) (console : Console) (source : SourceArguments)
    (next : Session → m Nat) : m Nat := do
  match ← loaded host console source with
  | none => return 1
  | some session => next session

/-- What a drawing command does with the session it has loaded. -/
def conclude (host : Host m) (console : Console) (arguments : RenderArguments) (session : Session) :
    m Nat := do
  match arrange console session arguments with
  | .error text =>
    host.printError text
    return 1
  | .ok (session, warnings) =>
    host.printError (String.join (warnings.map console.warning))
    if ← deliver host console arguments.output (draw arguments.format session) then
      match arguments.output with
      | none => return 0
      | some path => report host (renderReport console path session.scene) (abort host) (return 0)
    else return 1

theorem render_eq [LawfulMonad m] (host : Host m) (console : Console)
    (arguments : RenderArguments) : render host console arguments =
      withLoaded host console arguments.source (conclude host console arguments) := by
  rw [withLoaded, loaded, bind_assoc, render]
  rfl

end

theorem exists_start_of_loadSession {config : Config} {machine : InMemory}
    (h : ((loadSession InMemory.host console config).run machine).1 = some session) :
    ∃ topo, session = start topo config.layout := by
  rw [loadSession, StateT.run_bind] at h
  cases hload : (InMemory.host.loadTopology config.origin).run machine with
  | mk outcome after =>
    rw [hload] at h
    cases outcome with
    | ok topo => exact ⟨topo, (Option.some.inj h).symm⟩
    | error error => cases h

theorem exists_start_of_loaded {source : SourceArguments} {machine : InMemory}
    (h : ((loaded InMemory.host console source).run machine).1 = some session) :
    ∃ topo layout, session = start topo layout := by
  rw [loaded, StateT.run_bind] at h
  obtain ⟨topo, hstart⟩ := exists_start_of_loadSession h
  exact ⟨topo, _, hstart⟩

theorem render_congr {arguments : RenderArguments} {machine : InMemory}
    (h : ∀ session, ((loaded InMemory.host console arguments.source).run machine).1 = some session →
      markBroken session others = markBroken session arguments.broken) :
    (render InMemory.host console { arguments with broken := others }).run machine =
      (render InMemory.host console arguments).run machine := by
  rw [render_eq, render_eq, withLoaded, withLoaded, StateT.run_bind, StateT.run_bind]
  cases hload : (loaded InMemory.host console arguments.source).run machine with
  | mk outcome after =>
    cases outcome with
    | none => rfl
    | some session =>
      have hmark := h session (by rw [hload])
      have hconclude : conclude InMemory.host console { arguments with broken := others } session =
          conclude InMemory.host console arguments session := by
        rw [conclude, conclude, arrange_congr hmark]
      exact congrArg (StateT.run · after) hconclude

/-- **Marking commutes** with every other gesture, on every view a run leads to. Names that are
accepted one by one are accepted in a row and mark what they stand for. So a drawing command shows
the same session and does the same for every order and repetition of them, and what it shows is what
marking them after showing the tree would lead to. -/
theorem marking_commutes :
    (∀ topo gestures gesture (x : Element),
      let view := viewAfter topo (.ofTopology topo) gestures
      attemptView topo (attemptView topo view x.doubleClick) gesture =
        attemptView topo (attemptView topo view gesture) x.doubleClick) ∧
    (∀ topo layout console (arguments : RenderArguments),
      let fresh := start topo layout
      (∀ name ∈ arguments.broken, fresh.Accepts name) →
      markBroken fresh arguments.broken = .ok (fresh.withBroken arguments.broken) ∧
      (∀ shown, arguments.shown = some shown →
        (arrange console fresh arguments).toOption.map Prod.fst =
          ((fresh.perform (ShownTree.gesture shown)).bind
            (markBroken · arguments.broken)).toOption) ∧
      ∀ others, (∀ name, name ∈ others ↔ name ∈ arguments.broken) →
        arrange console fresh { arguments with broken := others } =
          arrange console fresh arguments) ∧
    ∀ (console : Console) (arguments : RenderArguments) (machine : InMemory),
      (∀ session, ((loaded InMemory.host console arguments.source).run machine).1 = some session →
        ∀ name ∈ arguments.broken, session.Accepts name) →
      ∀ others, (∀ name, name ∈ others ↔ name ∈ arguments.broken) →
        (render InMemory.host console { arguments with broken := others }).run machine =
          (render InMemory.host console arguments).run machine := by
  have hfresh : ∀ topo layout, (start topo layout).view.Of topo := fun topo _ =>
    View.of_ofTopology topo
  refine ⟨fun topo gestures gesture x => ?_, ?_, ?_⟩
  · exact attemptView_marked (of_viewAfter (View.of_ofTopology topo) gestures) gesture [x]
  · intro topo layout console arguments fresh haccepts
    refine ⟨markBroken_eq_ok (hfresh topo layout) haccepts, fun shown hshown => ?_,
      fun others hsame => ?_⟩
    · rw [arrange_shown arguments shown hshown, markBroken_perform (hfresh topo layout) haccepts]
    · exact arrange_congr (markBroken_congr (hfresh topo layout) haccepts hsame)
  · intro console arguments machine haccepts others hsame
    refine render_congr fun session hload => ?_
    obtain ⟨topo, layout, rfl⟩ := exists_start_of_loaded hload
    exact markBroken_congr (hfresh topo layout) (haccepts _ hload) hsame

/-- A machine with the documents of two cells and the link between them. -/
def pair : InMemory :=
  let place (col : Nat) : Json := .ofFields [("row", .ofNat 0), ("col", .ofNat col)]
  let far : Json := .ofFields [("cell_name", .ofText "B"), ("port", .ofNat 1)]
  let neighbors : Json := .ofFields [("neighbors", .ofFields [("0", far)])]
  let geometry : Json :=
    .ofFields [("geometry", .ofFields [("rowcol", .ofFields [("A", place 0), ("B", place 1)])])]
  let topology : Json :=
    .ofFields [("appcells", .ofFields [("A", .ofFields [("neighbors", neighbors)])])]
  { files :=
      { nodes := Std.ExtTreeMap.ofList
          [(["geometry.json"], .file geometry.compact.toUTF8),
            (["topology.json"], .file topology.compact.toUTF8)]
          compare } }

/-- The command draws the same for the pair, and the same session for the fork, when a cell and a
link are marked in another order and one of them twice. -/
theorem marking_commutes_pair :
    let arguments : RenderArguments :=
      { source := { location := some "." }, shown := some (.blackOf ⟨"A"⟩)
        broken := ["A", "A:P0-B:P1"] }
    (∃ session ∈ ((loaded InMemory.host {} arguments.source).run pair).1,
      ∀ name ∈ arguments.broken, session.Accepts name) ∧
    (render InMemory.host {} { arguments with broken := ["A:P0-B:P1", "A", "A"] }).run pair =
      (render InMemory.host {} arguments).run pair ∧
    let fresh := start Topology.fork {}
    let arguments := { arguments with broken := ["B", "A:P1-B:P0"] }
    (∀ name ∈ arguments.broken, fresh.Accepts name) ∧
    (arrange {} fresh arguments).toOption.map Prod.fst =
      ((fresh.perform (.clickNode ⟨"A"⟩)).bind (markBroken · arguments.broken)).toOption ∧
    arrange {} fresh { arguments with broken := ["A:P1-B:P0", "B", "B"] } =
      arrange {} fresh arguments := by
  intro arguments
  have hpair : ∃ session ∈ ((loaded InMemory.host {} arguments.source).run pair).1,
      ∀ name ∈ arguments.broken, session.Accepts name := by decide +kernel
  obtain ⟨-, harrange, hrender⟩ := marking_commutes
  refine ⟨hpair, ?_, ?_⟩
  · refine hrender {} arguments pair (fun session hload => ?_) _ (by simp [arguments, or_comm])
    obtain ⟨loaded, hloaded, haccepts⟩ := hpair
    rw [Option.mem_def, hload, Option.some.injEq] at hloaded
    exact hloaded ▸ haccepts
  · intro fresh arguments
    have haccepts : ∀ name ∈ arguments.broken, fresh.Accepts name := by decide +kernel
    obtain ⟨-, hshown, hsame⟩ := harrange Topology.fork {} {} arguments haccepts
    exact ⟨haccepts, hshown _ rfl, hsame _ (by simp [arguments, or_comm])⟩

end Program

end CellNet
