import CellNet.Proofs.Interleaving
import CellNet.Proofs.TwoSided

/-!
# What callers and requests make of a server

**Theorem (`Run.account`).** However the steps of any number of callers and the answers to requests
come one after another, the state reached can be told from the steps (`Account`). At most one load
is in progress, and a caller that comes meanwhile is refused and changes nothing. What is shown is a
fresh session on the topology of the latest load that was stored, with the gestures carried out
since; nothing is shown before that. A load that fails leaves what is shown as it is. While no load
is in progress, the error kept is that of the last load that ended, if it failed.

There is one lemma for what a step does to what is shown (`Step.session_cases`) and one for what it
does to the error kept (`Step.error_cases`); the theorem follows by induction on the run. Between
storing and clearing, a new session is shown beside an old error, so what is kept is told from the
stage of the caller that has settled, if there is one (`Noted`).
-/

namespace CellNet.Server

variable {setup : Setup} {traffic next : Traffic} {label : Label} {labels : List Label}

/-! ## The session -/

/-- What is shown after steps with these labels. -/
inductive Shows (setup : Setup) (labels : List Label) : Option Session → Prop
  | nothing (h : ∀ caller topo, .stored caller topo ∉ labels) : Shows setup labels none
  | since {before after : List Label} {caller : Nat} {topo : Topology} {session : Session}
    (hlabels : labels = before ++ .stored caller topo :: after)
    (hloaded : .loaded caller (.ok topo) ∈ before)
    (hlatest : ∀ caller topo, .stored caller topo ∉ after)
    (hsession : (after.filterMap Label.gesture?).foldlM Session.perform
      (.start topo setup.layout) = .ok session) :
    Shows setup labels (some session)

/-- What is shown goes on from step to step until another session is stored. -/
theorem Shows.snoc_of_quiet {shown : Option Session} (h : Shows setup labels shown)
    (hquiet : label.IsQuiet) : Shows setup (labels ++ [label]) shown := by
  cases h with
  | nothing h => exact .nothing fun caller topo => by simp [h, (hquiet.ne_stored caller topo).symm]
  | since hlabels hloaded hlatest hsession =>
    refine .since (by rw [hlabels, List.append_assoc, List.cons_append]) hloaded
      (fun caller topo => by simp [hlatest, (hquiet.ne_stored caller topo).symm]) ?_
    rwa [List.filterMap_append, List.filterMap_cons_none hquiet.gesture?_eq_none,
      List.filterMap_nil, List.append_nil]

theorem Shows.snoc_of_gesture {session next : Session} {gesture : Gesture}
    (h : Shows setup labels (some session)) (hgesture : label.gesture? = some gesture)
    (hnext : session.perform gesture = .ok next) :
    Shows setup (labels ++ [label]) (some next) := by
  cases h with
  | since hlabels hloaded hlatest hsession =>
    refine .since (by rw [hlabels, List.append_assoc, List.cons_append]) hloaded
      (fun caller topo hmem => ?_) ?_
    · obtain hmem | rfl := by simpa using hmem
      · exact hlatest caller topo hmem
      · cases hgesture
    · rw [List.filterMap_append, List.filterMap_cons_some hgesture, List.filterMap_nil,
        List.foldlM_append, hsession]
      exact congrArg (· >>= pure) hnext

theorem Shows.eq_none_iff {shown : Option Session} (h : Shows setup labels shown) :
    shown = none ↔ ∀ caller topo, .stored caller topo ∉ labels := by
  cases h with
  | nothing h => exact iff_of_true rfl h
  | @since _ _ caller topo _ hlabels =>
    refine iff_of_false nofun fun hnone => hnone caller topo ?_
    rw [hlabels]
    exact List.mem_append_right _ List.mem_cons_self

theorem Run.shows (h : Run setup {} labels traffic) :
    Shows setup labels traffic.server.session := by
  induction h with
  | nil => exact .nothing fun _ _ => List.not_mem_nil
  | @snoc labels traffic next label h hstep ih =>
    obtain ⟨caller, topo, rfl, hstage, hnext⟩ | ⟨hquiet, hsame⟩ |
      ⟨gesture, session, after, hgesture, hsession, hafter, hnext⟩ := hstep.session_cases
    · have hloaded : .loaded caller (.ok topo) ∈
          labels.filter (·.caller? = some caller) := by
        rw [h.history_eq, hstage]
        simp [history]
      rw [hnext]
      exact .since rfl (List.mem_of_mem_filter hloaded) (fun _ _ => List.not_mem_nil) rfl
    · rw [hsame]
      exact ih.snoc_of_quiet hquiet
    · rw [hnext]
      rw [hsession] at ih
      exact ih.snoc_of_gesture hgesture hafter

/-! ## The error kept -/

/-- The text of the error of a load that failed. -/
def failureText : Except LoadFailure Topology → Option String
  | .ok _ => none
  | .error error => some error.message

/-- A step settles a caller, or ends a load, or touches neither the error kept nor who has
settled. -/
theorem Step.error_cases (h : Step setup traffic label next) :
    (∃ caller outcome, next.stage caller = .settled outcome ∧
        next.server.lastError = failureText outcome) ∨
      (∃ caller outcome, label = .released caller outcome ∧
        traffic.stage caller = .settled outcome ∧ next.stage caller = .done outcome ∧
        next.server.lastError = traffic.server.lastError) ∨
      label.outcome? = none ∧ next.server.lastError = traffic.server.lastError ∧
        ∀ other outcome, next.stage other = .settled outcome ↔
          traffic.stage other = .settled outcome := by
  have hmove : ∀ {caller stage server}, (∀ outcome, stage ≠ .settled outcome) →
      (∀ outcome, traffic.stage caller ≠ .settled outcome) → ∀ other outcome,
        (traffic.move caller stage server).stage other = .settled outcome ↔
          traffic.stage other = .settled outcome := fun hstage hbefore other outcome =>
    stage_move_iff (p := (· = .settled outcome)) (iff_of_false (hstage _) (hbefore _)) other
  cases h with
  | begin h hbegin =>
    obtain ⟨-, rfl⟩ := begin?_eq_some_iff.1 hbegin
    exact Or.inr (Or.inr ⟨rfl, rfl, hmove (by simp) (by simp [h])⟩)
  | clear | fail => exact Or.inl ⟨_, _, stage_move_self, rfl⟩
  | release h => exact Or.inr (Or.inl ⟨_, _, rfl, h, stage_move_self, rfl⟩)
  | answer h => exact Or.inr (Or.inr ⟨rfl, (receive_keeps h).2, fun _ _ => Iff.rfl⟩)
  | refuse h | load h | store h =>
    exact Or.inr (Or.inr ⟨rfl, rfl, hmove (by simp) (by simp [h])⟩)

/-- The error kept is that of the caller that has settled, and if none has, that of the load that
ended last. -/
structure Noted (labels : List Label) (traffic : Traffic) : Prop where
  settled : ∀ {caller : Nat} {outcome : Except LoadFailure Topology},
    traffic.stage caller = .settled outcome → traffic.server.lastError = failureText outcome
  unsettled : (∀ caller outcome, traffic.stage caller ≠ .settled outcome) →
    traffic.server.lastError = (labels.filterMap Label.outcome?).getLast?.bind failureText

theorem Noted.step (hnoted : Noted labels traffic) (hone : OneAtATime traffic)
    (h : Step setup traffic label next) : Noted (labels ++ [label]) next := by
  obtain ⟨caller, outcome, hsettled, herror⟩ | ⟨caller, outcome, rfl, hsettled, hdone, herror⟩ |
    ⟨houtcome, herror, hsame⟩ := h.error_cases
  · refine ⟨fun {other} {found} hother => ?_, fun hnone => absurd hsettled (hnone _ _)⟩
    obtain rfl := (hone.step h).unique (by rw [hother]; trivial) (by rw [hsettled]; trivial)
    obtain rfl := Stage.settled.inj (hother.symm.trans hsettled)
    exact herror
  · refine ⟨fun {other} {found} hother => ?_, fun _ => ?_⟩
    · have hne : other ≠ caller := by
        rintro rfl
        rw [hdone] at hother
        cases hother
      rw [h.stage_eq fun heq => hne (Option.some.inj heq).symm] at hother
      exact absurd (hone.unique (by rw [hother]; trivial) (by rw [hsettled]; trivial)) hne
    · rw [herror, hnoted.settled hsettled, List.filterMap_append]
      simp [Label.outcome?]
  · refine ⟨fun hother => herror.trans (hnoted.settled ((hsame _ _).1 hother)), fun hnone => ?_⟩
    rw [herror, hnoted.unsettled fun _ _ => mt (hsame _ _).2 (hnone _ _), List.filterMap_append,
      List.filterMap_cons_none houtcome, List.filterMap_nil, List.append_nil]

theorem Run.noted (h : Run setup {} labels traffic) : Noted labels traffic := by
  induction h with
  | nil => exact ⟨nofun, fun _ => rfl⟩
  | snoc h hstep ih => exact ih.step h.oneAtATime hstep

/-! ## The account -/

/-- What can be told of a state from the steps that led to it. -/
structure Account (setup : Setup) (labels : List Label) (traffic : Traffic) : Prop where
  /-- Whatever a request does to the server is a step. -/
  receives : ∀ {caller : Nat}, traffic.stage caller = .idle → ∀ request, ∃ label next,
    Step setup traffic label next ∧ next.server = (traffic.server.receive setup request).1
  /-- A caller that is not disturbed takes over the outcome of its load. -/
  finishes : ∀ {caller : Nat} {outcome : Except LoadFailure Topology},
    traffic.stage caller = .loaded outcome → ∃ more later, Run setup traffic more later ∧
      later.stage caller = .done outcome ∧ later.server = traffic.server.finish setup outcome
  /-- One load at a time. -/
  unique : ∀ {caller other : Nat}, (traffic.stage caller).InFlight →
    (traffic.stage other).InFlight → caller = other
  /-- A caller that comes while a load is in progress can only be refused, and that changes
  nothing. -/
  refused : ∀ {caller busy : Nat}, (traffic.stage busy).InFlight → traffic.stage caller = .idle →
    (∃ next, Step setup traffic (.refused caller) next) ∧
      ∀ label next, Step setup traffic label next → label.caller? = some caller →
        label = .refused caller ∧ next.stage caller = .refused ∧ next.server = traffic.server
  /-- It is told so. -/
  busy : ∀ {busy : Nat} {request : Request}, (traffic.stage busy).InFlight →
    action? request = some .reload →
      traffic.server.receive setup request = (traffic.server, .answer (refusalAnswer .busy))
  /-- Nothing is shown until a load has been stored. -/
  session_eq_none_iff :
    traffic.server.session = none ↔ ∀ caller topo, .stored caller topo ∉ labels
  /-- A session is a fresh one on the topology of the latest load stored, and the gestures carried
  out since. -/
  session_eq_some : ∀ {session : Session}, traffic.server.session = some session →
    ∃ before caller topo after, labels = before ++ .stored caller topo :: after ∧
      .loaded caller (.ok topo) ∈ before ∧ (∀ caller topo, .stored caller topo ∉ after) ∧
      (after.filterMap Label.gesture?).foldlM Session.perform (.start topo setup.layout) =
        .ok session
  /-- Only storing and gestures touch what is shown. -/
  keeps : ∀ {label : Label} {next : Traffic}, Step setup traffic label next → label.IsQuiet →
    next.server.session = traffic.server.session
  /-- A load that fails is not stored, and what is left for its caller to do does not touch what is
  shown. -/
  failed : ∀ {caller : Nat} {error : LoadFailure}, .loaded caller (.error error) ∈ labels →
    (∀ topo, .stored caller topo ∉ labels) ∧
      ∀ label next, Step setup traffic label next → label.caller? = some caller →
        next.server.session = traffic.server.session
  /-- A load ends with the outcome it had. -/
  released : ∀ {caller : Nat} {outcome : Except LoadFailure Topology},
    .released caller outcome ∈ labels → .loaded caller outcome ∈ labels
  /-- While no load is in progress, there is an error if the last load that ended has failed. -/
  lastError_eq_some_iff : (∀ caller, ¬ (traffic.stage caller).InFlight) → ∀ text,
    traffic.server.lastError = some text ↔
      ∃ error, (labels.filterMap Label.outcome?).getLast? = some (.error error) ∧
        error.message = text

/-- **What callers and requests make of a server** can be told from their steps. -/
theorem Run.account (h : Run setup {} labels traffic) : Account setup labels traffic where
  receives := exists_step_receive
  finishes := exists_run_finish
  unique := h.oneAtATime.unique
  refused := by
    intro caller busy hbusy hidle
    have hnone : traffic.server.begin? = none :=
      begin?_eq_none_iff.2 (h.oneAtATime.isLoading_iff.2 ⟨busy, hbusy⟩)
    refine ⟨⟨_, .refuse hidle hnone⟩, fun label next hstep hcaller => ?_⟩
    cases hstep with
    | begin _ hbegin => rw [hnone] at hbegin; cases hbegin
    | refuse => cases hcaller; exact ⟨rfl, stage_move_self, rfl⟩
    | answer => cases hcaller
    | load hstage | store hstage | clear hstage | fail hstage | release hstage =>
      cases hcaller
      rw [hidle] at hstage
      cases hstage
  busy hbusy hload := receive_reload_of_isLoading hload (h.oneAtATime.isLoading_iff.2 ⟨_, hbusy⟩)
  session_eq_none_iff := h.shows.eq_none_iff
  session_eq_some := by
    intro session hsession
    have hshows := h.shows
    rw [hsession] at hshows
    cases hshows with
    | since hlabels hloaded hlatest hsession =>
      exact ⟨_, _, _, _, hlabels, hloaded, hlatest, hsession⟩
  keeps := Step.session_eq
  failed := by
    intro caller error hloaded
    have hstored : ∀ {labels traffic}, Run setup {} labels traffic →
        .loaded caller (.error error) ∈ labels → ∀ topo, .stored caller topo ∉ labels :=
      fun h hloaded topo hstored => by cases h.eq_ok_of_stored hloaded hstored
    refine ⟨hstored h hloaded, fun label next hstep hcaller => hstep.session_eq ⟨?_, ?_⟩⟩
    · cases label with
      | answered => cases hcaller
      | _ => rfl
    · rintro other topo rfl
      obtain rfl := Option.some.inj hcaller
      exact hstored (h.snoc hstep) (List.mem_append_left _ hloaded) topo (by simp)
  released := h.loaded_of_released
  lastError_eq_some_iff := by
    intro hidle text
    have hunsettled : ∀ caller outcome, traffic.stage caller ≠ .settled outcome :=
      fun caller outcome hsettled => hidle caller (by rw [hsettled]; trivial)
    rw [h.noted.unsettled hunsettled, Option.bind_eq_some_iff]
    constructor
    · rintro ⟨outcome, hlast, htext⟩
      cases outcome with
      | ok => cases htext
      | error error => exact ⟨error, hlast, Option.some.inj htext⟩
    · rintro ⟨error, hlast, rfl⟩
      exact ⟨_, hlast, rfl⟩

/-- On the fork: while one caller loads it, another is refused, and a cell is clicked before the
first is done; a third then finds nothing to show. The click stays, and so does the error. -/
theorem Run.account_fork : ∃ reply session traffic,
    Run { title := "Cells" } {} [.began 0, .refused 1, .loaded 0 (.ok .fork), .stored 0 .fork,
      .answered ⟨"POST", "/api/node/A/click"⟩ reply, .cleared 0, .released 0 (.ok .fork), .began 2,
      .loaded 2 (.error (.load .nothingToShow)), .failed 2 (.load .nothingToShow),
      .released 2 (.error (.load .nothingToShow))] traffic ∧
    (Session.start .fork {}).perform (.clickNode ⟨"A"⟩) = .ok session ∧
    traffic.server.session = some session ∧ (∀ caller, ¬ (traffic.stage caller).InFlight) ∧
    traffic.server.lastError = some (LoadFailure.load .nothingToShow).message := by
  let demo : Setup := { title := "Cells" }
  have hevent : event? ⟨"POST", "/api/node/A/click"⟩ = some (.clickNode "A") := by decide +kernel
  cases hclick : (Session.start .fork {}).perform (.clickNode ⟨"A"⟩) with
  | error error =>
    have hview := Session.perform_eq_error_iff.1 hclick
    obtain ⟨hcell, -⟩ := (Session.changeView_eq_error_iff (View.of_ofTopology .fork)).1 hview
    exact absurd (by decide +kernel) hcell
  | ok session =>
    obtain ⟨drawn, hdrawn⟩ := EStateM.outcome_eq_ok_iff.1 hclick
    have hreceive : ∀ {server : Server}, server.session = some (.start .fork {}) →
        server.receive demo ⟨"POST", "/api/node/A/click"⟩ =
          ({ server with session := some session },
            .answer (jsonAnswer 200 (eventJson session.view drawn))) := by
      intro server hserver
      rw [receive_of_event hevent]
      simp only [respond, Event.gesture, answerGesture, run_perform, hserver, hdrawn]
    have hrun : Run demo {} _ _ := Run.nil
      |>.snoc (show Step demo _ (.began 0) _ from .begin rfl rfl)
      |>.snoc (show Step demo _ (.refused 1) _ from .refuse rfl rfl)
      |>.snoc (show Step demo _ (.loaded 0 (.ok .fork)) _ from .load rfl _)
      |>.snoc (show Step demo _ (.stored 0 .fork) _ from .store rfl)
      |>.snoc (.answer (hreceive rfl))
      |>.snoc (show Step demo _ (.cleared 0) _ from .clear rfl)
      |>.snoc (show Step demo _ (.released 0 _) _ from .release rfl)
      |>.snoc (show Step demo _ (.began 2) _ from .begin rfl rfl)
      |>.snoc (show Step demo _ (.loaded 2 (.error (.load .nothingToShow))) _ from .load rfl _)
      |>.snoc (show Step demo _ (.failed 2 _) _ from .fail rfl)
      |>.snoc (show Step demo _ (.released 2 _) _ from .release rfl)
    refine ⟨_, session, _, hrun, rfl, rfl, ?idle,
      (hrun.account.lastError_eq_some_iff ?idle _).2 ⟨.load .nothingToShow, rfl, rfl⟩⟩
    rintro (_ | _ | _ | _) <;> exact id

end CellNet.Server
