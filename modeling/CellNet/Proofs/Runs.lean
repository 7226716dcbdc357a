import CellNet.Proofs.ViewChanges

/-!
# Runs of a session

A run performs a list of gestures, each on whatever the one before has left. A gesture that is
refused has changed nothing (`isAtomic_requestView`). What was done is the list of gestures carried
out, each with the view it was made on (`carriedOut`). A fact about runs relates the view reached to
what was done, and is proved by one induction (`run_induction`): it holds at the start, and every
gesture that is carried out preserves it.

A session keeps its topology and its scene, and its view runs as a view alone does
(`after_eq`).
-/

namespace CellNet.Session

variable {topo : Topology} {view : View}

/-- The view a gesture leaves, granted or refused. -/
def attemptView (topo : Topology) (view : View) (gesture : Gesture) : View :=
  (requestView topo gesture).leaves view

theorem attemptView_of_ok {next : View} {gesture : Gesture}
    (h : changeView topo view gesture = .ok next) : attemptView topo view gesture = next :=
  EStateM.leaves_of_outcome h

theorem attemptView_of_error {gesture : Gesture} {error : ViewError}
    (h : changeView topo view gesture = .error error) : attemptView topo view gesture = view :=
  (isAtomic_requestView topo gesture).leaves_of_outcome h

theorem attemptView_settle (topo : Topology) (view : View) (gesture : Gesture) :
    attemptView topo view (settle view gesture) = attemptView topo view gesture := by
  rw [attemptView, EStateM.leaves, run_settle]
  rfl

def viewAfter (topo : Topology) (view : View) (gestures : List Gesture) : View :=
  gestures.foldl (attemptView topo) view

/-- The gestures that are carried out, each with the view it is made on. -/
def carriedOut (topo : Topology) (view : View) : List Gesture → List (View × Gesture)
  | [] => []
  | gesture :: gestures =>
    let rest := carriedOut topo (attemptView topo view gesture) gestures
    match changeView topo view gesture with
    | .ok _ => (view, gesture) :: rest
    | .error _ => rest

/-- A gesture carried out is one of the run's, granted on the view its predecessors lead to. -/
theorem mem_carriedOut {gestures : List Gesture} {on : View} {gesture : Gesture} :
    (on, gesture) ∈ carriedOut topo view gestures ↔ ∃ before rest next,
      gestures = before ++ gesture :: rest ∧ viewAfter topo view before = on ∧
        changeView topo on gesture = .ok next := by
  induction gestures generalizing view with
  | nil => simp [carriedOut]
  | cons first gestures ih =>
    -- A gesture of the run is its first one, or one of the run from the view after that.
    have hfirst : (on, gesture) ∈ carriedOut topo view (first :: gestures) ↔
        (on = view ∧ gesture = first ∧ ∃ next, changeView topo view first = .ok next) ∨
          (on, gesture) ∈ carriedOut topo (attemptView topo view first) gestures := by
      rw [carriedOut]
      cases changeView topo view first <;> simp
    rw [hfirst, ih]
    constructor
    · rintro (⟨rfl, rfl, next, hnext⟩ | ⟨before, rest, next, rfl, rfl, hnext⟩)
      · exact ⟨[], gestures, next, rfl, rfl, hnext⟩
      · exact ⟨first :: before, rest, next, rfl, rfl, hnext⟩
    · rintro ⟨before, rest, next, hrun, rfl, hnext⟩
      cases before with
      | nil =>
        obtain ⟨rfl, rfl⟩ := List.cons.inj hrun
        exact Or.inl ⟨rfl, rfl, next, hnext⟩
      | cons _ before =>
        obtain ⟨rfl, rfl⟩ := List.cons.inj hrun
        exact Or.inr ⟨before, rest, next, rfl, rfl, hnext⟩

/-- What holds at the start and is preserved by every gesture that is carried out holds of the view
after a run and of what the run has done. -/
theorem run_induction {motive : View → List (View × Gesture) → Prop} (start : motive view [])
    (step : ∀ view next gesture done, motive view done → changeView topo view gesture = .ok next →
      motive next (done ++ [(view, gesture)])) (gestures : List Gesture) :
    motive (viewAfter topo view gestures) (carriedOut topo view gestures) := by
  -- The induction is on the gestures still to come, for every list of gestures already done.
  suffices h : ∀ view done, motive view done →
      motive (viewAfter topo view gestures) (done ++ carriedOut topo view gestures) from
    h view [] start
  clear start
  induction gestures with
  | nil => exact fun view done h => by simpa [viewAfter, carriedOut] using h
  | cons gesture gestures ih =>
    intro view done h
    rw [viewAfter, List.foldl_cons, carriedOut]
    cases hnext : changeView topo view gesture with
    | error _ =>
      rw [attemptView_of_error hnext]
      exact ih view done h
    | ok next =>
      rw [attemptView_of_ok hnext]
      have hdone := ih next (done ++ [(view, gesture)]) (step view next gesture done h hnext)
      rwa [List.append_assoc, List.singleton_append] at hdone

theorem of_viewAfter (hview : view.Of topo) (gestures : List Gesture) :
    (viewAfter topo view gestures).Of topo :=
  run_induction (motive := fun view _ => view.Of topo) hview
    (fun _ _ _ _ hview hok => of_changeView hview hok) gestures

/-! ## Sessions -/

def after (session : Session) (gestures : List Gesture) : Session :=
  gestures.foldl attempt session

theorem run_request (session : Session) (gesture : Gesture) : (request gesture).run session =
    match (requestView session.topology gesture).run session.view with
    | .ok drawn view => .ok drawn { session with view }
    | .error error view => .error error { session with view } := rfl

theorem perform_eq_ok_iff {session next : Session} {gesture : Gesture} :
    session.perform gesture = .ok next ↔
      ∃ view, changeView session.topology session.view gesture = .ok view ∧
        { session with view } = next := by
  rw [perform, changeView, EStateM.outcome, EStateM.outcome, run_request]
  cases (requestView session.topology gesture).run session.view <;> simp

theorem attempt_eq (session : Session) (gesture : Gesture) : session.attempt gesture =
    { session with view := attemptView session.topology session.view gesture } := by
  rw [attempt, attemptView, EStateM.leaves, EStateM.leaves, run_request]
  cases (requestView session.topology gesture).run session.view <;> rfl

theorem after_eq (session : Session) (gestures : List Gesture) : session.after gestures =
    { session with view := viewAfter session.topology session.view gestures } := by
  induction gestures generalizing session with
  | nil => rfl
  | cons gesture gestures ih =>
    show (session.attempt gesture).after gestures = _
    rw [ih, attempt_eq]
    rfl

end CellNet.Session
