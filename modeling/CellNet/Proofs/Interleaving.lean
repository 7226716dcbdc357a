import CellNet.Proofs.Events
import Mathlib.Logic.Function.Basic

/-!
# Many callers at once

Any number of callers ask a server to load again, and between any two steps of theirs it answers
other requests. A caller that is granted its load goes from stage to stage (`Stage`): it waits for
the load, it writes what has come of it, first the session and then that there is no error, or else
the error, and it lets the next load begin. A caller that finds a load in progress is refused.

A run is a list of steps, each with a label that tells what it does (`Run`). The steps leave nothing
out: what a server does when it receives a request is one (`exists_step_receive`), and those of a
caller that is not disturbed come to what `finish` does (`exists_run_finish`).

Two things are kept through every run:

* *one at a time*: a load is in progress for exactly one caller or for none, and the server knows
  which (`OneAtATime`), and
* *history*: the labels of a caller are those its stage tells (`Run.history_eq`).
-/

namespace CellNet.Server

/-! ## Callers and their steps -/

/-- How far a caller has come. -/
inductive Stage where
  /-- Has not asked yet. -/
  | idle
  /-- Waits for its load. -/
  | loading
  | loaded (outcome : Except LoadFailure Topology)
  /-- Has shown the new session, but not written yet that there is no error. -/
  | stored (topo : Topology)
  /-- Has written all that has come of its load, and still keeps others from loading. -/
  | settled (outcome : Except LoadFailure Topology)
  | done (outcome : Except LoadFailure Topology)
  /-- Was told that a load is in progress. -/
  | refused

/-- A load is in progress for the caller. -/
def Stage.InFlight : Stage → Prop
  | .loading | .loaded _ | .stored _ | .settled _ => True
  | .idle | .done _ | .refused => False

/-- A server and its callers. -/
structure Traffic where
  server : Server := {}
  stage : Nat → Stage := fun _ => .idle

/-- One caller goes on to a stage, and leaves the server in a state. -/
def Traffic.move (traffic : Traffic) (caller : Nat) (stage : Stage) (server : Server) : Traffic :=
  ⟨server, Function.update traffic.stage caller stage⟩

/-- What a step does. -/
inductive Label where
  | began (caller : Nat)
  | refused (caller : Nat)
  | loaded (caller : Nat) (outcome : Except LoadFailure Topology)
  | stored (caller : Nat) (topo : Topology)
  | cleared (caller : Nat)
  | failed (caller : Nat) (error : LoadFailure)
  | released (caller : Nat) (outcome : Except LoadFailure Topology)
  | answered (request : Request) (reply : Answer)

namespace Label

def caller? : Label → Option Nat
  | .began caller | .refused caller | .loaded caller _ | .stored caller _ | .cleared caller
  | .failed caller _ | .released caller _ => some caller
  | .answered _ _ => none

def gesture? : Label → Option Gesture
  | .answered request reply => granted? request reply
  | _ => none

def outcome? : Label → Option (Except LoadFailure Topology)
  | .released _ outcome => some outcome
  | _ => none

/-- The step stores no session and carries out no gesture. -/
structure IsQuiet (label : Label) : Prop where
  gesture?_eq_none : label.gesture? = none
  ne_stored : ∀ caller topo, label ≠ .stored caller topo

end Label

/-- One step of a server or of one of its callers. -/
inductive Step (setup : Setup) (traffic : Traffic) : Label → Traffic → Prop
  | begin {caller : Nat} {server : Server} (h : traffic.stage caller = .idle)
    (hbegin : traffic.server.begin? = some server) :
    Step setup traffic (.began caller) (traffic.move caller .loading server)
  | refuse {caller : Nat} (h : traffic.stage caller = .idle)
    (hbusy : traffic.server.begin? = none) :
    Step setup traffic (.refused caller) (traffic.move caller .refused traffic.server)
  | load {caller : Nat} (h : traffic.stage caller = .loading)
    (outcome : Except LoadFailure Topology) :
    Step setup traffic (.loaded caller outcome)
      (traffic.move caller (.loaded outcome) traffic.server)
  | store {caller : Nat} {topo : Topology} (h : traffic.stage caller = .loaded (.ok topo)) :
    Step setup traffic (.stored caller topo)
      (traffic.move caller (.stored topo) (traffic.server.startSession setup topo))
  | clear {caller : Nat} {topo : Topology} (h : traffic.stage caller = .stored topo) :
    Step setup traffic (.cleared caller)
      (traffic.move caller (.settled (.ok topo)) (traffic.server.keepError none))
  | fail {caller : Nat} {error : LoadFailure} (h : traffic.stage caller = .loaded (.error error)) :
    Step setup traffic (.failed caller error)
      (traffic.move caller (.settled (.error error)) (traffic.server.keepError (some error)))
  | release {caller : Nat} {outcome : Except LoadFailure Topology}
    (h : traffic.stage caller = .settled outcome) :
    Step setup traffic (.released caller outcome)
      (traffic.move caller (.done outcome) traffic.server.release)
  | answer {request : Request} {reply : Answer} {server : Server}
    (h : traffic.server.receive setup request = (server, .answer reply)) :
    Step setup traffic (.answered request reply) { traffic with server }

/-- Steps one after the other, with their labels. -/
inductive Run (setup : Setup) (start : Traffic) : List Label → Traffic → Prop
  | nil : Run setup start [] start
  | snoc {labels : List Label} {traffic next : Traffic} {label : Label}
    (h : Run setup start labels traffic) (hstep : Step setup traffic label next) :
    Run setup start (labels ++ [label]) next

variable {setup : Setup} {start traffic next : Traffic} {label : Label} {labels : List Label}
  {caller other : Nat} {stage : Stage} {server : Server} {outcome : Except LoadFailure Topology}

@[simp] theorem stage_move_self : (traffic.move caller stage server).stage caller = stage :=
  Function.update_self ..

theorem stage_move_of_ne (h : other ≠ caller) :
    (traffic.move caller stage server).stage other = traffic.stage other :=
  Function.update_of_ne h ..

/-- A caller that goes from one stage to another alike in some respect changes nothing in that
respect. -/
theorem stage_move_iff {p : Stage → Prop} (h : p stage ↔ p (traffic.stage caller)) (other : Nat) :
    p ((traffic.move caller stage server).stage other) ↔ p (traffic.stage other) := by
  by_cases hother : other = caller
  · rw [hother, stage_move_self, h]
  · rw [stage_move_of_ne hother]

theorem Step.stage_eq (h : Step setup traffic label next) (hother : label.caller? ≠ some other) :
    next.stage other = traffic.stage other := by
  cases h with
  | answer => rfl
  | _ => exact stage_move_of_ne fun heq => hother (congrArg some heq.symm)

/-- What a server does when it receives a request is a step, of the server or of the caller the
request comes from. -/
theorem exists_step_receive (h : traffic.stage caller = .idle) (request : Request) :
    ∃ label next, Step setup traffic label next ∧
      next.server = (traffic.server.receive setup request).1 := by
  cases hreceive : traffic.server.receive setup request with
  | mk server reaction =>
    cases reaction with
    | answer reply => exact ⟨_, _, .answer hreceive, rfl⟩
    | load => exact ⟨_, _, .begin h (begin?_of_receive hreceive), rfl⟩

/-- The steps of a caller that is not disturbed do to a server what taking over the outcome of a
load does. -/
theorem exists_run_finish (h : traffic.stage caller = .loaded outcome) :
    ∃ labels next, Run setup traffic labels next ∧ next.stage caller = .done outcome ∧
      next.server = traffic.server.finish setup outcome := by
  cases outcome with
  | ok topo =>
    have hrun : Run setup traffic _ _ :=
      ((Run.nil.snoc (.store h)).snoc (.clear stage_move_self)).snoc (.release stage_move_self)
    exact ⟨_, _, hrun, stage_move_self, rfl⟩
  | error error =>
    have hrun : Run setup traffic _ _ := (Run.nil.snoc (.fail h)).snoc (.release stage_move_self)
    exact ⟨_, _, hrun, stage_move_self, rfl⟩

/-! ## One load at a time -/

theorem begin?_eq_none_iff : server.begin? = none ↔ server.isLoading = true := by
  rw [begin?]
  split_ifs with h <;> simp [h]

theorem begin?_eq_some_iff {next : Server} : server.begin? = some next ↔
    server.isLoading = false ∧ next = { server with isLoading := true } := by
  rw [begin?]
  split_ifs with h <;> simp [h, eq_comm]

/-- A load is in progress for one caller at most, and the server knows whether there is one. -/
structure OneAtATime (traffic : Traffic) : Prop where
  unique : ∀ {caller other : Nat}, (traffic.stage caller).InFlight →
    (traffic.stage other).InFlight → caller = other
  isLoading_iff : traffic.server.isLoading = true ↔ ∃ caller, (traffic.stage caller).InFlight

/-- A step sets a caller in flight, or ends its flight, or leaves all as they are. -/
theorem Step.flight (h : Step setup traffic label next) :
    (∃ caller, traffic.server.isLoading = false ∧ next.server.isLoading = true ∧
        (next.stage caller).InFlight ∧
        ∀ other, other ≠ caller → next.stage other = traffic.stage other) ∨
      (∃ caller, (traffic.stage caller).InFlight ∧ next.server.isLoading = false ∧
        ¬ (next.stage caller).InFlight ∧
        ∀ other, other ≠ caller → next.stage other = traffic.stage other) ∨
      next.server.isLoading = traffic.server.isLoading ∧
        ∀ other, (next.stage other).InFlight ↔ (traffic.stage other).InFlight := by
  cases h with
  | begin h hbegin =>
    obtain ⟨hfree, rfl⟩ := begin?_eq_some_iff.1 hbegin
    exact Or.inl ⟨_, hfree, rfl, by rw [stage_move_self]; trivial, fun _ => stage_move_of_ne⟩
  | release h =>
    exact Or.inr (Or.inl ⟨_, by rw [h]; trivial, rfl, by rw [stage_move_self]; exact id,
      fun _ => stage_move_of_ne⟩)
  | answer h => exact Or.inr (Or.inr ⟨(receive_keeps h).1, fun _ => Iff.rfl⟩)
  | refuse h | load h | store h | clear h | fail h =>
    exact Or.inr (Or.inr ⟨rfl, stage_move_iff (by rw [h]; exact Iff.rfl)⟩)

theorem OneAtATime.step (hone : OneAtATime traffic) (h : Step setup traffic label next) :
    OneAtATime next := by
  obtain ⟨caller, hfree, hloading, hcaller, hothers⟩ |
    ⟨caller, hcaller, hfree, hdone, hothers⟩ | ⟨hloading, hsame⟩ := h.flight
  · -- Nobody was in flight, so the one that sets out is the only one.
    have honly : ∀ {other}, (next.stage other).InFlight → other = caller := by
      intro other hother
      by_contra hne
      rw [hothers other hne] at hother
      rw [hone.isLoading_iff.2 ⟨other, hother⟩] at hfree
      cases hfree
    exact ⟨fun h h' => (honly h).trans (honly h').symm, fun _ => ⟨caller, hcaller⟩,
      fun _ => hloading⟩
  · -- The one whose flight ends was the only one, so nobody is in flight any more.
    have hnone : ∀ {other}, ¬ (next.stage other).InFlight := by
      intro other hother
      by_cases hne : other = caller
      · exact hdone (hne ▸ hother)
      · exact hne (hone.unique (hothers other hne ▸ hother) hcaller)
    refine ⟨fun h => absurd h hnone, fun h => ?_, fun ⟨_, h⟩ => absurd h hnone⟩
    rw [hfree] at h
    cases h
  · refine ⟨fun h h' => hone.unique ((hsame _).1 h) ((hsame _).1 h'), ?_⟩
    rw [hloading, hone.isLoading_iff]
    exact exists_congr fun other => (hsame other).symm

theorem oneAtATime_start : OneAtATime {} where
  unique h := h.elim
  isLoading_iff := ⟨Bool.noConfusion, fun ⟨_, h⟩ => h.elim⟩

theorem Run.oneAtATime (h : Run setup {} labels traffic) : OneAtATime traffic := by
  induction h with
  | nil => exact oneAtATime_start
  | snoc _ hstep ih => exact ih.step hstep

/-! ## What is shown -/

/-- A step stores a fresh session, or carries out a gesture on the one there is, or leaves it. -/
theorem Step.session_cases (h : Step setup traffic label next) :
    (∃ caller topo, label = .stored caller topo ∧ traffic.stage caller = .loaded (.ok topo) ∧
        next.server.session = some (.start topo setup.layout)) ∨
      (label.IsQuiet ∧ next.server.session = traffic.server.session) ∨
      ∃ gesture session after, label.gesture? = some gesture ∧
        traffic.server.session = some session ∧ session.perform gesture = .ok after ∧
        next.server.session = some after := by
  cases h with
  | begin _ hbegin =>
    obtain ⟨-, rfl⟩ := begin?_eq_some_iff.1 hbegin
    exact Or.inr (Or.inl ⟨⟨rfl, nofun⟩, rfl⟩)
  | store h => exact Or.inl ⟨_, _, rfl, h, rfl⟩
  | refuse | load | clear | fail | release => exact Or.inr (Or.inl ⟨⟨rfl, nofun⟩, rfl⟩)
  | answer h =>
    obtain ⟨hnone, rfl⟩ | ⟨gesture, session, after, hgesture, hsession, hafter, rfl⟩ :=
      receive_eq_answer h
    · exact Or.inr (Or.inl ⟨⟨hnone, nofun⟩, rfl⟩)
    · exact Or.inr (Or.inr ⟨_, _, _, hgesture, hsession, hafter, rfl⟩)

/-- A quiet step leaves what is shown as it is. -/
theorem Step.session_eq (h : Step setup traffic label next) (hquiet : label.IsQuiet) :
    next.server.session = traffic.server.session := by
  obtain ⟨caller, topo, hstored, -⟩ | ⟨-, hsame⟩ | ⟨_, _, _, hgranted, -⟩ := h.session_cases
  · exact absurd hstored (hquiet.ne_stored caller topo)
  · exact hsame
  · rw [hquiet.gesture?_eq_none] at hgranted
    cases hgranted

/-! ## Histories -/

/-- How a caller writes what has come of its load. -/
def writing (caller : Nat) : Except LoadFailure Topology → List Label
  | .ok topo => [.stored caller topo, .cleared caller]
  | .error error => [.failed caller error]

/-- The steps a caller has come through at a stage. -/
def history (caller : Nat) : Stage → List Label
  | .idle => []
  | .loading => [.began caller]
  | .loaded outcome => [.began caller, .loaded caller outcome]
  | .stored topo => [.began caller, .loaded caller (.ok topo), .stored caller topo]
  | .settled outcome => [.began caller, .loaded caller outcome] ++ writing caller outcome
  | .done outcome =>
    [.began caller, .loaded caller outcome] ++ writing caller outcome ++ [.released caller outcome]
  | .refused => [.refused caller]

theorem Step.history_eq (h : Step setup traffic label next) (caller : Nat) :
    history caller (next.stage caller) = history caller (traffic.stage caller) ++
      [label].filter (·.caller? = some caller) := by
  by_cases hcaller : label.caller? = some caller
  · rw [List.filter_cons_of_pos (by simpa using hcaller), List.filter_nil]
    cases h with
    | answer => cases hcaller
    | begin h | refuse h | load h | store h | clear h | fail h | release h =>
      cases hcaller
      rw [stage_move_self, h]
      rfl
  · rw [h.stage_eq hcaller, List.filter_cons_of_neg (by simpa using hcaller), List.filter_nil,
      List.append_nil]

/-- The labels of a caller are those its stage tells. -/
theorem Run.history_eq (h : Run setup {} labels traffic) (caller : Nat) :
    labels.filter (·.caller? = some caller) = history caller (traffic.stage caller) := by
  induction h with
  | nil => rfl
  | snoc _ hstep ih => rw [List.filter_append, ih, hstep.history_eq]

theorem Run.mem_iff (h : Run setup {} labels traffic) (hlabel : label.caller? = some caller) :
    label ∈ labels ↔ label ∈ history caller (traffic.stage caller) := by
  rw [← h.history_eq, List.mem_filter]
  simp [hlabel]

theorem Run.eq_ok_of_stored (h : Run setup {} labels traffic)
    (hloaded : .loaded caller outcome ∈ labels) {topo : Topology}
    (hstored : .stored caller topo ∈ labels) : outcome = .ok topo := by
  rw [h.mem_iff rfl] at hloaded hstored
  cases hstage : traffic.stage caller with
  | idle | loading | loaded | refused => simp [hstage, history] at hstored
  | stored =>
    obtain rfl : outcome = .ok _ := by simpa [hstage, history] using hloaded
    obtain rfl : topo = _ := by simpa [hstage, history] using hstored
    rfl
  | settled written | done written =>
    obtain rfl : outcome = written := by
      cases written <;> simpa [hstage, history, writing] using hloaded
    cases outcome with
    | ok => simpa [hstage, history, writing, eq_comm] using hstored
    | error => simp [hstage, history, writing] at hstored

/-- A load ends with the outcome it had. -/
theorem Run.loaded_of_released (h : Run setup {} labels traffic)
    (hreleased : .released caller outcome ∈ labels) : .loaded caller outcome ∈ labels := by
  rw [h.mem_iff rfl] at hreleased ⊢
  cases hstage : traffic.stage caller with
  | idle | loading | loaded | stored | refused => simp [hstage, history] at hreleased
  | settled written => cases written <;> simp [hstage, history, writing] at hreleased
  | done written =>
    obtain rfl : outcome = written := by
      cases written <;> simpa [hstage, history, writing] using hreleased
    simp [history]

end CellNet.Server
