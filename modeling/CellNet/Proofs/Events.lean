import CellNet.Server
import CellNet.Proofs.Refusals

/-!
# Events

An event is a request to do something to the session: to reset it, or to click or show what a path
names. An event comes down to a gesture, unless it should name a link and its text names none; that
is found out before the session is looked at. So there are four ways to be answered
(`Event.Owes`): the text names no link, there is no session, the session has nothing of that name,
or the gesture is carried out.

A request that is answered has either carried out a gesture on the session, which is then known from
the request and the status of the answer (`granted?`), or has left the server as it was
(`receive_eq_answer`). A request to load again is answered only when it is refused.
-/

namespace CellNet

namespace Server

/-- A request about the session. The name in its path is decoded. -/
inductive Event where
  | reset
  | clickNode (name : String)
  | doubleClickNode (name : String)
  | clickLink (name : String)
  | doubleClickLink (name : String)
  | showStacked (name : String)
deriving DecidableEq, Repr

/-- The event an action stands for, if its name can be decoded. -/
def Action.event? : Action → Option Event
  | .page | .scene | .reload => none
  | .reset => some .reset
  | .clickNode name => (Url.decodeText? name).map .clickNode
  | .doubleClickNode name => (Url.decodeText? name).map .doubleClickNode
  | .clickLink name => (Url.decodeText? name).map .clickLink
  | .doubleClickLink name => (Url.decodeText? name).map .doubleClickLink
  | .showStacked name => (Url.decodeText? name).map .showStacked

/-- What a request asks for: the action of its path, if that answers to its method. -/
def action? (request : Request) : Option Action :=
  (Action.ofPath? (path request)).filter fun action => request.method = action.method

def event? (request : Request) : Option Event := (action? request).bind Action.event?

namespace Event

/-- The gesture an event comes down to; there is none if its text should name a link and does
not. -/
def gesture : Event → Except Refusal Gesture
  | .reset => .ok .reset
  | .clickNode name => .ok (.clickNode ⟨name⟩)
  | .doubleClickNode name => .ok (.doubleClickNode ⟨name⟩)
  | .clickLink name => (linkNamed name).map .clickLink
  | .doubleClickLink name => (linkNamed name).map .doubleClickLink
  | .showStacked name => .ok (.showStacked ⟨name⟩)

/-- The text of an event should name a link, and names none. -/
def IsUnreadable : Event → Prop
  | .clickLink name | .doubleClickLink name => LinkId.read? name = none
  | .reset | .clickNode _ | .doubleClickNode _ | .showStacked _ => False

/-- A topology has nothing that an event names: no such cell, no link drawn under that name, or no
root for the stacked tree. -/
def NamesUnknown (topo : Topology) : Event → Prop
  | .reset => False
  | .clickNode name | .doubleClickNode name => (⟨name⟩ : CellId) ∉ topo.cells
  | .clickLink name | .doubleClickLink name =>
    ∀ link, LinkId.read? name = some link → ¬ topo.IsDrawn link
  | .showStacked name => ¬ ∃ id, topo.IsRoot .stacked ⟨name⟩ id

/-- The status an event has to be answered with. The text is looked at before the session, and the
session before what it shows. -/
inductive Owes (event : Event) : Option Session → Nat → Prop
  | unreadable (session : Option Session) (h : event.IsUnreadable) : Owes event session 404
  | notLoaded (h : ¬ event.IsUnreadable) : Owes event none 503
  | unknown (session : Session) (h : ¬ event.IsUnreadable)
      (hunknown : event.NamesUnknown session.topology) : Owes event (some session) 404
  | granted (session : Session) (h : ¬ event.IsUnreadable)
      (hknown : ¬ event.NamesUnknown session.topology) : Owes event (some session) 200

end Event

variable {setup : Setup} {server next : Server} {request : Request} {reply : Answer}
  {action : Action} {event : Event}

/-! ## From requests to events -/

/-- Answers an event. -/
def respond (server : Server) (event : Event) : Server × Answer :=
  match event.gesture with
  | .error refusal => (server, refusalAnswer refusal)
  | .ok gesture => server.answerGesture gesture

theorem action?_eq_some_iff : action? request = some action ↔
    Action.ofPath? (path request) = some action ∧ request.method = action.method := by
  simp [action?, Option.filter_eq_some_iff]

theorem receive_of_action (h : action? request = some action) :
    server.receive setup request = server.act setup action := by
  obtain ⟨hpath, hmethod⟩ := action?_eq_some_iff.1 h
  have hoptions : request.method ≠ "OPTIONS" := by
    rw [hmethod]
    cases action <;> simp [Action.method]
  simp only [receive, if_neg hoptions, hpath, if_pos hmethod]

theorem exists_receive_of_no_action (hnone : action? request = none) :
    ∃ reply, server.receive setup request = (server, .answer reply) := by
  rw [receive]
  split_ifs with hoptions
  · exact ⟨_, rfl⟩
  · cases hpath : Action.ofPath? (path request) with
    | none => exact ⟨_, rfl⟩
    | some action =>
      have hmethod : request.method ≠ action.method := fun hmethod => by
        rw [action?_eq_some_iff.2 ⟨hpath, hmethod⟩] at hnone
        cases hnone
      simp only [if_neg hmethod]
      split_ifs with hhead
      · -- Only what answers to `GET` has a head, and that is always answered.
        cases action with
        | page | scene => exact ⟨_, rfl⟩
        | _ => exact absurd hhead.2 (by simp [Action.method])
      · exact ⟨_, rfl⟩

/-- A name that can be decoded makes an event, which is answered as such. -/
theorem answerNamed_of_event (parameter : String) {name : String} (make : String → Event)
    (h : (Url.decodeText? name).map make = some event) :
    (server.answerNamed parameter name fun name => (make name).gesture) = server.respond event := by
  obtain ⟨decoded, hdecoded, rfl⟩ := Option.map_eq_some_iff.1 h
  simp only [answerNamed, hdecoded]
  rfl

theorem answerNamed_of_undecoded {parameter name : String} {make : String → Event}
    {gesture : String → Except Refusal Gesture} (h : (Url.decodeText? name).map make = none) :
    server.answerNamed parameter name gesture = (server, refusalAnswer (.badName parameter)) := by
  simp only [answerNamed, Option.map_eq_none_iff.1 h]

theorem act_of_event (h : action.event? = some event) : server.act setup action =
    ((server.respond event).1, .answer (server.respond event).2) := by
  cases action with
  | page | scene | reload => cases h
  | reset => cases h; rfl
  | clickNode => exact congrArg act.answered (answerNamed_of_event "id" .clickNode h)
  | doubleClickNode => exact congrArg act.answered (answerNamed_of_event "id" .doubleClickNode h)
  | clickLink => exact congrArg act.answered (answerNamed_of_event "id" .clickLink h)
  | doubleClickLink => exact congrArg act.answered (answerNamed_of_event "id" .doubleClickLink h)
  | showStacked => exact congrArg act.answered (answerNamed_of_event "tree" .showStacked h)

/-- An action that is no event leaves the server as it was, unless it begins a load. -/
theorem act_of_no_event (hnone : action.event? = none)
    (h : server.act setup action = (next, .answer reply)) : next = server := by
  cases action with
  | page | scene => cases h; rfl
  | reload =>
    rw [act] at h
    split at h <;> cases h
    rfl
  | reset => cases hnone
  | clickNode | doubleClickNode | clickLink | doubleClickLink | showStacked =>
    rw [act, answerNamed_of_undecoded hnone] at h
    cases h
    rfl

theorem receive_of_event (h : event? request = some event) : server.receive setup request =
    ((server.respond event).1, .answer (server.respond event).2) := by
  obtain ⟨action, haction, hevent⟩ := Option.bind_eq_some_iff.1 h
  rw [receive_of_action haction, act_of_event hevent]

theorem receive_of_no_event (hnone : event? request = none)
    (h : server.receive setup request = (next, .answer reply)) : next = server := by
  cases haction : action? request with
  | none =>
    obtain ⟨_, hreply⟩ := exists_receive_of_no_action haction
    rw [hreply] at h
    cases h
    rfl
  | some action =>
    rw [event?, haction, Option.bind_some] at hnone
    rw [receive_of_action haction] at h
    exact act_of_no_event hnone h

theorem begin?_of_receive (h : server.receive setup request = (next, .load)) :
    server.begin? = some next := by
  cases haction : action? request with
  | none =>
    obtain ⟨_, hreply⟩ := exists_receive_of_no_action haction
    rw [hreply] at h
    cases h
  | some action =>
    rw [receive_of_action haction] at h
    cases action with
    | reload =>
      rw [act] at h
      split at h
      · cases h
      · cases h; assumption
    | _ => cases h

/-- While a load is in progress, a request for another is refused and changes nothing. -/
theorem receive_reload_of_isLoading (hload : action? request = some .reload)
    (hbusy : server.isLoading = true) :
    server.receive setup request = (server, .answer (refusalAnswer .busy)) := by
  rw [receive_of_action hload, act, begin?, if_pos hbusy]

theorem refusal_status_ne_ok (refusal : Refusal) : (refusalAnswer refusal).status ≠ 200 := by
  cases refusal with
  | badName | busy | view => simp [refusalAnswer, jsonAnswer, Refusal.status]
  | load failure =>
    rcases failure with reason | error | _ <;> simp [refusalAnswer, jsonAnswer, Refusal.status]

theorem linkNamed_cases (name : String) :
    (LinkId.read? name = none ∧ linkNamed name = .error (.view (.unknownLink name))) ∨
      ∃ link, LinkId.read? name = some link ∧ linkNamed name = .ok link := by
  rw [linkNamed]
  cases LinkId.read? name with
  | none => exact Or.inl ⟨rfl, rfl⟩
  | some link => exact Or.inr ⟨link, rfl, rfl⟩

/-- An event comes down to a gesture if its text can be read, and then the gesture is refused for
what the topology does not have. -/
theorem Event.gesture_cases (event : Event) :
    (event.IsUnreadable ∧ ∃ error, event.gesture = .error (.view error)) ∨
      ¬ event.IsUnreadable ∧ ∃ gesture, event.gesture = .ok gesture ∧
        ∀ topo, (∃ error, Session.Refused topo gesture error) ↔ event.NamesUnknown topo := by
  cases event with
  | reset => exact Or.inr ⟨id, _, rfl, fun topo => by simp [Session.Refused, NamesUnknown]⟩
  | clickNode | doubleClickNode | showStacked =>
    exact Or.inr ⟨id, _, rfl, fun topo => by simp [Session.Refused, NamesUnknown]⟩
  | clickLink name | doubleClickLink name =>
    obtain ⟨hread, hnamed⟩ | ⟨link, hread, hnamed⟩ := linkNamed_cases name
    · exact Or.inl ⟨hread, _, congrArg (Except.map _) hnamed⟩
    · refine Or.inr ⟨by simp [IsUnreadable, hread], _, congrArg (Except.map _) hnamed,
        fun topo => ?_⟩
      simp [Session.Refused, NamesUnknown, hread]

theorem run_perform (server : Server) (gesture : Gesture) : (perform gesture).run server =
    match server.session with
    | none => .error notLoaded server
    | some session =>
      match (Session.request gesture).run session with
      | .error error session => .error (.view error) { server with session := some session }
      | .ok drawn session => .ok (session.view, drawn) { server with session := some session } :=
  rfl

/-- How an event may be answered, and what becomes of the server. -/
inductive Response (server : Server) (event : Event) : Server × Answer → Prop
  | unreadable (h : event.IsUnreadable) (error : ViewError) :
    Response server event (server, refusalAnswer (.view error))
  | notLoaded (h : ¬ event.IsUnreadable) (hnone : server.session = none) :
    Response server event (server, refusalAnswer notLoaded)
  | refused (h : ¬ event.IsUnreadable)
    {session : Session} (hsession : server.session = some session)
    {gesture : Gesture} (hgesture : event.gesture = .ok gesture)
    {error : ViewError} (herror : session.perform gesture = .error error) :
    Response server event (server, refusalAnswer (.view error))
  | granted (h : ¬ event.IsUnreadable)
    {session : Session} (hsession : server.session = some session)
    {gesture : Gesture} (hgesture : event.gesture = .ok gesture)
    {after : Session} (hafter : session.perform gesture = .ok after) (drawn : Option Highlight) :
    Response server event
      ({ server with session := some after }, jsonAnswer 200 (eventJson after.view drawn))

theorem response_respond (server : Server) (event : Event) :
    Response server event (server.respond event) := by
  obtain ⟨hunreadable, error, hgesture⟩ | ⟨hreadable, gesture, hgesture, -⟩ := event.gesture_cases
  · rw [respond, hgesture]
    exact .unreadable hunreadable error
  · simp only [respond, hgesture, answerGesture, run_perform]
    cases hsession : server.session with
    | none => exact .notLoaded hreadable hsession
    | some session =>
      cases hrun : (Session.request gesture).run session with
      | error error left =>
        -- The session is put where it was, and it is what it was.
        obtain rfl := Session.isAtomic_request gesture hrun
        have hsame : { server with session := some left } = server := by rw [← hsession]
        simp only [hrun, hsame]
        exact .refused hreadable hsession hgesture (EStateM.outcome_eq_error_iff.2 ⟨left, hrun⟩)
      | ok drawn after =>
        simp only [hrun]
        exact .granted hreadable hsession hgesture (EStateM.outcome_eq_ok_iff.2 ⟨drawn, hrun⟩) drawn

/-- The gesture a request has carried out, if it was answered that it has. -/
def granted? (request : Request) (reply : Answer) : Option Gesture :=
  if reply.status = 200 then (event? request).bind fun event => event.gesture.toOption else none

/-- A request that is answered has carried out a gesture, or left the server as it was. -/
theorem receive_eq_answer (h : server.receive setup request = (next, .answer reply)) :
    (granted? request reply = none ∧ next = server) ∨
      ∃ gesture session after, granted? request reply = some gesture ∧
        server.session = some session ∧ session.perform gesture = .ok after ∧
        next = { server with session := some after } := by
  cases hevent : event? request with
  | none => exact Or.inl ⟨by simp [granted?, hevent], receive_of_no_event hevent h⟩
  | some event =>
    rw [receive_of_event hevent] at h
    have hrefused : ∀ refusal, granted? request (refusalAnswer refusal) = none := fun refusal =>
      if_neg (refusal_status_ne_ok refusal)
    have hresponse := response_respond server event
    generalize server.respond event = response at h hresponse
    cases hresponse with
    | unreadable | notLoaded | refused =>
      cases h
      exact Or.inl ⟨hrefused _, rfl⟩
    | granted _ hsession hgesture hafter drawn =>
      cases h
      refine Or.inr ⟨_, _, _, ?_, hsession, hafter, rfl⟩
      simp [granted?, hevent, hgesture, jsonAnswer, Except.toOption]

/-- Answering neither begins or ends a load nor touches what is kept of the last error. -/
theorem receive_keeps (h : server.receive setup request = (next, .answer reply)) :
    next.isLoading = server.isLoading ∧ next.lastError = server.lastError := by
  obtain ⟨-, rfl⟩ | ⟨gesture, session, after, -, -, -, rfl⟩ := receive_eq_answer h
  · exact ⟨rfl, rfl⟩
  · exact ⟨rfl, rfl⟩

end Server

end CellNet
