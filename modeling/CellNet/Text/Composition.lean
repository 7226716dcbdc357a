import CellNet.Text.CombiningClass
import CellNet.Text.Composite

/-!
# Composed texts

Texts that differ only in how characters are composed, or in the order of marks that do not touch,
are the same to a reader. `compose` gives the form in which everything is composed that can be:
first all characters are taken apart, then marks are put in the order of their classes, and then
each starter, a character of class zero, is composed with the marks and starters behind it.
-/

namespace CellNet.Text

/-! ## Taking apart -/

/-- How often the parts of a character are composite again, at most. -/
def compositeDepth : Nat := 2

/-- Takes a character apart, and its first part too. -/
def decomposeChar : Nat → Char → List Char
  | 0, c => [c]
  | depth + 1, c =>
    match compositeParts? c with
    | some (first, second) => decomposeChar depth first ++ decomposeChar depth second
    | none => [c]

/-- Puts a mark behind those that it has to follow; the text in front is given last first. -/
def placeMark (c : Char) : List Char → List Char
  | [] => [c]
  | d :: before =>
    if 0 < combiningClass c ∧ combiningClass c < combiningClass d then d :: placeMark c before
    else c :: d :: before

/-- A text with every character taken apart and the marks in order. -/
def decompose (text : List Char) : List Char :=
  ((text.flatMap (decomposeChar compositeDepth)).foldl (fun before c => placeMark c before)
    []).reverse

/-! ## Putting together -/

/-- The text so far, last first. -/
structure Composer where
  done : List Char := []
  /-- The last starter. -/
  starter : Option Char := none
  /-- What stands behind the starter and was not composed with it. -/
  marks : List Char := []

namespace Composer

/-- All that there is, last first. -/
def all (composer : Composer) : List Char :=
  composer.marks ++ composer.starter.toList ++ composer.done

/-- Whether nothing keeps a character from the starter: each mark in between has a lower class. -/
def isNear (composer : Composer) (c : Char) : Bool :=
  match composer.marks with
  | [] => true
  | mark :: _ => combiningClass mark < combiningClass c

def add (composer : Composer) (c : Char) : Composer :=
  let composed := (composer.starter.filter fun _ => composer.isNear c).bind (compositeOf? · c)
  match composed with
  | some composite => { composer with starter := some composite }
  | none =>
    if combiningClass c = 0 then { done := composer.all, starter := some c }
    else { composer with marks := c :: composer.marks }

end Composer

/-- A text with everything composed that can be. -/
def compose (text : List Char) : List Char :=
  ((decompose text).foldl Composer.add {}).all.reverse

end CellNet.Text
