import CellNet.DomainName.Direction
import CellNet.DomainName.Joining
import CellNet.DomainName.Mapping
import CellNet.Text.Composition
import CellNet.Text.Mark
import CellNet.Text.Punycode
import CellNet.Text.Split

/-!
# Names of servers

A name is made of labels with dots between. Servers go by names in ASCII; a label with other
characters goes by its Punycode behind the letters `xn--`. A name is read in steps. **Characters**
are replaced by those that stand for them, which makes dots of some. **Composition** makes the text
one of composed characters. **Labels** in Punycode are read, and all are checked: they must not
begin in a mark, joiners have to be where they belong, and directions have to go together. A name
that fails a check is refused as a whole.

Nothing is said about lengths and hyphens, and labels may be empty.
-/

namespace CellNet.DomainName

/-- A label that was read. -/
structure Label where
  /-- The label for readers. -/
  text : List Char
  /-- The label in ASCII. -/
  ascii : List Char
deriving DecidableEq, Repr

/-- What a label in Punycode begins with. -/
def punycodeStart : List Char := "xn--".toList

/-- The longest text that is written in Punycode. -/
def textLimit : Nat := 1000

/-- The longest Punycode that is read. -/
def punycodeLimit : Nat := 2000

/-- Characters no name may contain. -/
def isForbidden (c : Char) : Bool :=
  c.toNat ≤ 0x20 || c.toNat = 0x7f || c ∈ "#/:<>?@[\\]^|%".toList

/-- Whether a label may stand in a name. -/
def isSound (text : List Char) : Bool :=
  !text.any isForbidden && !text.head?.any Text.isMark && joinersFit [] text

/-- Reads the Punycode of a label. It has to stand for characters that are not all ASCII, that stand
for themselves, and that are composed already. -/
def readPunycode? (punycode : List Char) : Option (List Char) :=
  if punycode.getLastD '-' = '-' ∨ punycode.length > punycodeLimit then none
  else (Text.Punycode.decode? punycode).filter fun text =>
    text.all isKept && Text.compose text = text && !punycodeStart.isPrefixOf text

def label? (text : List Char) : Option Label :=
  let label? :=
    if punycodeStart.isPrefixOf text then
      (readPunycode? (text.drop punycodeStart.length)).map fun read => ⟨read, text⟩
    else if text.all Text.Punycode.isBasic then some ⟨text, text⟩
    else if text.length > textLimit then none
    else some ⟨text, punycodeStart ++ Text.Punycode.encode text⟩
  label?.filter fun label => isSound label.text

/-- Reads a name and writes it in ASCII. -/
def toAscii? (name : List Char) : Option (List Char) := do
  let mapped ← name.mapM image?
  let labels ← (Text.parts '.' (Text.compose mapped.flatten)).mapM label?
  if directionsFit (labels.map Label.text) then
    some (['.'].intercalate (labels.map Label.ascii))
  else none

end CellNet.DomainName
