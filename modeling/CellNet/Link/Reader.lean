import CellNet.Link

/-!
# Reading link names

A link name may arrive from a user in either orientation, with signs and leading zeros on its
ports. It is read as two endpoints around a dash. Cell names may themselves contain dashes, so the
dashes are tried from left to right and the first one with an endpoint on both sides is taken. The
result is the name of the link between the two, whichever was given first.
-/

namespace CellNet

/-- Reads a cell name, `:P` and a port number; the cell name ends at the last `:P`. -/
def Endpoint.read? (text : List Char) : Option Endpoint :=
  match Text.splitLast [':', 'P'] text with
  | none => none
  | some (cell, port) =>
    if cell.isEmpty then none
    else (Text.Unsigned.read? port).map fun n => ⟨⟨String.ofList cell⟩, ⟨n⟩⟩

namespace LinkId

/-- The link named by two endpoint texts. -/
def ofSides? (left right : List Char) : Option LinkId :=
  match Endpoint.read? left, Endpoint.read? right with
  | some a, some b => some (.between a b)
  | _, _ => none

/-- Tries the dashes of `rest` from left to right; `seen` is the text before it, last character
first. -/
def readFrom (seen : List Char) : List Char → Option LinkId
  | [] => none
  | '-' :: rest => (ofSides? seen.reverse rest).or (readFrom ('-' :: seen) rest)
  | c :: rest => readFrom (c :: seen) rest

/-- Reads a link name in either orientation. -/
def read? (text : String) : Option LinkId := readFrom [] text.toList

end LinkId

end CellNet
