/-!
# Markup

Text that stands in markup, in an attribute or between tags, has the five characters that mean
something there written as entities.
-/

namespace CellNet.Markup

/-- The entity for a character that has a meaning in markup, and other characters as they are. -/
def entity : Char → List Char
  | '&' => "&amp;".toList
  | '<' => "&lt;".toList
  | '>' => "&gt;".toList
  | '"' => "&quot;".toList
  | '\'' => "&#39;".toList
  | c => [c]

/-- Text as it stands in markup. -/
def escape (text : String) : String := String.ofList (text.toList.flatMap entity)

/-- An attribute whose value needs no escaping. -/
def attr (name value : String) : String := " " ++ name ++ "=\"" ++ value ++ "\""

end CellNet.Markup
