import CellNet.Text.Table

/-!
# Directions of writing

Some scripts run from right to left, and numbers in them from left to right. A name with such
letters could look like another one, so each of its labels has to be of one direction and to begin
and end in characters that make this clear. The table is that of Unicode 17.
-/

namespace CellNet.DomainName

/-- How a character behaves between others of either direction. -/
inductive Direction where
  | left
  | right
  | arabic
  | arabicDigit
  | digit
  | sign
  | terminator
  | separator
  | boundary
  | mark
  | neutral
  | blank
deriving DecidableEq, Repr

namespace Direction

/-- The table: `L` for letters that run from left to right, `R` and `A` for letters that run from
right to left, `E` and `N` for digits, `S`, `T` and `C` for what stands by numbers, `B` for
controls, `M` for marks, `O` for what is neutral, `W` for blanks. -/
def lines : List String := [
  "B9WWWWWBeW3WWO2T3O5SCSC2EaCO6LqO6LqO4ByOT4OaT6O15LoOLchO2L7OeL2OsLOhM35L4O2L3jO2L3vM8L73O5T2",
  "M19RMRM2RM2RM9R1iO2AT2ACAO2MbA1cMlNaTN2A3MA2tM8OM6A2M2OM4A2EaAnMAuMtA2hMbAfR17M9R2O4R3MRoM4RM9",
  "RM3RM7R15M5R2A1jM9A16M1lL1jMLML4M8L4ML3MfL2M2LtML1mML4M6L6MLkM4LcT2L7TL2M5L1lM2L3MrLkM2L3MLbM2",
  "L1lML4M8L4M3LiM4LbT8LM8L1mML2MLM6L6MaLbM4LsML1pMLcM3LzO6TO6ML3ML1jMLM3L5MiLaM4LiO7L2ML1mMLfM9",
  "LdM4LqM2L1lM2L4M5L7MLkM4LrML20M5L3M6L2hML2MbTL7M8L2qML2M9LbM8L20M2LrMLMLMO4L1fMeLM5LM2L5M1dL8M",
  "L2uM4LM6LM2L2M2LpM2L4M3LgM4LdML2M2L6MLfMLjjM3L1cOgL2oOLiiO5L36M3LtM2LuMeLiMeL1jM7L8ML2MbL7TLM3",
  "LgOwL39M2LyML3aM3L4M2L9ML6M7O6L48OyLnM2L2M3L1kMLM9LML2M8L6MdL1cM2cL1cMLM5LML5ML14M9LcM2LwM4L2",
  "M2LM3L1kMLM2L3MLM3L1mM8L2M5L45M3LMdLM7L4ML6ML3M2L5iM1tLejB4OwT5OfCO2jT1cM1gO16TcOkL1oO3sSTO82",
  "L1xOqLO41LpOh8LO9fL74OieLO49L51O7L3M4L6O7L3jML2oMwOedL3OpL9M4L2OL6O4L2O4L2gM4L3OL2iOL5gO10L5i4",
  "O1sLh3kO1sL8tO3L2nM4OMaO3LtM2L28M2LeOzL2tOL3dML3ML4MLpM2LO4M4L8T8L1gOcL1wMaLiMiLdML12M8LpMbL1a",
  "M3L1cML2M4L2M2L13ML1vM6L2M2L2MbL3ML8ML1bML1fMLM3L2M2L5M2LML16M2L8MbL2xO2eL11ML2ML4M3Lfn2M44Ah",
  "OgtM11O1aAb1L75OL1qO25L3O1sL19M3nL2oMEvL3aMaLw0R7zOR69MfR14M8R4lM6R26O7RcgA10McNgR15M5OR6pNw",
  "R17M2RlAeO16M6R1cAmMbAvRiM4R3eLML1iMfLbOkLaML2M2LaM3L1dM4L2M2L7MeL1cM3L10M5LM9L1pMLcM2L1gM9La",
  "M4L2ML2nM3L2MLM2L6ML2M1rL2nML3MdLgM2L1lM2L3ML11MqL1nM7LcMLMLMLeMvL1kM8L2M3LMLnML2cM6LML4M2LM2",
  "L6mM6L4M2LM2LrM10L1fM8L2MLM2LvOwL17MLML2M6LML2tM3L2M4LM9L73M9LM2L74M2LML4ML40M8L4MLwM6L2M2L14",
  "M6L2M4L8M9LM6L2M3L1aMdLM2L5iMLM3LML5lMeL2cMnLM7LM2LM23L1dMlLM9L1sM3L2MLML9nM2LbM2L1gM8L2MLMLn",
  "M2eL11O8T4OuL401ML6MpL8u6McL3M3L1xcM5L1nM7Lt4ML1rM4L27OLMcLf59M2L3mpM28LevM3LhM8L2M7LuM4L1nO2h",
  "M3O3fL1sO2oL1b4M1jL4M1eL8MLeMLmMv9L74M74L1cM7LafMiL18M4LfTcxLsM4L72M2L6rML2ML7M2L5M9L76R5sM2a",
  "RyM7RmeAhrOgwLtO3L1pO1lL3eOvsL4O4bL4O8nL26O9gLcO15L7O1aLO7L8OeL4O9L7O63"]

def ofEntry (entry : Text.Table.Entry) : Direction :=
  match entry.mark with
  | 'R' => .right
  | 'A' => .arabic
  | 'N' => .arabicDigit
  | 'E' => .digit
  | 'S' => .sign
  | 'T' => .terminator
  | 'C' => .separator
  | 'B' => .boundary
  | 'M' => .mark
  | 'O' => .neutral
  | 'W' => .blank
  | _ => .left

def table : List (Text.Table.Stretch Direction) := Text.Table.ofLines ofEntry lines

def of (c : Char) : Direction :=
  match Text.Table.find? table c with
  | some stretch => stretch.value
  | none => .left

/-- Whether something runs from right to left. -/
def isLeftward : Direction → Bool
  | .right | .arabic | .arabicDigit => true
  | _ => false

/-- What either kind of label may hold besides letters and digits of its own. -/
def isCommon : Direction → Bool
  | .digit | .sign | .terminator | .separator | .boundary | .mark | .neutral => true
  | _ => false

/-- Whether the directions of a label go together. The last one is looked for in front of the marks
at the end. -/
def fit : List Direction → Bool
  | [] => true
  | first :: rest =>
    let all := first :: rest
    let last := (all.reverse.dropWhile (· = .mark)).headD first
    if first = .left then
      all.all (fun d => d = .left || d.isCommon) && (last = .left || last = .digit)
    else
      (first = .right || first = .arabic) && all.all (fun d => d.isLeftward || d.isCommon)
        && (last.isLeftward || last = .digit)
        && !(all.contains .digit && all.contains .arabicDigit)

end Direction

/-- Whether the directions in the labels of a name go together. This is asked only of names in which
something runs from right to left. -/
def directionsFit (labels : List (List Char)) : Bool :=
  let directions := labels.map (·.map Direction.of)
  !directions.any (·.any Direction.isLeftward) || directions.all Direction.fit

end CellNet.DomainName
