import CellNet.Text.CombiningClass
import CellNet.Text.Table

/-!
# Joining letters

In some scripts a letter has other shapes beside its neighbours. The joiner U+200D asks for such a
shape and the non-joiner U+200C forbids it; in a name they may stand only where they make a
difference to the reader: behind a virama, and the non-joiner also between two letters that would
join without it. The table is that of Unicode 17.
-/

namespace CellNet.DomainName

/-- How a letter joins its neighbours. -/
inductive Joining where
  | alone
  /-- On both sides. -/
  | dual
  /-- The letter that follows only. -/
  | left
  /-- The letter before only. -/
  | right
  /-- It does not stand between the letters around it. -/
  | transparent
deriving DecidableEq, Repr

namespace Joining

/-- The table: `D` for dual, `L` for left, `R` for right, `T` for transparent, `U` for others. -/
def lines : List String := [
  "UlcT35U7mT8U7aT19UTUT2UT2UT9U1sTbU5DUR4DRDRD5R4DdUD7RD2TlUeD2TR3U5DfRiD12RD2R9DRDRD2R2URT8UT6",
  "U2T2UT4R2UaD3U2DUgRTD3R5D4RD9RDRDRD2RTtRDbR3DfR2D4RDR2D3R2D6U12TbUpDxT9U9TUoT4UT9UT3UT7UgRD5R2",
  "DRDaRDR3T5U2DUD4URDRqU3DU2D5RD8T9DaR3URD2R2D6RDfUT1lU1jTUTU4T8U4TU3TfU2T2UtTU1mTU4T6U6TUkT4Uo",
  "T5U1lT2U3TrUkT2U3TUbT2U1lTU4T8U4T3UiT4UkT8U1mTU2TUT6U6TaUbT4UsTU1pTUcT3U1cTU3TU1jTUT3U5TiUaT4",
  "UrTU1mTU2TU6TU5T9UdT4UqT2U1lT2U4T5U7TUkT4UrTU20T5U3T6U2hTU2TbU8T8U2qTU2T9UbT8U20T2UrTUTUTU1jTe",
  "UT5UT2U5T1dU8TU2uT4UT6UT2U2T2UpT2U4T3UgT4UdTU2T2U6TUfTUjjT3UqaT3UtT2UuTeUiTeU1jT7U8TU2TbU9T3",
  "U13DUoD2oU5T2DyTD6U34T3U4T2U9TU6T7U5zT2U2T3U1kTUT9UTU2T8U6TdU1cT2cU1cTUT5UTU5TU14T9UcT2UwT4U2",
  "T2UT3U1kTUT2U3TUT3U1mT8U2T5U45T3UTdUT7U4TU6TU3T2U5iT1tUjzT1gU2crT4U3wTU2oTwUfeT4U2zT4Un9uT4UTa",
  "UwT2U28T2U7kTU3TU4TUpT2U5T4UgD1eLU29TaUiTiUdTU12T8UpTbU1aT3U1cTU2T4U2T2U13TU1vT6U2T2U2TbU3TU8T",
  "U1bTU1fTUT3U2T2U5T2UTU16T2U8TbU6cTU2TU4T3Ufn2T44UhaT11UqgT3nU2oTU45TaU1a9TfU14T8U3kD5RURUR2U2L",
  "R5D4LD5RD3RU2RT6D4RU40DRDR3D3RD2RDR2DR8UgR4D2U9dLDxRDTcU1lT5U8tT2UlRD2UDaU16T6U1cD3RDhUTbD3RUr",
  "D4R2DcT4U16DUD2R3UDR2D2RD2UDR2DU4RDLlUxTU1iTfU15TU2T2UaT3U1dT4U2T2U7TeU1cT3U10T5UT9U1pTUcT2U1g",
  "T9UaT4U2TU2nT3U2TUT2U6TU2T1rU2nTU3TdUgT2U1lT2U3TU11TqU1nT7UcTUTUTUeTvU1kT8U2T3UTUnTU2cT6UTU4T2",
  "UT2U6mT6U4T2UT2UrT10U1fT8U2TUT2U2yTUTU2T6UTU2tTUTU2T4UT9U73T9UT2U74T2UTU4TU40T8U4TUwTaU14T6U2",
  "T4U8T9UT6U2T3U1aTdUT2U5iTUT3UTU5lTeUTU2aTnUT7UT2UT23U1dTlUT9U1sT3U2TUTU9nT2UbT2U1gT8U2TUTUnT2e",
  "U428TU6TpU8u6TcU3T3U1xcT5U1nT7Ut4TU1rT4U29TcUf59T2U3mpT28UevT3UhT8U2T7UuT4U44T3U1izT1jU4T1eU8T",
  "UeTUmTv9U74T74U1cT7UafTiU18T4Ue4T4U72T2U6rTU2TU7T2U5T9UcyT2aDyT8"]

def ofEntry (entry : Text.Table.Entry) : Joining :=
  match entry.mark with
  | 'D' => .dual
  | 'L' => .left
  | 'R' => .right
  | 'T' => .transparent
  | _ => .alone

def table : List (Text.Table.Stretch Joining) := Text.Table.ofLines ofEntry lines

def of (c : Char) : Joining :=
  match Text.Table.find? table c with
  | some stretch => stretch.value
  | none => .alone

/-- Whether the first letter of a text that is not transparent joins in one of some ways. -/
def meets (ways : List Joining) (text : List Char) : Bool :=
  match text.dropWhile (of · = .transparent) with
  | c :: _ => of c ∈ ways
  | [] => false

end Joining

/-- Whether the joiners of a text are where they belong. The text in front, `before`, is given last
first. -/
def joinersFit (before : List Char) : List Char → Bool
  | [] => true
  | c :: rest =>
    let isBehindVirama := before.head?.any Text.isVirama
    let isFit :=
      if c = '\u200c' then
        isBehindVirama ||
          (Joining.meets [.left, .dual] before && Joining.meets [.right, .dual] rest)
      else if c = '\u200d' then isBehindVirama
      else true
    isFit && joinersFit (c :: before) rest

end CellNet.DomainName
