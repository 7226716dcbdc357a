import CellNet.Text.Table

/-!
# Marks

Marks are characters that belong to the character before them, such as accents and the signs of
vowels. The table is that of Unicode 17, for the characters that may stand in names of servers.
-/

namespace CellNet.Text

namespace Mark

/-- The table: `M` for marks, `B` for others. -/
def lines : List String := [
  "BlcM35B7mM8B7aM19BMBM2BM2BM9B1sMbB1cMlBgMB2tM8BM6B2M2BM4BzMBuMtB2hMbB1mM9B9MBoM4BM9BM3BM7B15M5",
  "B1lM9B16M1mB1iM3BMiBMfB2M2BtM4B1jMBMgB9M9B2M4BoM7B1jMwBkM2B3MBbM4B1jMBMiBiM4BkMbB1jMBMxB3M4BsM",
  "B1nMiB7MfBqM5B1jMBMqBaM4BrM3B1kMBMuB6M4BdMhB1jM2BMgB9MBaM4BrM4B1xMsBcM2B1pMB2MbB8M8B2qMB2M9Bb",
  "M8B20M2BrMBMBMB4M2B1dMkBM2B5M1dB8MB2sMkBnM4B4M3BM3B2M7B3M4BdMcBMBaM4BjjM3BqaMdBjM3BtMeBiMeB1i",
  "MuB9M3B4lM2ByMB3aMwB5zM7B1jM17B1cM2dB1bMhB12M9BcM3BuMdB1kMmB14MnB45M3BMlB4MB6MB2M3B5iM1tBjzM1g",
  "B2crM4B3wMB2oMwBfeM6B2xM4Bn9uM4BMaBwM2B28M2B7kMB3MB4MBnM5B4M4B28M2B1eMqBiMiBdMB12M8BpMoBxM4B1b",
  "MeB10MB1vMnB3MB8M4B17M3B1eMBM3B2M2B5M2BMB15M5B5McB6aM8BM4Bfn2M44BhaM11BqgM3nB2oMB45MaB1a9MfB14",
  "M8B4lM6BftMcB1lM5B8tM2B25M6B1yMbB1dM4B3eM3B1hMfB15MB2M2BaM4B19MbB7MeB1cM3B10MfBfM2B18MBcM3B1c",
  "MeB8M4BM2B2kMcB6MB2M1rB2nMhBgM5B1iM2BMiB7M6B5MuB1kMpBMBeMvB1hMiBnMB29MkB6jMiBrM10B1cMhB2yMdB2t",
  "MjB70MfB6tMfBMBM2B3xMgB3MsBMaB14M7BM4B8M9BMbB1aMgB5iM2oB33MhB2aM32B1dMlBM9B1mMeB9nM4B9M2BMB1c",
  "MfBnM2eB428MB6MpB8u6MiB1xcM5B1nM7Bt4MBM1uB29MeBf57M2B3mpM28BetM5B3MmB2M7BuM4B44M3B1izM1jB4M1e",
  "B8MBeMBmMv9B74M74B1cM7BafMiB18M4Be4M4B72M2B6rMB2MB7M2B5M9BcyM2aByM7"]

/-- Which characters are marks. -/
def table : List (Table.Stretch Bool) := Table.ofLines (fun entry => entry.mark = 'M') lines

end Mark

def isMark (c : Char) : Bool :=
  match Table.find? Mark.table c with
  | some stretch => stretch.value
  | none => false

end CellNet.Text
