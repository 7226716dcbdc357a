/-!
# Messages on the console

Each kind of message has a form and, where colours are wanted, a colour. A message is one line.
-/

namespace CellNet

/-- Whether messages are coloured. -/
structure Console where
  isColored : Bool := false
deriving DecidableEq, Repr

namespace Console

/-- The looks of a text, as terminals number them. -/
inductive Look where
  | boldRed
  | boldYellow
  | boldGreen
  | boldCyan
  | dim
  | blue
  | cyan
  | brightWhite
  | underlinedBrightBlue
deriving DecidableEq, Repr

/-- The numbers that switch a look on. -/
def Look.codes : Look → String
  | .boldRed => "1;31"
  | .boldYellow => "1;33"
  | .boldGreen => "1;32"
  | .boldCyan => "1;36"
  | .dim => "2"
  | .blue => "34"
  | .cyan => "36"
  | .brightWhite => "97"
  | .underlinedBrightBlue => "4;94"

/-- What switches a look on. -/
def Look.start (look : Look) : String := "\x1b[" ++ look.codes ++ "m"

/-- What switches every look off. -/
def reset : String := "\x1b[0m"

/-- Switches a look on again wherever a text switches every look off. -/
def Look.keep (look : Look) : List Char → List Char
  | '\x1b' :: '[' :: '0' :: 'm' :: rest => reset.toList ++ look.start.toList ++ look.keep rest
  | c :: rest => c :: look.keep rest
  | [] => []

def paint (console : Console) (look : Look) (text : String) : String :=
  if console.isColored then look.start ++ String.ofList (look.keep text.toList) ++ reset else text

/-! ## Messages -/

def error (console : Console) (text : String) : String :=
  console.paint .boldRed "error:" ++ " " ++ text ++ "\n"

def warning (console : Console) (text : String) : String :=
  console.paint .boldYellow "warning:" ++ " " ++ text ++ "\n"

/-- What one may do about an error. -/
def hint (console : Console) (text : String) : String :=
  console.paint .dim "hint:" ++ " " ++ console.paint .dim text ++ "\n"

def success (console : Console) (text : String) : String :=
  console.paint .boldGreen "✓" ++ " " ++ text ++ "\n"

/-- Something begins. -/
def status (console : Console) (text : String) : String :=
  console.paint .blue "→" ++ " " ++ text ++ "\n"

def header (console : Console) (text : String) : String := console.paint .boldCyan text ++ "\n"

def metric (console : Console) (label : String) (count : Nat) : String :=
  "  " ++ console.paint .dim label ++ ": " ++ console.paint .cyan (toString count) ++ "\n"

def path (console : Console) (path : String) : String := console.paint .brightWhite path

def address (console : Console) (address : String) : String :=
  console.paint .underlinedBrightBlue address

end Console

end CellNet
