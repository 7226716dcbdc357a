import CellNet.Text.Unsigned
import CellNet.Text.Split

/-!
# Options and arguments

A command takes switches and at most one argument of its own. A switch is written `--name`, or with
one letter as `-n`; one that takes a value has it attached (`--name=value`, `-nvalue`, `-n=value`)
or as the next word. Letters of switches without values may be run together. After the word `--`
nothing is a switch.

**When a value is checked.** A word that follows a switch is held back and checked when the next
switch has been recognised or the words end, so a later unknown switch is reported before an earlier
bad value.
-/

namespace CellNet

/-- Why words make no command, or ask for something other than one. -/
inductive Usage where
  /-- Help is asked for. -/
  | help
  /-- The version is asked for. -/
  | version
  | missingCommand
  | unknownCommand
  | unknownArgument
  /-- A value is missing, empty where it may not be, or not one of the choices. -/
  | invalidValue
  /-- A number is not one, or out of range. -/
  | invalidNumber
  /-- Things are given together, or twice, that exclude each other. -/
  | conflict
  /-- A value is attached to a switch that takes none. -/
  | needlessValue
deriving DecidableEq, Repr

namespace CommandLine

/-! ## Values -/

/-- What a value has to be. -/
inductive ValueKind where
  /-- Anything. -/
  | text
  /-- Anything but nothing. -/
  | path
  /-- One of some words. -/
  | choice (words : List String)
  /-- A port number. -/
  | port
deriving DecidableEq, Repr

/-- Reads a port number; a sign is allowed. -/
def port? (text : String) : Option Nat :=
  let (isNegative, digits) := match text.toList with
    | '-' :: rest => (true, rest)
    | '+' :: rest => (false, rest)
    | rest => (false, rest)
  (Text.Unsigned.ofDigits? digits).filter fun n => n < 65536 ∧ (n = 0 ∨ !isNegative)

def ValueKind.check (kind : ValueKind) (value : String) : Except Usage Unit :=
  match kind with
  | .text => .ok ()
  | .path => if value.isEmpty then .error .invalidValue else .ok ()
  | .choice words => if value ∈ words then .ok () else .error .invalidValue
  | .port => if (port? value).isSome then .ok () else .error .invalidNumber

/-! ## Switches -/

/-- What a switch does. -/
inductive SwitchKind where
  /-- It is given or not. -/
  | flag
  /-- It has a value. -/
  | value (kind : ValueKind)
  /-- It has a value each time it is given. -/
  | values (kind : ValueKind)
  /-- It asks for something else than the command. -/
  | request (usage : Usage)
deriving DecidableEq, Repr

/-- A switch of a command. -/
structure Switch where
  name : String
  letter : Option Char := none
  kind : SwitchKind
deriving DecidableEq, Repr

/-- What the value of a switch has to be, if it takes one. -/
def Switch.valueKind? (switch : Switch) : Option ValueKind :=
  match switch.kind with
  | .value kind | .values kind => some kind
  | .flag | .request _ => none

/-- The switch everything has. -/
def helpSwitch : Switch := ⟨"help", some 'h', .request .help⟩

/-- What a command takes. -/
structure Grammar where
  switches : List Switch
  /-- The argument that is no switch, under a name. -/
  argument : Option (String × ValueKind) := none
  /-- Names that exclude each other. -/
  excluding : List (String × String) := []

/-- What was given: names with their values, in order. A flag has no value. -/
abbrev Given := List (String × Option String)

namespace Given

def has (given : Given) (name : String) : Bool := given.any (·.1 = name)

/-- The values given under a name. -/
def valuesOf (given : Given) (name : String) : List String :=
  given.filterMap fun (other, value) => if other = name then value else none

/-- The first value given under a name. -/
def value? (given : Given) (name : String) : Option String := (given.valuesOf name).head?

end Given

/-! ## Reading words -/

/-- Where the reader is. -/
structure Reading where
  given : Given := []
  /-- What was recognised last, with the word held back for it. -/
  held : Option (Switch × Option String) := none
  /-- The next word belongs to what is held back. -/
  isWaiting : Bool := false
  /-- Nothing is a switch any more. -/
  isLiteral : Bool := false
  /-- The argument has been given. -/
  hasArgument : Bool := false

namespace Reading

/-- Takes a switch with its value. -/
def accept (r : Reading) (switch : Switch) (value : Option String) : Except Usage Reading := do
  let taken : Reading := { r with given := r.given ++ [(switch.name, value)] }
  let once : Except Usage Unit :=
    if r.given.has switch.name then .error .conflict else .ok ()
  match switch.kind, value with
  | .request usage, _ => .error usage
  | .flag, _ => once; return taken
  | .value _, none | .values _, none => .error .invalidValue
  | .value kind, some value => once; kind.check value; return taken
  | .values kind, some value => kind.check value; return taken

def settle (r : Reading) : Except Usage Reading :=
  match r.held with
  | none => .ok r
  | some (switch, value) => ({ r with held := none, isWaiting := false }).accept switch value

def recognise (r : Reading) (switch : Switch) (attached : Option String) :
    Except Usage Reading := do
  match switch.valueKind?, attached with
  | none, some _ => .error .needlessValue
  | none, none => (← r.settle).accept switch none
  | some _, some value => (← r.settle).accept switch (some value)
  | some _, none => return { ← r.settle with held := some (switch, none), isWaiting := true }

def splitLong (text : List Char) : String × Option String :=
  let name := text.takeWhile (· ≠ '=')
  let rest := text.dropWhile (· ≠ '=')
  (String.ofList name, if rest.isEmpty then none else some (String.ofList (rest.drop 1)))

def long (r : Reading) (grammar : Grammar) (text : List Char) : Except Usage Reading :=
  let (name, attached) := splitLong text
  match grammar.switches.find? (·.name = name) with
  | none => .error .unknownArgument
  | some switch => r.recognise switch attached

/-- The value attached to a letter; an equals sign in front is not part of it. -/
def attachedValue : List Char → Option String
  | [] => none
  | '=' :: rest => some (String.ofList rest)
  | rest => some (String.ofList rest)

def letters (grammar : Grammar) : List Char → Reading → Except Usage Reading
  | [], r => .ok r
  | c :: rest, r =>
    match grammar.switches.find? (·.letter = some c) with
    | none => .error .unknownArgument
    | some switch =>
      if switch.valueKind?.isSome then r.recognise switch (attachedValue rest)
      else
        match r.recognise switch none with
        | .error usage => .error usage
        | .ok r => letters grammar rest r

/-- A word that is no switch and belongs to none. -/
def argument (r : Reading) (grammar : Grammar) (word : String) : Except Usage Reading :=
  match grammar.argument with
  | none => .error .unknownArgument
  | some (name, kind) =>
    if r.hasArgument then .error .unknownArgument
    else do
      let r ← r.settle
      return { r with held := some (⟨name, none, .value kind⟩, some word), hasArgument := true }

def step (grammar : Grammar) (r : Reading) (word : String) : Except Usage Reading :=
  if r.isLiteral then r.argument grammar word
  else
    match word.toList with
    | ['-', '-'] => .ok { r with isLiteral := true, isWaiting := false }
    | '-' :: '-' :: text => r.long grammar text
    | '-' :: c :: text => letters grammar (c :: text) r
    | _ =>
      match r.held, r.isWaiting with
      | some (switch, _), true =>
        .ok { r with held := some (switch, some word), isWaiting := false }
      | _, _ => r.argument grammar word

/-- Whether two things are given that exclude each other. -/
def hasConflict (grammar : Grammar) (given : Given) : Bool :=
  grammar.excluding.any fun (a, b) => given.has a && given.has b

end Reading

/-- Reads the words after a command. -/
def Grammar.read (grammar : Grammar) (words : List String) : Except Usage Given := do
  let r ← words.foldlM (Reading.step grammar) {}
  let r ← r.settle
  if Reading.hasConflict grammar r.given then .error .conflict else .ok r.given

end CommandLine

end CellNet
