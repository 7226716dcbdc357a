/-!
# Errors of the machine

What can go wrong when the machine is asked for something: a kind to decide by, and a text to show.
-/

namespace CellNet

namespace SystemError

/-- The kinds of errors a caller can tell apart. -/
inductive Kind where
  | notFound
  | notADirectory
  | isADirectory
  | invalidName
  | invalidInput
  | invalidData
  | permissionDenied
  | addressInUse
  | other
deriving DecidableEq, Repr

end SystemError

/-- An error of the machine. -/
structure SystemError where
  kind : SystemError.Kind
  text : String
deriving DecidableEq, Repr

namespace SystemError

/-- An error with the number the system gives it. -/
def numbered (kind : Kind) (text : String) (number : Nat) : SystemError :=
  ⟨kind, text ++ " (os error " ++ toString number ++ ")"⟩

def missing : SystemError := numbered .notFound "No such file or directory" 2

/-- A part of the path before the last is a file. -/
def notDirectory : SystemError := numbered .notADirectory "Not a directory" 20

/-- The path leads to a directory where a file is wanted. -/
def directory : SystemError := numbered .isADirectory "Is a directory" 21

/-- A part of the path, or all of it, is too long. -/
def nameTooLong : SystemError := numbered .invalidName "File name too long" 36

/-- The path may not be used in this way. -/
def denied : SystemError := numbered .permissionDenied "Permission denied" 13

/-- Nobody takes what is printed any more. -/
def brokenPipe : SystemError := numbered .other "Broken pipe" 32

/-- Somebody listens on the address already. -/
def addressInUse : SystemError := numbered .addressInUse "Address already in use" 98

/-- The path contains a null character. -/
def nullInName : SystemError := ⟨.invalidInput, "file name contained an unexpected NUL byte"⟩

/-- A file that should hold text does not. -/
def notText : SystemError := ⟨.invalidData, "stream did not contain valid UTF-8"⟩

/-- The error of a number, given what the machine says about it. -/
def ofNumber (number : Nat) (description : String) : SystemError :=
  match number with
  | 2 => missing
  | 13 => denied
  | 20 => notDirectory
  | 21 => directory
  | 32 => brokenPipe
  | 36 => nameTooLong
  | 98 => addressInUse
  | _ => numbered .other description.capitalize number

end SystemError

end CellNet
