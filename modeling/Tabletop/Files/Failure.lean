import Tabletop.Text.Quoted

/-!
# Failures of the file system

Why a path does not lead to a file that can be read, in the words of the system and with the number
it has for them. A path with a zero in it never gets to the system and has no number.
-/

set_option autoImplicit false

namespace Tabletop

/-- Why a path does not lead to a readable file. -/
inductive PathCause where
  | notFound
  | notADirectory
  | isADirectory
  | nameTooLong
  | holdsZero
  deriving DecidableEq, Repr

/-- The number of a cause, if it has one. -/
def PathCause.number? : PathCause → Option Nat
  | .notFound => some 2
  | .notADirectory => some 20
  | .isADirectory => some 21
  | .nameTooLong => some 36
  | .holdsZero => none

/-- A cause in words. -/
def PathCause.text : PathCause → String
  | .notFound => "No such file or directory"
  | .notADirectory => "Not a directory"
  | .isADirectory => "Is a directory"
  | .nameTooLong => "File name too long"
  | .holdsZero => "embedded null byte"

/-- A path that could not be used, as it was written, and why. -/
structure PathFailure where
  cause : PathCause
  path : String
  deriving DecidableEq, Repr

/-- A failure in words. -/
def PathFailure.message (failure : PathFailure) : String :=
  match failure.cause.number? with
  | some number =>
    "[Errno " ++ toString number ++ "] " ++ failure.cause.text ++ ": " ++ Text.quoted failure.path
  | none => failure.cause.text

end Tabletop
