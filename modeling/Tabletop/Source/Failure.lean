import Tabletop.Files.Failure
import Tabletop.Text.Utf8

/-!
# Failures of reading

Why a line could not be read. A failure is named by its class, and written either as the message
that is shown to people or as the literal that is put into the log.
-/

set_option autoImplicit false

namespace Tabletop

/-- Why a line could not be read. -/
inductive ReadFailure where
  /-- The path does not lead to a readable file. -/
  | path (failure : PathFailure)
  /-- The bytes are no UTF-8. -/
  | undecodable (fault : Text.Utf8.Fault)
  /-- The device failed, in its own words. -/
  | device (words : String)
  /-- The text held in memory has been closed. -/
  | textClosed
  /-- The file has been closed. -/
  | fileClosed
  deriving DecidableEq, Repr

namespace ReadFailure

/-- The class of a failure. -/
def className : ReadFailure → String
  | .path ⟨.notFound, _⟩ => "FileNotFoundError"
  | .path ⟨.notADirectory, _⟩ => "NotADirectoryError"
  | .path ⟨.isADirectory, _⟩ => "IsADirectoryError"
  | .path ⟨.nameTooLong, _⟩ => "OSError"
  | .path ⟨.holdsZero, _⟩ => "ValueError"
  | .undecodable _ => "UnicodeDecodeError"
  | .device _ => "OSError"
  | .textClosed => "ValueError"
  | .fileClosed => "ValueError"

/-- A failure in words. -/
def message : ReadFailure → String
  | .path failure => failure.message
  | .undecodable fault => fault.message
  | .device words => words
  | .textClosed => "I/O operation on closed file"
  | .fileClosed => "I/O operation on closed file."

/-- A failure as the literal of a value: its class and what it was made from. -/
def literal (failure : ReadFailure) : String :=
  let parts :=
    match failure with
    | .path inner => inner.cause.number?.toList.map toString ++ [Text.quoted inner.cause.text]
    | .undecodable fault =>
      ["'utf-8'", Text.quotedBytes fault.data, toString fault.start, toString fault.stop,
        Text.quoted fault.cause.text]
    | other => [Text.quoted other.message]
  failure.className ++ "(" ++ ", ".intercalate parts ++ ")"

end ReadFailure

end Tabletop
