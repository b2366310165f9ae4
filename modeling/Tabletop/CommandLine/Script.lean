import Tabletop.Files.Tree
import Tabletop.Source

/-!
# Scripts

Where the lines of a script come from: a file, or the standard input, which a dash stands for. A
word is put in order as a path before it is compared with the dash.
-/

set_option autoImplicit false

namespace Tabletop.CommandLine

/-- Where the lines of a script come from. -/
inductive Script where
  | file (path : Path)
  | standardInput
  deriving DecidableEq, Repr

namespace Script

/-- The word that stands for the standard input. -/
def inputWord : String := "-"

/-- The script that a word stands for. -/
def ofWord (word : String) : Script :=
  let path := Path.ofText word
  if path = Path.ofText inputWord then standardInput else file path

/-- The name of a script. -/
def name : Script → String
  | file path => path.text
  | standardInput => "<stdin>"

/-- The lines of a script. -/
def source (tree : FileTree) (input : List UInt8) : Script → Except ReadFailure Source
  | standardInput => .ok (.ofStrictInput input)
  | file path =>
    match tree.read path with
    | .ok bytes => .ok (.ofFile bytes)
    | .error failure => .error (.path failure)

end Script

end Tabletop.CommandLine
