import Tabletop.CommandLine.Switch

/-!
# Pages

What the program says about itself: how each scope is used, its help, samples of each task, and its
version.
-/

set_option autoImplicit false

namespace Tabletop.CommandLine

/-- Lines as one text. -/
def paragraph (lines : List String) : String :=
  "\n".intercalate lines

/-- How a scope is used, in one line. -/
def Scope.usage : Scope → String
  | program => "Usage: robosim [OPTIONS] [COMMAND] [ARGS]..."
  | task .run => "Usage: robosim run [OPTIONS] [FILE]"
  | task .check => "Usage: robosim check [OPTIONS] FILE"

/-- What a scope does and which words it takes. -/
def Scope.description : Scope → List String
  | program =>
    ["  Drive a toy robot around a bounded table with text commands.",
      "",
      "  REPORT lines are the only thing written to stdout.",
      "",
      "Options:",
      "  --version          Show the version and exit.",
      "  --json             Print check results and errors as JSON.",
      "  -q, --quiet        One-line check results and errors.",
      "  -v, --verbose      Trace ignored and rejected commands.",
      "  --log-json         Write log events to stderr as JSON lines.",
      "  -c, --config FILE  robosim.toml to use instead of searching for one.",
      "  --help             Show this message and exit.",
      "",
      "Commands:",
      "  check  Report malformed lines in FILE.",
      "  run    Simulate commands from FILE, or standard input when FILE is..."]
  | task .run =>
    ["  Simulate commands from FILE, or standard input when FILE is omitted or '-'.",
      "",
      "  Each REPORT prints X,Y,F on stdout. Malformed lines are skipped.",
      "",
      "Options:",
      "  --width INTEGER RANGE   Override board width.  [x>=1]",
      "  --height INTEGER RANGE  Override board height.  [x>=1]",
      "  --examples              Show usage examples.",
      "  --help                  Show this message and exit."]
  | task .check =>
    ["  Report malformed lines in FILE. Exits 1 if any are found.",
      "",
      "Options:",
      "  --examples  Show usage examples.",
      "  --help      Show this message and exit."]

/-- The help of a scope. -/
def Scope.help (scope : Scope) : String :=
  paragraph (scope.usage :: "" :: scope.description)

/-- Samples of a scope; the program as a whole has none. -/
def Scope.samples : Scope → List String
  | program => []
  | task .run =>
    ["  robosim run commands.txt",
      "  printf 'PLACE 0,0,NORTH\\nMOVE\\nREPORT\\n' | robosim run",
      "  robosim run --width 10 --height 10 commands.txt",
      "  robosim -v --log-json run commands.txt"]
  | task .check =>
    ["  robosim check commands.txt",
      "  robosim --json check commands.txt",
      "  cat commands.txt | robosim check -"]

/-- The samples of a scope under a title. -/
def Scope.examples (scope : Scope) : String :=
  paragraph (("Examples for '" ++ scope.path ++ "':") :: "" :: scope.samples)

/-- The version of the program. -/
def versionText : String := "robosim, version 0.1.0"

/-- The page that a switch asks for. -/
def Scope.page? (scope : Scope) : Switch → Option String
  | .version => some versionText
  | .examples => some scope.examples
  | .help => some scope.help
  | _ => none

end Tabletop.CommandLine
