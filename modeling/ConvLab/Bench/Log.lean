import ConvLab.Text.Terminal

/-!
# Log lines

What a benchmark reports about its progress, each line at a level of importance.
-/

namespace ConvLab

/-- How important a log line is. -/
inductive Level where
  | error
  | warn
  | info
  | debug
  deriving DecidableEq, Repr

namespace Level

def name : Level → String
  | .error => "ERROR"
  | .warn => "WARN"
  | .info => "INFO"
  | .debug => "DEBUG"

/-- How far a level is from the most important one. -/
def rank : Level → Nat
  | .error => 0
  | .warn => 1
  | .info => 2
  | .debug => 3

end Level

/-- A message at a level. -/
structure LogLine where
  level : Level
  message : String
  deriving DecidableEq, Repr

namespace LogLine

def text (line : LogLine) : String := line.level.name ++ " " ++ line.message

/-- A log line as it is written, with the line end.  Further lines of the message are set in by four
blanks, and terminal controls are left out. -/
def written (line : LogLine) : String :=
  let indented := line.text.toList.flatMap fun c =>
    if c = '\n' then ['\n', ' ', ' ', ' ', ' '] else [c]
  String.ofList (Terminal.withoutControls (indented ++ ['\n']))

end LogLine

end ConvLab
