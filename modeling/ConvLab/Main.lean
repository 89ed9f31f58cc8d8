import ConvLab.CommandLine
import ConvLab.Json.Reader

/-!
# The program

The host of a real run: it prints to the standard output, logs to the standard error and reads
files and the clock of the system.  It uses no vector instructions, and JSON as its text layer.  The
variable `CONVLAB_LOG` names the least important level that is logged; without it only errors are.
-/

namespace ConvLab

/-- The level with a name, in capitals or not. -/
def Level.ofName? (name : String) : Option Level :=
  [Level.error, .warn, .info, .debug].find? (·.name = name.toUpper)

/-- Logs a line if it is important enough. -/
def logToStandardError (line : LogLine) : IO Unit := do
  let name ← IO.getEnv "CONVLAB_LOG"
  let least := (name.bind Level.ofName?).getD .error
  if line.level.rank ≤ least.rank then
    IO.eprint line.written

/-- Why the system could not read a file.  The code of an error comes with either sign. -/
def fileErrorOf (e : IO.Error) : FileError :=
  match e with
  | .noFileOrDirectory _ _ _ => .missing
  | .inappropriateType _ code details =>
      if code = 20 ∨ code = -20 then .throughFile
      else if code = 21 ∨ code = -21 then .isFolder
      else .unreadable details
  | _ => .unreadable (toString e)

def readSystemFile (path : String) : IO (Except FileError String) := do
  if path.toList.contains '\x00' then
    return .error .nulInPath
  try
    match String.fromUTF8? (← IO.FS.readBinFile path) with
    | some text => return .ok text
    | none => return .error .noText
  catch e => return .error (fileErrorOf e)

instance : Host IO where
  log := logToStandardError
  print line := IO.println line
  readFile := readSystemFile
  clock := IO.monoNanosNow

end ConvLab

def main (arguments : List String) : IO UInt32 :=
  letI := ConvLab.Processor.plain
  letI := ConvLab.TextLayer.json
  ConvLab.CommandLine.run arguments
