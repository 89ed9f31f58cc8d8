import ConvLab.Bench.Host
import ConvLab.Suite.Reader

/-!
# Loading suites

A suite is read from a file.  A file that is asked for has to be there; without being asked, the
file at the standard path is read if there is one.

* `Suite.ofText` — the suite that a text holds;
* `Suite.load` — the suite in a file that has to be there;
* `Suite.loadOrStandard` — the suite in a file, or the standard suite if there is no file;
* `Suite.openAt` — a suite that is fit to be run.
-/

namespace ConvLab

namespace Suite

def standardPath : String := "configs/conv_suite.json"

variable [TextLayer]

def ofText (path content : String) : Except BenchError Suite :=
  (TextLayer.parse Suite.read content).mapError (.suiteUnreadable path)

variable {n : Type → Type} [Monad n] [Host n]

/-- The suite in a file that has to be there. -/
def load (path : String) : ExceptT BenchError n Suite := do
  match ← Host.readFile path with
  | .ok content => ofText path content
  | .error .missing => throw (.suiteNotFound path)
  | .error (.unreadable reason) => throw (.file reason)

/-- The suite in a file, or the standard suite if there is no file; `use` says what for. -/
def loadOrStandard (path use : String) : ExceptT BenchError n Suite := do
  match ← Host.readFile path with
  | .ok content => ofText path content
  | .error .missing => do
      Host.logWarning
        s!"Config file '{path}' not found, using default configuration for {use}"
      return standard
  | .error (.unreadable reason) => throw (.file reason)

def loadStandard : ExceptT BenchError n Suite := loadOrStandard standardPath "conv_suite"

/-- A suite that is fit to be run, from a given file or else from the standard path. -/
def openAt (path : Option String) : ExceptT BenchError n Suite := do
  let suite ← match path with
    | some path => load path
    | none => loadStandard
  suite.validate
  return suite

end Suite

end ConvLab
