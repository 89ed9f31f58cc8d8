import ConvLab.Bench.Report
import ConvLab.Bench.Trial
import ConvLab.Bench.Verification
import ConvLab.Suite.Basic

/-!
# Running suites

The configurations of a suite are run one after another.  A shape that gives no problem, or that
the kernel does not take, is logged and passed over; a failure while a kernel runs ends the whole
run.

* `Suite.verifyShapes` — compares the kernels on every distinct shape, if the suite asks for it;
* `Suite.runConfigurations` — the run with a given timer;
* `Suite.runAll`, `Suite.runKernel`, `Suite.runNamed` — the run with the fixed timer of the suite,
  and the printed report on it;
* `Suite.listing` — the registered configurations.
-/

namespace ConvLab

/-- A configuration that was passed over. -/
structure Skipped where
  kind : Kind
  entry : Entry
  reason : String
  deriving DecidableEq

/-- What a run has produced. -/
structure Summary where
  reports : List TrialReport := []
  skipped : List Skipped := []
  /-- The shapes on which the kernels disagree. -/
  disagreements : List BenchError := []
  deriving DecidableEq

namespace Summary

/-- The measurements that the timer handed back, in order. -/
def results (s : Summary) : List Performance := s.reports.filterMap (·.results)

def addReport (s : Summary) (report : TrialReport) : Summary :=
  { s with reports := s.reports ++ [report] }

def addSkipped (s : Summary) (skipped : Skipped) : Summary :=
  { s with skipped := s.skipped ++ [skipped] }

end Summary

/-- How one configuration ended. -/
inductive Ending where
  | timed (report : TrialReport)
  | skipped (skipped : Skipped)
  | aborted (failure : Failure BenchError)

namespace Suite

section Run

variable [Processor] {m n : Type → Type} [Monad m] [Monad n] [Host n] [MonadLiftT m n]

/-- Turns an entry into a trial.  Only an entry that gives a shape is announced. -/
def prepare (options : Options) (kind : Kind) (entry : Entry) : n (Attempt KernelError Trial) := do
  match entry.toShape with
  | .error cause => return Attempt.fail (.invalidShape cause)
  | .ok shape =>
      Host.log (Trial.announcement kind shape)
      return Trial.prepare kind shape options

/-- Ends a configuration that could not be prepared. -/
def skipOrAbort (kind : Kind) (entry : Entry) (error : KernelError) : n Ending := do
  if error.isRecoverable then
    Host.logWarning s!"Skipping [{kind.name}/{entry.label}]: {error.message}"
    return .skipped ⟨kind, entry, error.message⟩
  else
    Host.logError s!"[{kind.name}/{entry.label}] fatal error: {error.message}"
    return .aborted (.error (.kernel error))

/-- Drives a prepared trial. -/
def drive (timer : Timer m) (trial : Trial) : n Ending := do
  match ← (trial.execute timer).run with
  | .ok report =>
      Host.logDebug s!"[{trial.label}] completed"
      return .timed report
  | .error (.error error) =>
      Host.logError s!"[{trial.label}] kernel fault, aborting run: {error.message}"
      return .aborted (.error (.kernel error))
  | .error (.trap trap) => return .aborted (.trap trap)

def runConfiguration (timer : Timer m) (options : Options) (kind : Kind) (entry : Entry) :
    n Ending := do
  match ← prepare options kind entry with
  | .ok trial => drive timer trial
  | .error (.error error) => skipOrAbort kind entry error
  | .error (.trap trap) => return .aborted (.trap trap)

/-- Runs configurations one after another, up to the first that is aborted. -/
def runEach (timer : Timer m) (options : Options) :
    List (Kind × Entry) → Summary → n (Attempt BenchError Summary)
  | [], summary => return .ok summary
  | (kind, entry) :: rest, summary => do
      match ← runConfiguration timer options kind entry with
      | .timed report => runEach timer options rest (summary.addReport report)
      | .skipped skipped => runEach timer options rest (summary.addSkipped skipped)
      | .aborted failure => return .error failure

/-- The distinct shapes that a list of kernels asks for, in the order of their first entry.  An
entry that gives no shape is left out; it is reported when its configuration is prepared. -/
def distinctShapes (s : Suite) (kinds : List Kind) : List Shape :=
  ((s.configurations kinds).filterMap fun (_, entry) => entry.toShape.toOption).eraseDups

/-- Compares the kernels on shapes one after another and collects the disagreements.  A shape that
a kernel does not take is reported when its configuration is prepared. -/
def verifyEach : List Shape → List BenchError → n (Attempt BenchError (List BenchError))
  | [], disagreements => return .ok disagreements
  | shape :: rest, disagreements => do
      match verifyKernels shape verifyTolerance with
      | .ok verification => do
          Host.log (verification.logLine shape)
          verifyEach rest disagreements
      | .error (.error error) =>
          if error.isDisagreement then do
            Host.logError s!"❌ {error.message}"
            verifyEach rest (disagreements ++ [error])
          else if error.isRecoverable then
            verifyEach rest disagreements
          else do
            Host.logError s!"Verification of [{shape.describe}] aborted: {error.message}"
            return Attempt.fail error
      | .error (.trap trap) => return .error (.trap trap)

/-- Compares the kernels on every distinct shape, if the suite asks for it. -/
def verifyShapes (s : Suite) (kinds : List Kind) : n (Attempt BenchError (List BenchError)) := do
  if s.verify then
    Host.logInfo "Verifying output consistency between reference and candidate kernels..."
    verifyEach (s.distinctShapes kinds) []
  else
    return .ok []

/-- Runs the configurations of the given kernels with a timer. -/
def runConfigurations (s : Suite) (kinds : List Kind) (timer : Timer m) :
    n (Attempt BenchError Summary) := do
  match ← s.verifyShapes kinds with
  | .ok disagreements =>
      runEach timer s.options (s.configurations kinds) { disagreements }
  | .error failure => return .error failure

end Run

section Printed

variable [Processor] {n : Type → Type} [Monad n] [Host n]

def closing (summary : Summary) : List String := [
  "", Report.rule,
  s!"Benchmark Complete: {summary.reports.length} timed, {summary.skipped.length} skipped, " ++
    s!"{summary.disagreements.length} verification failures",
  Report.rule]

/-- Runs the configurations of the given kernels with the fixed timer of the suite and prints the
report. -/
def runAndReport (s : Suite) (kinds : List Kind) : n (Attempt BenchError Summary) := do
  Host.logInfo Report.rule
  Host.logInfo s!"Convolution Benchmark: {s.name}"
  Host.logInfo s!"Warm-up iterations: {s.warmUps}, timed executions: {s.executions}"
  Host.logInfo Report.rule
  let timer : Timer n := Timer.fixed Host.clock s.warmUps s.executions
  match ← s.runConfigurations kinds timer with
  | .ok summary =>
      (Report.lines summary.results ++ closing summary).forM Host.print
      return .ok summary
  | .error failure => return .error failure

def runAll (s : Suite) : n (Attempt BenchError Summary) := s.runAndReport s.kinds

def runKernel (s : Suite) (kind : Kind) : n (Attempt BenchError Summary) :=
  if (s.shapesFor kind).isEmpty then
    return Attempt.fail (.execution kind.name "No shapes registered for this kernel")
  else
    s.runAndReport [kind]

/-- Runs the configurations of the kernel with a name. -/
def runNamed (s : Suite) (name : String) : n (Attempt BenchError Summary) :=
  match Kind.ofName? name with
  | some kind => s.runKernel kind
  | none => return Attempt.fail (.unknownKernel name)

end Printed

/-- A text filled up with blanks to a width. -/
def padRight (width : Nat) (text : String) : String :=
  text ++ String.ofList (List.replicate (width - text.length) ' ')

def entryLine (entry : Entry) : String :=
  let description := match entry.toShape with
    | .ok shape => shape.describe
    | .error cause => s!"invalid: {cause.message}"
  s!"    {padRight 28 entry.label} {description}"

def registrationLines (r : Registration) : List String :=
  s!"  {r.kernel.name} ({r.shapes.length} shapes)" :: r.shapes.map entryLine

/-- The registered configurations. -/
def listing (s : Suite) : List String :=
  [s!"Suite '{s.name}': {s.description}", "Available kernels:"] ++
    s.kernels.flatMap registrationLines

end Suite

end ConvLab
