import ConvLab.Json.Error
import ConvLab.Kernel.Error
import ConvLab.Shape.Basic

/-!
# Benchmark errors

What can go wrong from the reading of a suite to the end of its run, and the texts that report
it.
-/

namespace ConvLab

/-- What went wrong in a benchmark. -/
inductive BenchError where
  /-- There is no suite file at the path. -/
  | suiteNotFound (path : String)
  /-- The suite file does not hold a suite. -/
  | suiteUnreadable (path : String) (cause : JsonError)
  /-- The suite or the command line asks for something that cannot be done. -/
  | invalidSetting (field reason : String)
  /-- A file could not be read. -/
  | file (reason : String)
  /-- The suite asks for no execution. -/
  | invalidExecutions (count : UInt32)
  /-- There is no kernel of that name. -/
  | unknownKernel (name : String)
  /-- A kernel failed. -/
  | kernel (cause : KernelError)
  /-- The two kernels disagree. -/
  | disagreement (shape : Shape) (reason : String)
  /-- There is nothing to run. -/
  | execution (name reason : String)
  deriving DecidableEq

namespace BenchError

def message : BenchError → String
  | .suiteNotFound path => s!"Configuration file not found: {path}"
  | .suiteUnreadable path cause =>
      s!"Failed to parse configuration file '{path}': {cause.message}"
  | .invalidSetting field reason =>
      s!"Configuration validation error for field '{field}': {reason}"
  | .file reason => s!"IO error: {reason}"
  | .invalidExecutions count =>
      s!"Invalid number of executions: {count}. Must be greater than 0"
  | .unknownKernel name => s!"Unknown kernel: '{name}'. Supported: reference, candidate"
  | .kernel cause => s!"Convolution error: {cause.message}"
  | .disagreement shape reason =>
      s!"Output verification failed for [{shape.describe}]: {reason}"
  | .execution name reason => s!"Benchmark '{name}' execution error: {reason}"

/-- The texts of the causes behind the error, the nearest first. -/
def causes : BenchError → List String
  | .suiteUnreadable _ cause => [cause.message]
  | .file reason => [reason]
  | .kernel cause => cause.message :: cause.causes
  | _ => []

def isDisagreement : BenchError → Bool
  | .disagreement _ _ => true
  | _ => false

/-- Whether the error concerns one configuration only. -/
def isRecoverable : BenchError → Bool
  | .kernel cause => cause.isRecoverable
  | _ => false

end BenchError

/-- An attempt on a kernel, as a part of a benchmark. -/
def Attempt.onKernel {α : Type} (x : Attempt KernelError α) : Attempt BenchError α :=
  x.mapError .kernel

end ConvLab
