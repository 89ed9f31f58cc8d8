import ConvLab.Bench.Runner
import ConvLab.Suite.Loader

/-!
# The command line

* `CommandLine.takeOption` — takes an option with its value out of the arguments;
* `Command.ofArguments` — what the remaining arguments ask for;
* `CommandLine.run` — carries it out and answers with an exit code.
-/

namespace ConvLab

/-- What the arguments ask for. -/
inductive Command where
  | runAll
  | runNamed (kernel : String)
  | list
  | help
  deriving DecidableEq, Repr

/-- What the arguments ask for.  Arguments that ask for nothing else ask for help. -/
def Command.ofArguments : List String → Command
  | [] => .runAll
  | [argument] =>
      if argument = "--list" then .list
      else if argument.startsWith "--" ∨ argument = "-h" then .help
      else .runNamed argument
  | [flag, kernel] => if flag = "--kernel" then .runNamed kernel else .help
  | _ => .help

namespace CommandLine

/-- Takes an option with its value out of the arguments. -/
def takeOption (name : String) : List String → Except BenchError (Option String × List String)
  | [] => .ok (none, [])
  | argument :: rest =>
      if argument = name then
        match rest with
        | [] => .error (.invalidSetting name "Missing value")
        | value :: rest => .ok (some value, rest)
      else do
        let (value, rest) ← takeOption name rest
        return (value, argument :: rest)

def usage : List String := [
  "Usage:",
  "  cargo run --bin conv_benchmark --release                     # Run all kernels",
  "  cargo run --bin conv_benchmark --release -- --list           # List configurations",
  "  cargo run --bin conv_benchmark --release -- <kernel>         # Run one kernel",
  "  cargo run --bin conv_benchmark --release -- --kernel <kernel>",
  "  cargo run --bin conv_benchmark --release -- --config <path> [...]",
  "",
  "Available kernels:",
  "  reference - Operator primitive, described and bound once",
  "  candidate - Direct kernel with a flat argument list (no padding, unit stride)"]

/-- The first disagreement of the kernels makes a run fail. -/
def checkAgreement (summary : Summary) : Attempt BenchError Unit :=
  match summary.disagreements with
  | [] => .ok ()
  | first :: _ => Attempt.fail first

variable [Processor] {n : Type → Type} [Monad n] [Host n]

def perform (suite : Suite) : Command → n (Attempt BenchError Unit)
  | .runAll => do return (← suite.runAll) >>= checkAgreement
  | .runNamed kernel => do return (← suite.runNamed kernel) >>= checkAgreement
  | .list => do
      suite.listing.forM Host.print
      return .ok ()
  | .help => do
      usage.forM Host.print
      return .ok ()

/-- Loads the suite and carries out what the arguments ask for. -/
def attempt [TextLayer] (arguments : List String) : n (Attempt BenchError Unit) := do
  match takeOption "--config" arguments with
  | .error error => return Attempt.fail error
  | .ok (path, rest) =>
      match ← (Suite.openAt path).run with
      | .error error => return Attempt.fail error
      | .ok suite => perform suite (Command.ofArguments rest)

/-- The exit code of a program that was stopped by a trap. -/
def trapCode : UInt32 := 101

def run [TextLayer] (arguments : List String) : n UInt32 := do
  match ← attempt arguments with
  | .ok () => return 0
  | .error (.error error) =>
      Host.logError s!"Benchmark execution failed: {error.message}"
      return 1
  | .error (.trap _) => return trapCode

end CommandLine

end ConvLab
