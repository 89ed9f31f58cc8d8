import ConvLab.Bench.Log
import ConvLab.Kernel.Error

/-!
# Timers

A timer decides how often a routine is called, and measures it.

* `Routine` — something that can be called again and again, on a state of its own;
* `callTimes` — calls a routine a number of times, up to the first failure;
* `Timer` — warms a routine up and measures it;
* `Timer.fixed` — the timer with a fixed number of warm-up and of timed calls.
-/

namespace ConvLab

/-- Something that can be called again and again.  The answer holds its state after the call. -/
abbrev Routine (κ : Type) := κ → κ × Attempt KernelError Unit

/-- How a number of calls went. -/
structure Calls (κ : Type) where
  /-- The state after the last call. -/
  state : κ
  /-- The number of calls that succeeded. -/
  completed : Nat
  outcome : Attempt KernelError Unit

/-- Calls a routine a number of times, `completed` calls having succeeded before.  A failure ends
the calls. -/
def callFrom {κ : Type} (routine : Routine κ) (completed : Nat) : (count : Nat) → κ → Calls κ
  | 0, state => ⟨state, completed, .ok ()⟩
  | count + 1, state =>
      match routine state with
      | (state, .ok ()) => callFrom routine (completed + 1) count state
      | (state, .error failure) => ⟨state, completed, .error failure⟩

def callTimes {κ : Type} (routine : Routine κ) (count : Nat) (state : κ) : Calls κ :=
  callFrom routine 0 count state

structure Measurement where
  totalNs : Nat
  iterations : UInt32
  deriving DecidableEq, Repr

/-- What a timer did with a routine.  The log lines are handed back, so that nothing is written
while the routine is measured. -/
structure Driven (κ α : Type) where
  state : κ
  outcome : Attempt KernelError α
  log : List LogLine

/-- The timing side of a benchmark, with effects in `m`. -/
structure Timer (m : Type → Type) where
  /-- Whether the timer warms up at all. -/
  warmsUp : m Bool
  /-- Calls a routine without measuring it. -/
  warmUp : {κ : Type} → Routine κ → κ → m (Driven κ Unit)
  /-- Measures a routine under a label.  A timer may keep its measurement to itself. -/
  measure : {κ : Type} → String → Routine κ → κ → m (Driven κ (Option Measurement))

namespace Timer

variable {m : Type → Type} [Monad m]

/-- The number of calls between two progress lines. -/
def progressStep (executions : Nat) : Nat := max (executions / 10) 1

/-- The progress lines after a number of calls have succeeded. -/
def progress (executions completed : Nat) : List LogLine :=
  ((List.range' 1 completed).filter (· % progressStep executions = 0)).map
    fun i => ⟨.debug, s!"  Progress: {i}/{executions}"⟩

/-- What `Timer.fixed` logs of a measurement. -/
def fixedLog (label : String) (executions completed : Nat) : List LogLine :=
  ⟨.info, s!"Benchmarking {label} ({executions} executions)..."⟩ :: progress executions completed

/-- The timer with a fixed number of warm-up and of timed calls. -/
def fixed (clock : m Nat) (warmUps executions : UInt32) : Timer m where
  warmsUp := pure (0 < warmUps)
  warmUp routine state :=
    let calls := callTimes routine warmUps.toNat state
    pure ⟨calls.state, calls.outcome, []⟩
  measure label routine state := do
    let start ← clock
    let calls := callTimes routine executions.toNat state
    let log := fixedLog label executions.toNat calls.completed
    match calls.outcome with
    | .error failure => pure ⟨calls.state, .error failure, log⟩
    | .ok () =>
        let stop ← clock
        pure ⟨calls.state, .ok (some ⟨stop - start, executions⟩), log⟩

/-- The timer that never warms up, calls a routine a number of times and keeps the measurement to
itself. -/
def withheld (count : Nat) : Timer m where
  warmsUp := pure false
  warmUp _ state := pure ⟨state, .ok (), []⟩
  measure _ routine state :=
    let calls := callTimes routine count state
    pure ⟨calls.state, calls.outcome.map fun _ => none, []⟩

end Timer

end ConvLab
