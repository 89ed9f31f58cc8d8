import ConvLab.Bench.Timer

/-!
# Scripted timers

A timer that follows a script instead of a clock, for the rehearsal of a run: the script fixes the
numbers of calls, the measurement and, if wanted, a call that fails.
-/

namespace ConvLab

/-- What a scripted timer does. -/
structure Script where
  warmsUp : Bool
  /-- The number of calls of a warm-up. -/
  warmCalls : Nat
  /-- The number of calls of a measurement. -/
  calls : Nat
  measurement : Option Measurement
  /-- The number of the call that fails, counted from one, and its error. -/
  fault : Option (Nat × KernelError)

/-- What a scripted timer has done. -/
structure Rehearsal where
  /-- The number of calls so far. -/
  calls : Nat := 0
  /-- What the timer was asked to do, in order. -/
  events : List String := []
  deriving DecidableEq, Repr

namespace Script

/-- A routine whose calls are counted, and which fails at the call that the script names. -/
def routine {κ : Type} (s : Script) (inner : Routine κ) : Routine (Nat × κ) :=
  fun (calls, state) =>
    let call := calls + 1
    match s.fault with
    | some (number, error) =>
        if call = number then ((call, state), Attempt.fail error)
        else
          let (state, outcome) := inner state
          ((call, state), outcome)
    | none =>
        let (state, outcome) := inner state
        ((call, state), outcome)

/-- Calls a routine under the script, after noting what was asked. -/
def drive {κ α : Type} (s : Script) (event : String) (count : Nat) (answer : α)
    (inner : Routine κ) (state : κ) : StateM Rehearsal (Driven κ α) := fun r =>
  let calls := callTimes (s.routine inner) count (r.calls, state)
  (⟨calls.state.2, calls.outcome.map fun _ => answer, []⟩,
    ⟨calls.state.1, r.events ++ [event]⟩)

def timer (s : Script) : Timer (StateM Rehearsal) where
  warmsUp := pure s.warmsUp
  warmUp inner state := s.drive "warm_up" s.warmCalls () inner state
  measure label inner state := s.drive s!"measure {label}" s.calls s.measurement inner state

end Script

end ConvLab
