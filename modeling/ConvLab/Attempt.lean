import ConvLab.Word

/-!
# Attempts

An attempt ends in a value, in an error of its own area, or in a trap.  An error is an answer
that its caller may handle; a trap ends the whole computation.

* `Failure ε` — an error of type `ε`, or a trap;
* `Attempt ε α` — a value of `α`, or a failure.
-/

namespace ConvLab

/-- What an attempt ends in when it gives no value. -/
inductive Failure (ε : Type) where
  | trap (cause : Trap)
  | error (cause : ε)
  deriving DecidableEq, Repr

/-- A value, or a failure. -/
abbrev Attempt (ε : Type) := Except (Failure ε)

namespace Failure

variable {ε δ : Type}

/-- The same failure, with its error restated for another area. -/
def map (f : ε → δ) : Failure ε → Failure δ
  | .trap cause => .trap cause
  | .error cause => .error (f cause)

def message (text : ε → String) : Failure ε → String
  | .trap cause => cause.message
  | .error cause => text cause

end Failure

namespace Attempt

variable {ε δ α : Type}

/-- An attempt that cannot trap. -/
def ofExcept (x : Except ε α) : Attempt ε α := x.mapError .error

/-- An attempt that has no error of its own. -/
def ofChecked (x : Checked α) : Attempt ε α := x.mapError .trap

/-- The same attempt, with its error restated for another area. -/
def mapError (f : ε → δ) (x : Attempt ε α) : Attempt δ α := Except.mapError (Failure.map f) x

def fail (e : ε) : Attempt ε α := .error (.error e)

/-- A checked computation is an attempt. -/
instance : MonadLift Checked (Attempt ε) := ⟨ofChecked⟩

end Attempt

end ConvLab
