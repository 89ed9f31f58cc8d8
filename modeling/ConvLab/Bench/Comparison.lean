import ConvLab.Decimal.Text
import ConvLab.Scalar.Single

/-!
# Comparing outputs

Two outputs agree if they have the same length and every two elements are near to each other,
measured by the magnitude of the expected one.

* `Discrepancy` — the first way in which two outputs differ;
* `compareOutputs` — the largest difference of two outputs that agree.
-/

namespace ConvLab

/-- The first way in which two outputs differ. -/
inductive Discrepancy where
  | length (expected actual : Nat)
  | element (index : Nat) (expected actual difference : Float32)
  deriving DecidableEq

def Discrepancy.message : Discrepancy → String
  | .length expected actual =>
      s!"length mismatch: expected {expected} elements, got {actual}"
  | .element index expected actual difference =>
      let text := NumberStyle.plain.single
      s!"element {index}: expected={text expected}, actual={text actual}, " ++
        s!"diff={text difference}"

/-- Whether a difference is within the tolerance.  The tolerance is relative to expected values
above one. -/
def isNear (tolerance expected difference : Float32) : Bool :=
  difference ≤ tolerance * Single.max expected.abs 1.0

/-- Compares elements from the given index on; `largest` is the largest difference before it. -/
def compareFrom (tolerance : Float32) :
    (index : Nat) → (largest : Float32) → List (Float32 × Float32) → Except Discrepancy Float32
  | _, largest, [] => .ok largest
  | index, largest, (expected, actual) :: rest =>
      let difference := (expected - actual).abs
      if isNear tolerance expected difference then
        compareFrom tolerance (index + 1) (Single.max largest difference) rest
      else
        .error (.element index expected actual difference)

def compareOutputs (tolerance : Float32) (expected actual : Array Float32) :
    Except Discrepancy Float32 :=
  if expected.size ≠ actual.size then
    .error (.length expected.size actual.size)
  else
    compareFrom tolerance 0 0.0 (expected.toList.zip actual.toList)

end ConvLab
