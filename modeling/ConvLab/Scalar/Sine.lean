import ConvLab.Scalar.Single

/-!
# The sine of a single-precision float

A finite float is a dyadic rational, so its sine can be approximated as closely as one likes in
integer arithmetic and then rounded once.  The argument is reduced modulo a full turn with
`turnBits` fraction bits, which is enough for the smallest and the largest float; the power series
gives the ratio of the sine to the reduced angle, with `seriesBits` fraction bits, so that a small
sine is as exact as a large one.

* `Sine.halfTurn` — π, by Machin's formula `π = 16 arctan (1/5) - 4 arctan (1/239)`;
* `Sine.reduce` — the sign of the sine, and an angle of at most a quarter turn with that sine;
* `Single.sin` — the sine, rounded to the nearest float.
-/

namespace ConvLab

namespace Sine

def turnBits : Nat := 340

def seriesBits : Nat := 96

/-- The first `count` terms `term / n - term / (x² (n + 2)) + …` of the inverse tangent series. -/
def arctanTerms (x : Nat) : (count : Nat) → (term n : Nat) → Int
  | 0, _, _ => 0
  | count + 1, term, n => (term / n : Nat) - arctanTerms x count (term / (x * x)) (n + 2)

/-- The inverse tangent of `1 / x`, with `bits` fraction bits. -/
def arctanInverse (x bits : Nat) : Int := arctanTerms x bits ((1 <<< bits) / x) 1

/-- Half a turn with `turnBits` fraction bits; 64 further bits absorb the rounding of the terms. -/
def halfTurn : Nat :=
  let bits := turnBits + 64
  (16 * arctanInverse 5 bits - 4 * arctanInverse 239 bits).toNat >>> 64

/-- The terms `term - term x² / ((n + 1) (n + 2)) + …` of a sine series, `square` being `x²`. -/
def seriesTerms (square : Nat) : (count : Nat) → (term n : Nat) → Int
  | 0, _, _ => 0
  | count + 1, term, n =>
      term - seriesTerms square count
        ((term * square) >>> seriesBits / ((n + 1) * (n + 2))) (n + 2)

/-- The ratio of the sine to its angle, for an angle of at most a quarter turn, both with
`seriesBits` fraction bits. -/
def ratio (angle : Nat) : Int :=
  seriesTerms ((angle * angle) >>> seriesBits) 18 (1 <<< seriesBits) 1

/-- Brings an angle with `turnBits` fraction bits into the first quarter turn.  The flag tells
whether the sine changes its sign on the way. -/
def reduce (angle : Nat) : Bool × Nat :=
  let inTurn := angle % (2 * halfTurn)
  let flip := halfTurn ≤ inTurn
  let inHalf := if flip then inTurn - halfTurn else inTurn
  (flip, if halfTurn < 2 * inHalf then halfTurn - inHalf else inHalf)

def sineBits : Nat := turnBits + seriesBits

/-- The sine of `m * 2 ^ e`, with `sineBits` fraction bits. -/
def ofDyadic (m : Nat) (e : Int) : Int :=
  let (flip, angle) := reduce (m <<< (e + turnBits).toNat)
  let sine := angle * ratio (angle >>> (turnBits - seriesBits))
  if flip then -sine else sine

end Sine

/-- The sine, rounded to the nearest float.  An infinite argument has none. -/
def Single.sin (x : Float32) : Float32 :=
  match Single.dyadic? x with
  | some ⟨mantissa, exponent⟩ =>
      if mantissa = 0 then x
      else
        let sine := Sine.ofDyadic mantissa.natAbs exponent
        Single.nearest ⟨if mantissa < 0 then -sine else sine, -Sine.sineBits⟩
  | none => x - x

end ConvLab
