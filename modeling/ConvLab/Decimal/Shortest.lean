/-!
# Shortest decimals

The fewest decimal digits that read back to a given binary float, and of those the nearest to it.

A finite float is `m * 2 ^ e`.  The reals that round to it form an interval; a decimal
`t * 10 ^ k` reads back to the float exactly if it lies there.  Grids `10 ^ k` are tried from the
coarsest on: on each of them only the two neighbours of the value can be the nearest hit.

* `Decimal` — `digits * 10 ^ exponent`;
* `Tie` — where a value halfway between two neighbours goes;
* `Neighbourhood` — the reals that round to a float;
* `Decimal.shortest` — the decimal described above;
* `roundDiv` — a quotient rounded to the nearest natural number.
-/

namespace ConvLab

open Float.Model (Format)

/-- Where a value halfway between two neighbours goes. -/
inductive Tie where
  /-- To the neighbour with an even last digit. -/
  | even
  /-- To the larger neighbour. -/
  | up
  deriving DecidableEq, Repr

/-- The neighbour of `low + 1/2`. -/
def Tie.resolve (tie : Tie) (low : Nat) : Nat :=
  match tie with
  | .even => low + low % 2
  | .up => low + 1

/-- The quotient of `num` and `den`, rounded to the nearest natural number. -/
def roundDiv (tie : Tie) (num den : Nat) : Nat :=
  let low := num / den
  match compare (2 * (num % den)) den with
  | .lt => low
  | .eq => tie.resolve low
  | .gt => low + 1

def tenTo (k : Nat) : Nat := Nat.pow 10 k

/-- The number `digits * 10 ^ exponent`. -/
structure Decimal where
  digits : Nat
  exponent : Int
  deriving DecidableEq, Repr

/-- The reals that round to one float: from `low` to `high` in units of `2 ^ unit`, around
`middle`, the ends included if `closed`. -/
structure Neighbourhood where
  low : Nat
  middle : Nat
  high : Nat
  unit : Int
  closed : Bool

namespace Neighbourhood

/-- The reals that round to `m * 2 ^ e`.  Below a power of two the floats lie twice as dense,
except at the lower end of the exponent range. -/
def ofFinite (format : Format) (m : Nat) (e : Int) : Neighbourhood :=
  let powerOfTwo := m = 1 <<< format.mantissaBitsWithoutImplicit ∧ e ≠ format.minExponent
  { low := 4 * m - if powerOfTwo then 1 else 2
    middle := 4 * m
    high := 4 * m + 2
    unit := e - 2
    closed := m % 2 = 0 }

/-- `t * 10 ^ k` over the common denominator with the unit. -/
def decimal (n : Neighbourhood) (k : Int) (t : Nat) : Nat :=
  (t * tenTo k.toNat) <<< (-n.unit).toNat

/-- `v` units over the common denominator with `10 ^ k`. -/
def binary (n : Neighbourhood) (k : Int) (v : Nat) : Nat :=
  (v * tenTo (-k).toNat) <<< n.unit.toNat

/-- Whether `t * 10 ^ k` rounds to the float. -/
def contains (n : Neighbourhood) (k : Int) (t : Nat) : Bool :=
  let x := n.decimal k t
  if n.closed then n.binary k n.low ≤ x ∧ x ≤ n.binary k n.high
  else n.binary k n.low < x ∧ x < n.binary k n.high

/-- The multiple of `10 ^ k` that is nearest to the float among those that round to it. -/
def nearest? (n : Neighbourhood) (tie : Tie) (k : Int) : Option Nat :=
  let below := n.binary k n.middle / n.decimal k 1
  let above := below + 1
  match n.contains k below, n.contains k above with
  | false, false => none
  | true, false => some below
  | false, true => some above
  | true, true => some (roundDiv tie (n.binary k n.middle) (n.decimal k 1))

/-- The exponent of the leading decimal digit of the float. -/
def leadingExponent (n : Neighbourhood) : Int :=
  let num := n.binary 0 n.middle
  let den := n.decimal 0 1
  if den ≤ num then
    (Nat.toDigits 10 (num / den)).length - 1
  else
    -((Nat.toDigits 10 ((den - 1) / num)).length : Int)

end Neighbourhood

namespace Decimal

/-- Moves trailing zeros, at most `count` of them, into the exponent. -/
def dropZeros : (count : Nat) → Decimal → Decimal
  | 0, d => d
  | count + 1, d =>
      if d.digits % 10 = 0 then dropZeros count ⟨d.digits / 10, d.exponent + 1⟩ else d

/-- No binary format in use needs more digits than this to be read back. -/
def maxDigits : Nat := 17

/-- The decimal with the fewest digits that reads back to `m * 2 ^ e`, `m` being positive. -/
def shortest (format : Format) (tie : Tie) (m : Nat) (e : Int) : Decimal :=
  let near := Neighbourhood.ofFinite format m e
  let hit := (List.range maxDigits).findSome? fun (i : Nat) =>
    let k := near.leadingExponent - i
    (near.nearest? tie k).map (Decimal.mk · k)
  dropZeros (maxDigits + 1) (hit.getD ⟨m, e⟩)

end Decimal

end ConvLab
