import ConvLab.Json.Error
import ConvLab.Word

/-!
# JSON numbers

A number without fraction and exponent is an integer if it fits a signed or unsigned word; any
other number is a double.  Its digits go into a significand of one word.  Digits of the whole part
that no longer fit only raise the exponent, digits of the fraction that no longer fit are dropped,
and the significand is then scaled by one power of ten.

* `Number` — an integer or a double;
* `readNumber` — reads a number after its sign.
-/

namespace ConvLab

inductive Number where
  | natural (value : Nat)
  | negative (value : Int)
  | float (value : Float)
  deriving DecidableEq

def digitValue (c : Char) : Nat := c.toNat - 48

/-- Appends digits to a significand as long as it stays a word.  The digits that are left over
come back. -/
def absorb : Nat → List Char → Nat × List Char
  | significand, [] => (significand, [])
  | significand, c :: rest =>
      match Word.add? (significand * 10) (digitValue c) with
      | some next => absorb next rest
      | none => (significand, c :: rest)

/-- The largest power of ten that is taken in one step. -/
def maxPower : Nat := 308

/-- A double times a power of ten, if it is finite.  A power below `10 ^ (-308)` is taken in
several steps. -/
def scaleByTen (x : Float) (exponent : Int) : Option Float :=
  if exponent.natAbs ≤ maxPower then
    let power := Float.ofScientific 1 false exponent.natAbs
    if 0 ≤ exponent then
      let scaled := x * power
      if scaled.isInf then none else some scaled
    else
      some (x / power)
  else if x == 0.0 then
    some x
  else if 0 ≤ exponent then
    none
  else
    scaleByTen (x / Float.ofScientific 1 false maxPower) (exponent + maxPower)
termination_by exponent.natAbs
decreasing_by
  simp only [maxPower] at *
  omega

/-- The double with the given sign, significand and exponent. -/
def numberOfParts (negative : Bool) (significand : Nat) (exponent : Int) :
    Except JsonError Number :=
  match scaleByTen (Float.ofNat significand) exponent with
  | some x => .ok (.float (if negative then -x else x))
  | none => .error .malformed

/-- A number without fraction and exponent. -/
def wholeNumber (negative : Bool) (significand : Nat) : Number :=
  if negative then
    if 0 < significand ∧ significand ≤ 0x8000000000000000 then .negative (-significand)
    else .float (-Float.ofNat significand)
  else
    .natural significand

/-- Digits, at least one of them, and what follows. -/
def readDigits (cs : List Char) : Except JsonError (List Char × List Char) :=
  match cs with
  | [] => .error .truncated
  | c :: _ =>
      if c.isDigit then .ok (cs.takeWhile Char.isDigit, cs.dropWhile Char.isDigit)
      else .error .malformed

/-- The exponent after its mark. -/
def readExponent (cs : List Char) : Except JsonError (Int × List Char) := do
  let (sign, cs) : Int × List Char := match cs with
    | '+' :: rest => (1, rest)
    | '-' :: rest => (-1, rest)
    | _ => (1, cs)
  let (digits, rest) ← readDigits cs
  return (sign * (digits.foldl (fun n c => n * 10 + digitValue c) 0 : Nat), rest)

/-- Completes a double from its significand and exponent so far. -/
def finishNumber (negative : Bool) (significand : Nat) (exponent : Int) (cs : List Char) :
    Except JsonError (Number × List Char) := do
  let (shift, rest) ← match cs with
    | 'e' :: rest => readExponent rest
    | 'E' :: rest => readExponent rest
    | _ => .ok (0, cs)
  return (← numberOfParts negative significand (exponent + shift), rest)

def readNumber (negative : Bool) (cs : List Char) : Except JsonError (Number × List Char) := do
  let (whole, rest) ← readDigits cs
  if whole.head? = some '0' ∧ 1 < whole.length then
    throw .malformed
  let (significand, dropped) := absorb 0 whole
  match rest with
  | '.' :: rest => do
      let (fraction, rest) ← readDigits rest
      let (significand, unused) := absorb significand fraction
      let exponent : Int := dropped.length - (fraction.length - unused.length : Nat)
      finishNumber negative significand exponent rest
  | 'e' :: _ => finishNumber negative significand dropped.length rest
  | 'E' :: _ => finishNumber negative significand dropped.length rest
  | _ =>
      if dropped.isEmpty then
        return (wholeNumber negative significand, rest)
      else
        finishNumber negative significand dropped.length rest

end ConvLab
