import ConvLab.Scalar.Element

/-!
# Single-precision elements

The operations on 32-bit floats that the core library does not have, each of them *exact and then
rounded once* to the nearest value, a tie going to the even mantissa.

* `Dyadic` — an integer times a power of two, the exact value of a finite float;
* `Single.place`, `Single.nearest` — rounding: the non-negative floats are numbered by their bits in
  ascending order, and a value is rounded to one of these places;
* `Single.mulAdd` — the fused product-sum: one rounding for the product and the sum together;
* `Single.max` — the maximum that prefers a number to a NaN;
* `Single.ofInt`, `Single.ofDouble` — conversions;
* the instance `Element Float32`.
-/

namespace ConvLab

/-- The number `mantissa * 2 ^ exponent`. -/
structure Dyadic where
  mantissa : Int
  exponent : Int
  deriving DecidableEq, Repr

namespace Dyadic

def mul (x y : Dyadic) : Dyadic := ⟨x.mantissa * y.mantissa, x.exponent + y.exponent⟩

/-- A mantissa for the given lower exponent. -/
def mantissaAt (x : Dyadic) (exponent : Int) : Int :=
  x.mantissa * (1 <<< (x.exponent - exponent).toNat : Nat)

def add (x y : Dyadic) : Dyadic :=
  let exponent := min x.exponent y.exponent
  ⟨x.mantissaAt exponent + y.mantissaAt exponent, exponent⟩

end Dyadic

namespace Single

def mantissaBits : Nat := 23

/-- The place of the first float with an implicit bit. -/
def leastNormal : Nat := 1 <<< mantissaBits

/-- The exponent of the least positive float. -/
def minExponent : Int := -149

def infinityPlace : Nat := 255 * leastNormal

def signBit : Nat := 0x80000000

/-- The exact value of a finite float. -/
def dyadic? (x : Float32) : Option Dyadic :=
  let bits := x.toBits.toNat
  let place := bits % signBit
  let exponent := place / leastNormal
  let digits := place % leastNormal
  if infinityPlace ≤ place then none
  else
    let mantissa : Int := if exponent = 0 then digits else leastNormal + digits
    let shift : Int := (exponent - 1 : Nat)
    some ⟨if bits < signBit then mantissa else -mantissa, minExponent + shift⟩

/-- The integer nearest to `m / 2 ^ shift`, a tie going to the even one. -/
def roundShift (m shift : Nat) : Nat :=
  let kept := m >>> shift
  match compare (2 * (m - kept <<< shift)) (1 <<< shift) with
  | .lt => kept
  | .eq => kept + kept % 2
  | .gt => kept + 1

/-- The place of the float nearest to `m * 2 ^ e`, for a positive `m`.  A mantissa that is rounded up
to one bit more gives the place of the next exponent. -/
def place (m : Nat) (e : Int) : Nat :=
  let unit := Max.max (e + m.log2 - mantissaBits) minExponent
  let digits := if unit ≤ e then m <<< (e - unit).toNat else roundShift m (unit - e).toNat
  min ((unit - minExponent).toNat * leastNormal + digits) infinityPlace

def nearest (x : Dyadic) : Float32 :=
  let sign := if x.mantissa < 0 then signBit else 0
  if x.mantissa = 0 then 0.0
  else Float32.ofBits (UInt32.ofNat (sign + place x.mantissa.natAbs x.exponent))

/-- `x * y + z`, rounded once.  A product that is zero, infinite or undefined has no digits to lose,
and the ordinary product serves. -/
def mulAdd (x y z : Float32) : Float32 :=
  match dyadic? x, dyadic? y with
  | some a, some b =>
      match dyadic? z with
      | some c =>
          let product := a.mul b
          if product.mantissa = 0 then x * y + z else nearest (product.add c)
      | none => z
  | _, _ => x * y + z

/-- The larger value.  A NaN gives way to the other operand; of two equal values the second is
taken, so `max (-0.0) 0.0` is `0.0`. -/
def max (x y : Float32) : Float32 := if x.isNaN ∨ x ≤ y then y else x

def ofInt (n : Int) : Float32 := nearest ⟨n, 0⟩

def ofDouble (x : Float) : Float32 :=
  match x.toModel.unpack with
  | .finite s m e _ => nearest ⟨s.apply m, e⟩
  | special => .ofModel (.pack special)

end Single

/-- Kernels run on 32-bit floats. -/
instance : Element Float32 where
  zero := 0.0
  add x y := x + y
  mul x y := x * y
  mulAdd := Single.mulAdd
  max := Single.max

end ConvLab
