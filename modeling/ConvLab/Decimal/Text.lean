import ConvLab.Decimal.Shortest

/-!
# Decimal text of floats

* `NumberStyle` — the decisions a number format takes: where the exponent form begins, whether a
  whole number keeps its point, how the exponent is signed, where ties go;
* `NumberStyle.render` — the shortest digits of a float, laid out in a style;
* `fixedPlaces`, `signedPlaces` — the exact value of a double, rounded to a number of decimal
  places, a tie going to the even digit.
-/

namespace ConvLab

open Float.Model (Format UnpackedFloat)

/-- How a float is laid out. -/
structure NumberStyle where
  /-- The exponents of the leading digit that are written without an exponent. -/
  positional : Int → Bool
  /-- Whether a whole number is written with a point and a zero. -/
  keepsPoint : Bool
  /-- Whether a positive exponent is written with its sign. -/
  signsExponent : Bool
  /-- Which of two equally near shortest decimals is taken. -/
  tie : Tie

def zeros (count : Nat) : String := String.ofList (List.replicate count '0')

namespace NumberStyle

/-- A decimal without an exponent. -/
def positionalText (style : NumberStyle) (d : Decimal) : String :=
  let text := toString d.digits
  let width := text.length
  if 0 ≤ d.exponent then
    text ++ zeros d.exponent.toNat ++ (if style.keepsPoint then ".0" else "")
  else
    let fraction := (-d.exponent).toNat
    if fraction < width then
      String.ofList (text.toList.take (width - fraction)) ++ "." ++
        String.ofList (text.toList.drop (width - fraction))
    else
      "0." ++ zeros (fraction - width) ++ text

/-- A decimal with one digit before the point and an exponent. -/
def exponentText (style : NumberStyle) (d : Decimal) : String :=
  let digits := (toString d.digits).toList
  let exponent := d.exponent + (digits.length - 1 : Nat)
  let rest := digits.drop 1
  String.ofList (digits.take 1) ++ (if rest.isEmpty then "" else "." ++ String.ofList rest) ++
    "e" ++ (if style.signsExponent ∧ 0 ≤ exponent then "+" else "") ++ toString exponent

def decimalText (style : NumberStyle) (d : Decimal) : String :=
  if style.positional (d.exponent + ((toString d.digits).length - 1 : Nat)) then
    style.positionalText d
  else
    style.exponentText d

def signText : UnpackedFloat.Sign → String
  | .negative => "-"
  | .positive => ""

/-- The shortest text of a float that reads back to it. -/
def render (style : NumberStyle) (format : Format) : UnpackedFloat → String
  | .notANumber => "NaN"
  | .infinity s => signText s ++ "inf"
  | .zero s => signText s ++ style.decimalText ⟨0, 0⟩
  | .finite s m e _ => signText s ++ style.decimalText (Decimal.shortest format style.tie m e)

def single (style : NumberStyle) (x : Float32) : String := style.render .binary32 x.toModel.unpack

def double (style : NumberStyle) (x : Float) : String := style.render .binary64 x.toModel.unpack

/-- Plain text: never an exponent, and no point in a whole number. -/
def plain : NumberStyle where
  positional _ := true
  keepsPoint := false
  signsExponent := false
  tie := .up

/-- Scientific text: always an exponent, which is signed only if it is negative. -/
def scientific : NumberStyle where
  positional _ := false
  keepsPoint := false
  signsExponent := false
  tie := .up

end NumberStyle

/-- `m * 2 ^ e` as a number of units of `10 ^ (-places)`, a tie going to the even number. -/
def unitsOf (places : Nat) (m : Nat) (e : Int) : Nat :=
  roundDiv .even ((m * tenTo places) <<< e.toNat) (1 <<< (-e).toNat)

/-- A number of units of `10 ^ (-places)`, with the point set. -/
def placesText (places units : Nat) : String :=
  let digits := toString units
  let padded := zeros (places + 1 - digits.length) ++ digits
  let whole := padded.length - places
  if places = 0 then padded
  else String.ofList (padded.toList.take whole) ++ "." ++ String.ofList (padded.toList.drop whole)

/-- A double with a fixed number of decimal places; `positive` stands in front of a value without
a minus sign. -/
def placesWith (positive : String) (places : Nat) (x : Float) : String :=
  let sign : UnpackedFloat.Sign → String
    | .negative => "-"
    | .positive => positive
  match x.toModel.unpack with
  | .notANumber => "NaN"
  | .infinity s => sign s ++ "inf"
  | .zero s => sign s ++ placesText places 0
  | .finite s m e _ => sign s ++ placesText places (unitsOf places m e)

def fixedPlaces (places : Nat) (x : Float) : String := placesWith "" places x

/-- A double with a fixed number of decimal places and a sign in any case. -/
def signedPlaces (places : Nat) (x : Float) : String := placesWith "+" places x

end ConvLab
