import ConvLab.Decimal.Text
import ConvLab.Text.Quoted

/-!
# Reading errors

Why a JSON text is not read.  The first problem from the left decides.

* `JsonError.malformed` — the text is no JSON;
* `JsonError.truncated` — the text ends too early;
* `JsonError.mismatch` — so far the text is JSON, but not what was asked for.
-/

namespace ConvLab

/-- What stood in the text in place of the value that was asked for. -/
inductive Found where
  | null
  | boolean (value : Bool)
  | integer (value : Int)
  | float (value : Float)
  | text (value : String)
  | sequence
  | map
  deriving DecidableEq

/-- How a value differs from the one that was asked for. -/
inductive Mismatch where
  | missingField (name : String)
  | duplicateField (name : String)
  | unknownVariant (name : String) (expected : List String)
  | invalidLength (count : Nat) (expected : String)
  | invalidType (found : Found) (expected : String)
  | invalidValue (found : Found) (expected : String)
  deriving DecidableEq

/-- Why a JSON text is not read. -/
inductive JsonError where
  | malformed
  | truncated
  | mismatch (cause : Mismatch)
  deriving DecidableEq

/-- Doubles in reports have an exponent outside the range from `1e-5` to `1e16`. -/
def NumberStyle.report : NumberStyle where
  positional exponent := -5 ≤ exponent ∧ exponent < 16
  keepsPoint := true
  signsExponent := true
  tie := .even

def Found.describe : Found → String
  | .null => "null"
  | .boolean value => s!"boolean `{value}`"
  | .integer value => s!"integer `{value}`"
  | .float value => "floating point `" ++ NumberStyle.report.double value ++ "`"
  | .text value => "string " ++ quoteForReport value
  | .sequence => "sequence"
  | .map => "map"

def alternatives : List String → String
  | [] => "there are no variants"
  | [a] => s!"expected `{a}`"
  | [a, b] => s!"expected `{a}` or `{b}`"
  | names => "expected one of " ++ ", ".intercalate (names.map fun name => s!"`{name}`")

def Mismatch.message : Mismatch → String
  | .missingField name => s!"missing field `{name}`"
  | .duplicateField name => s!"duplicate field `{name}`"
  | .unknownVariant name expected => s!"unknown variant `{name}`, " ++ alternatives expected
  | .invalidLength count expected => s!"invalid length {count}, expected {expected}"
  | .invalidType found expected => s!"invalid type: {found.describe}, expected {expected}"
  | .invalidValue found expected => s!"invalid value: {found.describe}, expected {expected}"

def JsonError.message : JsonError → String
  | .malformed => "the text is not valid JSON"
  | .truncated => "the text ends too early"
  | .mismatch cause => cause.message

end ConvLab
