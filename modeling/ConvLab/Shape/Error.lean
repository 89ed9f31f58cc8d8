/-!
# Shape errors

Why a shape gives no convolution problem, and the text that reports it.
-/

namespace ConvLab

/-- Why a shape gives no convolution problem. -/
inductive ShapeError where
  /-- A parameter that has to be positive is zero or negative. -/
  | nonPositive (parameter : String)
  /-- The kernel is larger than the padded input. -/
  | kernelExceedsInput (kernel padded : Nat)
  /-- A parameter has no place in the word range. -/
  | outOfRange (parameter : String) (value : Int)
  /-- The element count of a buffer leaves the word range. -/
  | sizeOverflow (buffer : String)
  /-- A given buffer does not hold what the shape asks for. -/
  | lengthMismatch (buffer : String) (expected actual : Nat)
  deriving DecidableEq, Repr

def ShapeError.message : ShapeError → String
  | .nonPositive parameter => s!"The {parameter} must be greater than 0"
  | .kernelExceedsInput kernel padded =>
      s!"Kernel size {kernel} exceeds the padded input extent {padded}, " ++
        "the output would be empty"
  | .outOfRange parameter value => s!"The {parameter} value {value} is out of range"
  | .sizeOverflow buffer => s!"The {buffer} buffer element count overflows usize"
  | .lengthMismatch buffer expected actual =>
      s!"The {buffer} buffer has {actual} elements, the shape requires {expected}"

end ConvLab
