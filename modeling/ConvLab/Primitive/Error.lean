/-!
# Primitive errors

Why a convolution primitive cannot be created, bound or executed, and the text that reports it.
-/

namespace ConvLab

/-- Why a primitive cannot be created, bound or executed. -/
inductive PrimitiveError where
  /-- An extent or a stride is zero. -/
  | zeroDimension (field : String)
  /-- The kernel is larger than the padded input along one axis. -/
  | kernelDoesNotFit (axis : String) (kernel padded : Nat)
  /-- A size leaves the word range. -/
  | sizeOverflow (what : String)
  /-- The plan needs more scratch elements than are allowed. -/
  | workspaceTooLarge (actual allowed : Nat)
  /-- A bound buffer does not have the length that the descriptor asks for. -/
  | sizeMismatch (argument : String) (actual expected : Nat)
  /-- An operator found a buffer too short. -/
  | operatorFailed (operator reason : String)
  deriving DecidableEq, Repr

def PrimitiveError.message : PrimitiveError → String
  | .zeroDimension field => s!"Descriptor field '{field}' must be greater than 0"
  | .kernelDoesNotFit axis kernel padded =>
      s!"Kernel extent {kernel} does not fit the padded input extent {padded} " ++
        s!"along the {axis} axis"
  | .sizeOverflow what => s!"The {what} size overflows usize"
  | .workspaceTooLarge actual allowed =>
      s!"Scratch workspace exceeds the maximum allowed elements: {actual} > {allowed}"
  | .sizeMismatch argument actual expected =>
      s!"Bound {argument} memory has {actual} elements, the descriptor requires {expected}"
  | .operatorFailed operator reason => s!"Operator '{operator}' failed: {reason}"

end ConvLab
