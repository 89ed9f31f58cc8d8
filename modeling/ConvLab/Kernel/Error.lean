import ConvLab.Attempt
import ConvLab.Shape.Error

/-!
# Kernel errors

What can go wrong between a shape and a finished run of a kernel, and the texts that report it.
-/

namespace ConvLab

/-- What went wrong while a problem was built or a kernel driven over it. -/
inductive KernelError where
  /-- The shape gives no problem. -/
  | invalidShape (cause : ShapeError)
  /-- The kernel does not accept the problem. -/
  | rejected (kernel reason : String)
  /-- The kernel failed while it ran. -/
  | fault (kernel reason : String)
  deriving DecidableEq, Repr

namespace KernelError

def message : KernelError → String
  | .invalidShape cause => s!"Invalid convolution shape: {cause.message}"
  | .rejected kernel reason => s!"Kernel '{kernel}' rejected the configuration: {reason}"
  | .fault kernel reason => s!"Kernel '{kernel}' faulted during execution: {reason}"

/-- The texts of the causes behind the error, the nearest first. -/
def causes : KernelError → List String
  | .invalidShape cause => [cause.message]
  | .rejected _ _ => []
  | .fault _ _ => []

/-- Whether the error concerns its own configuration only.  A fault in a running kernel
invalidates the whole comparison. -/
def isRecoverable : KernelError → Bool
  | .fault _ _ => false
  | _ => true

end KernelError

/-- An attempt on a shape, as an attempt on a kernel. -/
def Attempt.onShape {α : Type} (x : Attempt ShapeError α) : Attempt KernelError α :=
  x.mapError .invalidShape

end ConvLab
