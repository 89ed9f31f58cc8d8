import ConvLab.Kernel.Kind
import ConvLab.Problem

/-!
# The reference kernel

A problem bound to a convolution primitive.  The descriptor is built, planned and bound when the
kernel is created; a run only executes.
-/

namespace ConvLab

variable {α : Type}

/-- A problem bound to a primitive. -/
structure Reference (α : Type) where
  problem : Problem α
  primitive : Primitive α

namespace Reference

/-- The descriptor of a problem: the same extents along both axes, and a rectifier at the end. -/
def descriptor (p : Problem α) : Descriptor where
  batch := p.shape.batch
  inChannels := p.shape.inChannels
  inH := p.shape.inDim
  inW := p.shape.inDim
  outChannels := p.shape.outChannels
  kernelH := p.shape.kernelSize
  kernelW := p.shape.kernelSize
  padH := p.shape.padding
  padW := p.shape.padding
  strideH := p.shape.stride
  strideW := p.shape.stride
  postOps := [.relu]

/-- A primitive error that stands in the way of creating the kernel. -/
def rejection (e : PrimitiveError) : KernelError := .rejected Kind.reference.name e.message

/-- A primitive error while the kernel runs. -/
def faultOf (e : PrimitiveError) : KernelError := .fault Kind.reference.name e.message

def create [Processor] [Element α] (p : Problem α) : Attempt KernelError (Reference α) := do
  let primitive ← Attempt.mapError rejection (Primitive.create (descriptor p))
  Attempt.mapError rejection (primitive.bind p.memory)
  return { problem := p, primitive }

def run [Element α] (k : Reference α) : Reference α × Attempt KernelError Unit :=
  let ((primitive, memory), result) := k.primitive.execute k.problem.memory
  ({ problem := { k.problem with memory }, primitive }, Attempt.mapError faultOf result)

end Reference

end ConvLab
