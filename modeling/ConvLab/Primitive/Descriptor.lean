import ConvLab.Attempt
import ConvLab.Primitive.Error

/-!
# Convolution descriptors

A descriptor says what a primitive computes: the extents of a forward convolution over NCHW
images and OIHW weights, the padding and the stride along each axis, and the operations applied to
each output element afterwards.

* `Descriptor.validate` — decides whether a primitive supports the descriptor;
* `Descriptor.outH`, `Descriptor.outW` — the output extents;
* `Descriptor.patchLen` — the input elements behind one output element;
* `Descriptor.srcLen` and its companions — the lengths of the buffers;
* `Descriptor.isPointwise` — whether the convolution only mixes the channels of a pixel.

The sizes are checked arithmetic on any descriptor; on a valid one no check fails.
-/

namespace ConvLab

/-- An operation applied to each output element. -/
inductive PostOp where
  /-- Negative elements become zero. -/
  | relu
  deriving DecidableEq, Repr

structure Descriptor where
  batch : Nat
  inChannels : Nat
  inH : Nat
  inW : Nat
  outChannels : Nat
  kernelH : Nat
  kernelW : Nat
  padH : Nat
  padW : Nat
  strideH : Nat
  strideW : Nat
  postOps : List PostOp
  deriving DecidableEq, Repr

namespace Descriptor

/-- The number of output positions along one axis. -/
def outExtent (input padding kernel stride : Nat) : Checked Nat := do
  let padded ← Word.add input (← Word.mul 2 padding)
  let span ← Word.sub padded kernel
  let steps ← Word.div span stride
  Word.add steps 1

def outH (d : Descriptor) : Checked Nat := outExtent d.inH d.padH d.kernelH d.strideH

def outW (d : Descriptor) : Checked Nat := outExtent d.inW d.padW d.kernelW d.strideW

def outPixels (d : Descriptor) : Checked Nat := do
  let height ← d.outH
  Word.mul height (← d.outW)

/-- Input elements behind one output element. -/
def patchLen (d : Descriptor) : Checked Nat := do
  Word.mul (← Word.mul d.inChannels d.kernelH) d.kernelW

def srcImageLen (d : Descriptor) : Checked Nat := do
  Word.mul (← Word.mul d.inChannels d.inH) d.inW

def dstImageLen (d : Descriptor) : Checked Nat := do
  let rows ← Word.mul d.outChannels (← d.outH)
  Word.mul rows (← d.outW)

def srcLen (d : Descriptor) : Checked Nat := do Word.mul d.batch (← d.srcImageLen)

def weightsLen (d : Descriptor) : Checked Nat := do Word.mul d.outChannels (← d.patchLen)

def biasLen (d : Descriptor) : Nat := d.outChannels

def dstLen (d : Descriptor) : Checked Nat := do Word.mul d.batch (← d.dstImageLen)

/-- Whether each output pixel depends on the input pixel at its own place alone. -/
def isPointwise (d : Descriptor) : Bool :=
  d.kernelH = 1 ∧ d.kernelW = 1 ∧ d.strideH = 1 ∧ d.strideW = 1 ∧ d.padH = 0 ∧ d.padW = 0

/-- The fields that have to be positive, in the order in which they are checked. -/
def positives (d : Descriptor) : List (String × Nat) :=
  [("batch", d.batch), ("in_channels", d.inChannels), ("in_h", d.inH), ("in_w", d.inW),
    ("out_channels", d.outChannels), ("kernel_h", d.kernelH), ("kernel_w", d.kernelW),
    ("stride_h", d.strideH), ("stride_w", d.strideW)]

/-- The kernel fits the padded input along one axis. -/
def validateAxis (axis : String) (input kernel padding : Nat) : Except PrimitiveError Unit :=
  match Word.padded? input padding with
  | none => .error (.sizeOverflow "padded input")
  | some padded => if padded < kernel then .error (.kernelDoesNotFit axis kernel padded) else .ok ()

/-- The product of the extents, or the report that it leaves the word range. -/
def size (what : String) (extents : List Nat) : Except PrimitiveError Nat :=
  match Word.product? extents with
  | some n => .ok n
  | none => .error (.sizeOverflow what)

/-- Every extent is positive, the kernel fits, and every size is a word. -/
def validate (d : Descriptor) : Attempt PrimitiveError Unit := do
  if let some (field, _) := d.positives.find? (·.2 = 0) then
    throw (.error (.zeroDimension field))
  Attempt.ofExcept (validateAxis "height" d.inH d.kernelH d.padH)
  Attempt.ofExcept (validateAxis "width" d.inW d.kernelW d.padW)
  let height ← d.outH
  let width ← d.outW
  let pixels ← Attempt.ofExcept (size "output plane" [height, width])
  let patch ← Attempt.ofExcept (size "patch" [d.inChannels, d.kernelH, d.kernelW])
  let _ ← Attempt.ofExcept (size "im2col workspace" [pixels, patch])
  let _ ← Attempt.ofExcept (size "source" [d.batch, d.inChannels, d.inH, d.inW])
  let _ ← Attempt.ofExcept (size "weights" [d.outChannels, patch])
  let _ ← Attempt.ofExcept (size "destination" [d.batch, d.outChannels, pixels])

end Descriptor

end ConvLab
