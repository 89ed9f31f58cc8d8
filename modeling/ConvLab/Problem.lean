import ConvLab.Kernel.Error
import ConvLab.Scalar.Sine
import ConvLab.Shape.Basic
import ConvLab.Primitive.Basic

/-!
# Problems

A problem is a shape together with the four buffers that the kernels read and write.

* `Options` — the factor and the filling of a problem that is built from its shape alone;
* `Sizes`, `Shape.sizes` — the output extent and the buffer lengths that a shape implies;
* `Problem.build` — a problem with filled buffers;
* `Problem.ofBuffers` — a problem around given buffers, which must have the implied lengths.
-/

namespace ConvLab

inductive Fill where
  /-- With zeros. -/
  | zeroed
  /-- With a bounded sequence that differs from buffer to buffer. -/
  | pattern
  deriving DecidableEq, Repr

namespace Fill

def period : Nat := 9973

/-- The element of the pattern at an index: half the sine of an angle that grows from `phase` in
steps of 0.013. -/
def patternValue (phase : Float32) (index : Nat) : Float32 :=
  Single.sin (Float32.ofNat (index % period) * 0.013 + phase) * 0.5

def value (fill : Fill) (phase : Float32) (index : Nat) : Float32 :=
  match fill with
  | .zeroed => 0.0
  | .pattern => patternValue phase index

end Fill

/-- How a problem is built from its shape. -/
structure Options where
  /-- A factor that the candidate kernel applies to its output. -/
  scale : Float32 := 1.0
  fill : Fill := .zeroed
  deriving DecidableEq

structure Sizes where
  outDim : Nat
  src : Nat
  weights : Nat
  bias : Nat
  dst : Nat
  deriving DecidableEq, Repr

def elementCount (buffer : String) (extents : List Nat) : Except ShapeError Nat :=
  match Word.product? extents with
  | some n => .ok n
  | none => .error (.sizeOverflow buffer)

/-- The output extent and the buffer lengths that a shape implies. -/
def Shape.sizes (s : Shape) : Attempt ShapeError Sizes := do
  let outDim ← s.outDim
  let src ← Attempt.ofExcept <|
    elementCount "source" [s.batch, s.inChannels, s.inDim, s.inDim]
  let weights ← Attempt.ofExcept <|
    elementCount "weights" [s.outChannels, s.inChannels, s.kernelSize, s.kernelSize]
  let dst ← Attempt.ofExcept <|
    elementCount "destination" [s.batch, s.outChannels, outDim, outDim]
  return { outDim, src, weights, bias := s.outChannels, dst }

/-- A convolution problem with its buffers. -/
structure Problem (α : Type) where
  shape : Shape
  outDim : Nat
  scale : α
  memory : Memory α

namespace Problem

variable {α : Type}

-- The extents by axis: both of a pair are the one extent of the shape.
abbrev inH (p : Problem α) : Nat := p.shape.inDim
abbrev inW (p : Problem α) : Nat := p.shape.inDim
abbrev kernelH (p : Problem α) : Nat := p.shape.kernelSize
abbrev kernelW (p : Problem α) : Nat := p.shape.kernelSize
abbrev outH (p : Problem α) : Nat := p.outDim
abbrev outW (p : Problem α) : Nat := p.outDim

def build (s : Shape) (options : Options) : Attempt KernelError (Problem Float32) := do
  let sizes ← s.sizes.onShape
  let src ← Buffer.allocate sizes.src (options.fill.value 0.0)
  let weights ← Buffer.allocate sizes.weights (options.fill.value 1.0)
  let bias ← Buffer.allocate sizes.bias (options.fill.value 2.0)
  let dst ← Buffer.allocate sizes.dst fun _ => Element.zero
  return {
    shape := s
    outDim := sizes.outDim
    scale := options.scale
    memory := { src, weights, bias, dst } }

/-- The first buffer whose length is not the implied one, in the order source, weights, bias. -/
def mismatch? (sizes : Sizes) (src weights bias : Buffer α) : Option ShapeError :=
  let lengths := [("source", sizes.src, src.size), ("weights", sizes.weights, weights.size),
    ("bias", sizes.bias, bias.size)]
  (lengths.find? fun (_, expected, actual) => expected ≠ actual).map
    fun (buffer, expected, actual) => .lengthMismatch buffer expected actual

/-- A problem around given buffers. -/
def ofBuffers [Element α] (s : Shape) (scale : α) (src weights bias : Buffer α) :
    Attempt KernelError (Problem α) := do
  let sizes ← s.sizes.onShape
  if let some e := mismatch? sizes src weights bias then
    throw (.error (.invalidShape e))
  let dst ← Buffer.allocate sizes.dst fun _ => Element.zero
  return {
    shape := s
    outDim := sizes.outDim
    scale
    memory := { src, weights, bias, dst } }

def totalElements (p : Problem α) : Nat :=
  p.memory.src.size + p.memory.weights.size + p.memory.bias.size + p.memory.dst.size

end Problem

end ConvLab
