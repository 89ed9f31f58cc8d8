import ConvLab.Scalar.Element
import ConvLab.Tensor.Buffer

/-!
# The direct kernel

A convolution computed from its definition: for each output pixel, every tap of the kernel adds
the products of one input pixel.  Images are in NHWC order and weights in HWIO order; there is no
padding, and the step is one.  An output is `relu (bias + sum) * scale`.

* `Direct.Geometry` — the extents the kernel is called with;
* `Direct.Geometry.check` — traps unless extents and buffer lengths fit together;
* `Direct.pixel` — the output channels of one pixel;
* `Direct.convolve` — the whole batch.
-/

namespace ConvLab.Direct

/-- The extents of a call. -/
structure Geometry where
  outH : Nat
  outW : Nat
  outChannels : Nat
  kernel : Nat
  inChannels : Nat
  inH : Nat
  inW : Nat
  batch : Nat
  deriving DecidableEq, Repr

structure Lengths where
  input : Nat
  output : Nat
  weights : Nat
  bias : Nat

def product (a b c d : Nat) : Checked Nat := do
  Word.mul (← Word.mul (← Word.mul a b) c) d

namespace Geometry

/-- Traps unless the kernel lies inside the input, the output extents belong to it and every
buffer has the length that the extents imply. -/
def check (g : Geometry) (lengths : Lengths) : Checked Unit := do
  unless 1 ≤ g.kernel ∧ g.kernel ≤ g.inH ∧ g.kernel ≤ g.inW do
    throw .kernelOutsideInput
  requireEqual g.outH (← Word.add (← Word.sub g.inH g.kernel) 1)
  requireEqual g.outW (← Word.add (← Word.sub g.inW g.kernel) 1)
  requireEqual lengths.input (← product g.batch g.inH g.inW g.inChannels)
  requireEqual lengths.output (← product g.batch g.outH g.outW g.outChannels)
  requireEqual lengths.weights (← product g.kernel g.kernel g.inChannels g.outChannels)
  requireEqual lengths.bias g.outChannels

end Geometry

variable {α : Type} [Element α]

/-- Adds the products of one input value with a row of weights, one for each output channel. -/
def accumulate (value : α) (sums weights : List α) : List α :=
  Cells.update (fun sum weight => Element.mulAdd weight value sum) sums weights

/-- Adds the products of one input pixel, channel by channel.  The weights of its first channel
begin at `tap`. -/
def addChannels (g : Geometry) (weights : Array α) (tap : Nat) (channels : List α)
    (sums : List α) : Checked (List α) :=
  channels.zipIdx.foldlM (fun sums (value, channel) => do
    let start ← Word.add tap (← Word.mul channel g.outChannels)
    let row ← Cells.slice weights start g.outChannels
    return accumulate value sums row) sums

/-- Adds the products of one tap of the kernel to the sums of the pixel in row `y`, column `x`. -/
def addTap (g : Geometry) (image weights : Array α) (y x : Nat) (sums : List α)
    (tap : Nat × Nat) : Checked (List α) := do
  let row ← Word.add y tap.1
  let column ← Word.add x tap.2
  let start ← Word.mul (← Word.add (← Word.mul row g.inW) column) g.inChannels
  let channels ← Cells.slice image start g.inChannels
  let index ← Word.add (← Word.mul tap.1 g.kernel) tap.2
  let first ← Word.mul (← Word.mul index g.inChannels) g.outChannels
  addChannels g weights first channels sums

def pairs (rows columns : Nat) : List (Nat × Nat) :=
  (List.range rows).flatMap fun i => (List.range columns).map fun j => (i, j)

/-- The output channels of the pixel in row `y`, column `x`. -/
def pixel (g : Geometry) (scale : α) (image weights : Array α) (bias : List α)
    (position : Nat × Nat) : Checked (List α) := do
  let sums ← (pairs g.kernel g.kernel).foldlM
    (addTap g image weights position.1 position.2) bias
  return sums.map fun sum => Element.mul (Element.relu sum) scale

/-- Writes the output of one image, pixel by pixel. -/
def image (g : Geometry) (scale : α) (input weights : Array α) (bias : List α)
    (output : Array α) : Checked (Array α) :=
  (pairs g.outH g.outW).foldlM (fun output position => do
    let index ← Word.add (← Word.mul position.1 g.outW) position.2
    let start ← Word.mul index g.outChannels
    let _ ← Cells.slice output start g.outChannels
    let channels ← pixel g scale input weights bias position
    return Cells.splice output start channels) output

/-- Convolves a batch.  The given output only has to have the right length. -/
def convolve (g : Geometry) (scale : α) (input weights bias output : Array α) :
    Checked (Array α) := do
  g.check ⟨input.size, output.size, weights.size, bias.size⟩
  let inImage ← Word.mul (← Word.mul g.inH g.inW) g.inChannels
  let outImage ← Word.mul (← Word.mul g.outH g.outW) g.outChannels
  let inputs ← Cells.chunks input inImage
  let outputs ← Cells.chunks output outImage
  let images ← (inputs.zip outputs).mapM fun (cells, output) =>
    image g scale cells.toArray weights bias.toList output.toArray
  return Cells.splice output 0 (images.flatMap Array.toList)

end ConvLab.Direct
