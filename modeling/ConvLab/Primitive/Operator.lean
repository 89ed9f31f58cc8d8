import ConvLab.Primitive.Descriptor
import ConvLab.Scalar.Element
import ConvLab.Tensor.Buffer
import ConvLab.Tensor.Dot

/-!
# Operators

A primitive is carried out by a sequence of operators, applied one after another to each image.

* `Stage` — the buffers that the operators of one image share;
* `imageSlice` — the elements of one image, or the report that the buffer is too short;
* `Unfolding` — copies each receptive field into a row of the scratch, zeros in the padding;
* `Gemm` — multiplies the weights with the rows of the scratch or, for pointwise convolutions,
  with the source planes themselves;
* `Operator` — one of these, or an operation on the output elements;
* `Operator.plan` — the operators of a descriptor.
-/

namespace ConvLab

variable {α : Type}

/-- The buffers in use while one image of the batch is processed. -/
structure Stage (α : Type) where
  /-- Index of the image inside the batch. -/
  image : Nat
  src : Array α
  weights : Array α
  bias : Array α
  scratch : Array α
  dst : Array α

/-- Where the elements of an image begin and end. -/
def imageBounds (image count : Nat) : Checked (Nat × Nat) := do
  let start ← Word.mul image count
  let stop ← Word.add start count
  return (start, stop)

/-- Where the elements of an image begin in a buffer that has to hold them all. -/
def imageStart (operator : String) (size image count : Nat) : Attempt PrimitiveError Nat := do
  let (start, stop) ← imageBounds image count
  if stop ≤ size then
    return start
  else
    throw (.error (.operatorFailed operator s!"buffer of {size} elements cannot hold {stop}"))

def imageSlice (operator : String) (xs : Array α) (image count : Nat) :
    Attempt PrimitiveError (Array α) := do
  let start ← imageStart operator xs.size image count
  return xs.extract start (start + count)

/-! ### Unfolding the receptive fields -/

/-- The extents behind the receptive fields of one image. -/
structure Unfolding where
  inChannels : Nat
  inH : Nat
  inW : Nat
  kernelH : Nat
  kernelW : Nat
  padH : Nat
  padW : Nat
  strideH : Nat
  strideW : Nat
  outH : Nat
  outW : Nat
  deriving DecidableEq, Repr

namespace Unfolding

def name : String := "im2col"

def ofDescriptor (d : Descriptor) : Checked Unfolding := do
  let outH ← d.outH
  let outW ← d.outW
  return {
    inChannels := d.inChannels
    inH := d.inH
    inW := d.inW
    kernelH := d.kernelH
    kernelW := d.kernelW
    padH := d.padH
    padW := d.padW
    strideH := d.strideH
    strideW := d.strideW
    outH
    outW }

def patchLen (u : Unfolding) : Checked Nat := do
  Word.mul (← Word.mul u.inChannels u.kernelH) u.kernelW

/-- Elements of all receptive fields of an image. -/
def scratchLen (u : Unfolding) : Checked Nat := do
  let pixels ← Word.mul u.outH u.outW
  Word.mul pixels (← u.patchLen)

/-- The coordinate under a tap of the kernel, counted from the edge of the padding. -/
def tapCoordinate (position stride tap : Nat) : Checked Nat := do
  Word.add (← Word.mul position stride) tap

/-- The input row or column at a padded coordinate, if it lies inside the image. -/
def inside? (coordinate padding extent : Nat) : Option Nat :=
  if padding ≤ coordinate ∧ coordinate - padding < extent then some (coordinate - padding) else none

/-- The element of a channel plane under the tap `(ky, kx)` of the output pixel `(oy, ox)`. -/
def tapValue [Element α] (u : Unfolding) (plane : Array α) (oy ox ky kx : Nat) : Checked α := do
  let iy ← tapCoordinate oy u.strideH ky
  let ix ← tapCoordinate ox u.strideW kx
  match inside? iy u.padH u.inH, inside? ix u.padW u.inW with
  | some y, some x => Cells.read plane (← Word.add (← Word.mul y u.inW) x)
  | _, _ => return Element.zero

/-- The part of a receptive field that lies in one channel plane, row by row. -/
def planePatch [Element α] (u : Unfolding) (oy ox : Nat) (plane : Array α) : Checked (List α) := do
  let rows ← (List.range u.kernelH).mapM fun ky =>
    (List.range u.kernelW).mapM fun kx => u.tapValue plane oy ox ky kx
  return rows.flatten

/-- The receptive field of an output pixel, channel by channel. -/
def patch [Element α] (u : Unfolding) (planes : List (Array α)) (pixel : Nat) :
    Checked (List α) := do
  let parts ← planes.mapM (u.planePatch (pixel / u.outW) (pixel % u.outW))
  return parts.flatten

/-- Fills the scratch with the receptive fields of the image. -/
def apply [Element α] (u : Unfolding) (s : Stage α) : Attempt PrimitiveError (Stage α) := do
  let plane ← Word.mul u.inH u.inW
  let src ← imageSlice name s.src s.image (← Word.mul u.inChannels plane)
  let patchLen ← u.patchLen
  let scratch ← imageSlice name s.scratch 0 (← u.scratchLen)
  let rows ← Cells.chunks scratch patchLen
  let planes ← Cells.chunks src plane
  let patches ← Attempt.ofChecked <| rows.zipIdx.mapM fun (row, pixel) => do
    Cells.overwrite row (← u.patch (planes.map List.toArray) pixel)
  return { s with scratch := Cells.splice s.scratch 0 patches.flatten }

end Unfolding

/-! ### Matrix products -/

/-- Where a matrix product reads its columns. -/
inductive Columns where
  /-- From the scratch, one receptive field after the other. -/
  | scratch
  /-- From the source image, one channel plane after the other. -/
  | source
  deriving DecidableEq, Repr

/-- The product of the weights with the columns of one image, plus the bias. -/
structure Gemm where
  columns : Columns
  outChannels : Nat
  patchLen : Nat
  pixels : Nat
  /-- How the products with the rows of the scratch are added up. -/
  kernel : DotKernel
  deriving DecidableEq, Repr

namespace Gemm

def name : String := "gemm"

def ofDescriptor (d : Descriptor) (columns : Columns) (kernel : DotKernel) : Checked Gemm := do
  let patchLen ← d.patchLen
  let pixels ← d.outPixels
  return { columns, outChannels := d.outChannels, patchLen, pixels, kernel }

/-- Rewrites an output row from the receptive fields: the bias plus a dot product for each pixel. -/
def rowOfPatches [Element α] (kernel : DotKernel) (patches : List (List α)) (row weights : List α)
    (bias : α) : List α :=
  Cells.update (fun _ patch => Element.add bias (dot kernel weights patch)) row patches

/-- Rewrites an output row from the channel planes: it starts as the bias, and each plane is added
with its weight, pixel by pixel. -/
def rowOfPlanes [Element α] (planes : List (List α)) (row weights : List α) (bias : α) : List α :=
  (weights.zip planes).foldl
    (fun row (weight, plane) =>
      Cells.update (fun out value => Element.mulAdd weight value out) row plane)
    (List.replicate row.length bias)

/-- The elements of the columns of the current image. -/
def columnsOf (g : Gemm) (s : Stage α) : Attempt PrimitiveError (Array α) :=
  match g.columns with
  | .scratch => do imageSlice name s.scratch 0 (← Word.mul g.pixels g.patchLen)
  | .source => do imageSlice name s.src s.image (← Word.mul g.patchLen g.pixels)

/-- How an output row is rewritten from the elements of the columns. -/
def rowRule [Element α] (g : Gemm) (columns : Array α) :
    Checked (List α → List α → α → List α) :=
  match g.columns with
  | .scratch => do return rowOfPatches g.kernel (← Cells.chunks columns g.patchLen)
  | .source => do return rowOfPlanes (← Cells.chunks columns g.pixels)

def apply [Element α] (g : Gemm) (s : Stage α) : Attempt PrimitiveError (Stage α) := do
  let weights ← imageSlice name s.weights 0 (← Word.mul g.outChannels g.patchLen)
  let bias ← imageSlice name s.bias 0 g.outChannels
  let count ← Word.mul g.outChannels g.pixels
  let start ← imageStart name s.dst.size s.image count
  let columns ← g.columnsOf s
  let rows ← Cells.chunks (s.dst.extract start (start + count)) g.pixels
  let weightRows ← Cells.chunks weights g.patchLen
  let rewrite ← g.rowRule columns
  let outputs := ((rows.zip weightRows).zip bias.toList).flatMap fun ((row, weights), bias) =>
    rewrite row weights bias
  return { s with dst := Cells.splice s.dst start outputs }

end Gemm

/-! ### Operators and plans -/

/-- A step of a primitive. -/
inductive Operator where
  | unfold (u : Unfolding)
  | gemm (g : Gemm)
  | postOp (op : PostOp) (count : Nat)
  deriving DecidableEq, Repr

/-- Applies an operation to one output element. -/
def PostOp.apply [Element α] : PostOp → α → α
  | .relu => Element.relu

namespace Operator

def name : Operator → String
  | .unfold _ => Unfolding.name
  | .gemm _ => Gemm.name
  | .postOp _ _ => "post_op"

/-- Scratch elements that the operator needs. -/
def scratchLen : Operator → Checked Nat
  | .unfold u => u.scratchLen
  | .gemm _ => .ok 0
  | .postOp _ _ => .ok 0

/-- Applies an operation to the output elements of the image. -/
def applyPostOp [Element α] (op : PostOp) (count : Nat) (s : Stage α) :
    Attempt PrimitiveError (Stage α) := do
  let start ← imageStart (Operator.postOp op count).name s.dst.size s.image count
  let outputs := (Cells.window s.dst start count).map op.apply
  return { s with dst := Cells.splice s.dst start outputs }

def apply [Element α] : Operator → Stage α → Attempt PrimitiveError (Stage α)
  | .unfold u, s => u.apply s
  | .gemm g, s => g.apply s
  | .postOp op count, s => applyPostOp op count s

/-- The operators that carry out a descriptor, with the given dot product. -/
def plan (d : Descriptor) (kernel : DotKernel) : Checked (List Operator) := do
  let product ← if d.isPointwise then do
      pure [gemm (← Gemm.ofDescriptor d .source kernel)]
    else do
      let unfolding ← Unfolding.ofDescriptor d
      pure [unfold unfolding, gemm (← Gemm.ofDescriptor d .scratch kernel)]
  let postOps ← d.postOps.mapM fun op => return postOp op (← d.dstImageLen)
  return product ++ postOps

/-- Applies the operators in order.  The first failure stops them; what was written before it
stays written. -/
def run [Element α] : List Operator → Stage α → Stage α × Attempt PrimitiveError Unit
  | [], s => (s, .ok ())
  | op :: ops, s =>
      match op.apply s with
      | .ok s' => run ops s'
      | .error failure => (s, .error failure)

end Operator

end ConvLab
