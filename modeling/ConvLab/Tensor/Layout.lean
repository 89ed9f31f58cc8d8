import ConvLab.Scalar.Element
import ConvLab.Tensor.Buffer

/-!
# Layouts

A four-dimensional tensor is kept in one array, in the order of its axes.  The two kernels want
their tensors in different orders; the conversions here are permutations of the elements.

* `Extents` — the extents of the four axes;
* `Extents.offset` — the place of an element in the order of the axes;
* `Extents.coordinates` — the coordinates of all elements;
* `Layout.nchwToNhwc`, `Layout.nhwcToNchw` — images;
* `Layout.oihwToHwio` — weights.
-/

namespace ConvLab

/-- The extents of four axes, the outermost first. -/
structure Extents where
  first : Nat
  second : Nat
  third : Nat
  fourth : Nat
  deriving DecidableEq, Repr

namespace Extents

def count (d : Extents) : Checked Nat := do
  Word.mul (← Word.mul (← Word.mul d.first d.second) d.third) d.fourth

/-- The place of an element in the order of the axes, which has to be a word. -/
def offset (d : Extents) (i j k l : Nat) : Checked Nat := do
  let row ← Word.add (← Word.mul i d.second) j
  let column ← Word.add (← Word.mul row d.third) k
  Word.add (← Word.mul column d.fourth) l

/-- The coordinates of all elements, in the order of the axes. -/
def coordinates (d : Extents) : List (Nat × Nat × Nat × Nat) :=
  (List.range d.first).flatMap fun i => (List.range d.second).flatMap fun j =>
    (List.range d.third).flatMap fun k => (List.range d.fourth).map fun l => (i, j, k, l)

end Extents

namespace Layout

variable {α : Type} [Element α]

/-- Copies the elements of a tensor in the order of its `source` axes; `place` tells where the
element with given source coordinates goes.  The extents in the order of the call give the number
of elements. -/
def reorder (xs : Array α) (extents source : Extents)
    (place : Nat → Nat → Nat → Nat → Checked Nat) : Checked (Array α) := do
  requireEqual xs.size (← extents.count)
  source.coordinates.foldlM (fun ys (i, j, k, l) => do
    let x ← Cells.read xs (← source.offset i j k l)
    Cells.write ys (← place i j k l) x) (Array.replicate xs.size Element.zero)

/-- Images with the channels outermost, turned into images with the channels innermost. -/
def nchwToNhwc (xs : Array α) (n c h w : Nat) : Checked (Array α) :=
  let source : Extents := ⟨n, c, h, w⟩
  let target : Extents := ⟨n, h, w, c⟩
  reorder xs source source fun image channel y x => target.offset image y x channel

/-- Images with the channels innermost, turned into images with the channels outermost. -/
def nhwcToNchw (xs : Array α) (n c h w : Nat) : Checked (Array α) :=
  let source : Extents := ⟨n, h, w, c⟩
  let target : Extents := ⟨n, c, h, w⟩
  reorder xs target source fun image y x channel => target.offset image channel y x

/-- Weights with the output channel outermost, turned into weights with it innermost. -/
def oihwToHwio (xs : Array α) (o i kh kw : Nat) : Checked (Array α) :=
  let source : Extents := ⟨o, i, kh, kw⟩
  let target : Extents := ⟨kh, kw, i, o⟩
  reorder xs source source fun output input ky kx => target.offset ky kx input output

end Layout

end ConvLab
