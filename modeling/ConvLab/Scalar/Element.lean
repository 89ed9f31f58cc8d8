/-!
# Elements

The kernels compute with five operations on their elements.  They are written against this class
alone, so the same kernel runs on 32-bit floats and can be read over any ordered ring.

* `Element α` — zero, sum, product, fused product-sum and maximum;
* `Element.relu` — the rectifier, `max x 0`.
-/

namespace ConvLab

/-- What a kernel needs of its elements. -/
class Element (α : Type) where
  /-- The additive zero, which also fills the padding. -/
  zero : α
  /-- The sum. -/
  add : α → α → α
  /-- The product. -/
  mul : α → α → α
  /-- `mulAdd x y z` is `x * y + z` in one step. -/
  mulAdd : α → α → α → α
  /-- The larger of two elements. -/
  max : α → α → α

namespace Element

variable {α : Type} [Element α]

/-- The rectifier: negative elements become zero. -/
def relu (x : α) : α := max x zero

end Element

end ConvLab
