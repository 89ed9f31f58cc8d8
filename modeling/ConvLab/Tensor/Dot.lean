import ConvLab.Scalar.Element

/-!
# Dot products

The dot product runs over the common length of its operands.  In which order it adds up depends on
the kernel, and the kernel is chosen by what the processor can do.

* `Processor` — the vector instructions at hand;
* `DotKernel.detect` — the kernel with the widest registers among them;
* `Lanes.dot` — four elements at a time into four separate sums, their total in pairs;
* `Register.dot` — a register of elements at a time, its lanes added up from the left;
* `dot` — the dot product of a kernel.

In every kernel the elements that fill no whole piece are added one by one at the end.
-/

namespace ConvLab

/-- The vector instructions of the processor that a program runs on. -/
class Processor where
  avx512f : Bool
  avx2 : Bool
  fma : Bool

@[reducible]
def Processor.plain : Processor where
  avx512f := false
  avx2 := false
  fma := false

/-- The ways to add up a dot product. -/
inductive DotKernel where
  | scalar
  | avx2Fma
  | avx512Fma
  deriving DecidableEq, Repr

/-- The kernel with the widest registers that the processor supports. -/
def DotKernel.detect [Processor] : DotKernel :=
  if Processor.avx512f && Processor.fma then .avx512Fma
  else if Processor.avx2 && Processor.fma then .avx2Fma
  else .scalar

variable {α : Type} [Element α]

/-- Adds the products of two lists to a sum, one by one. -/
def addProducts (sum : α) (as bs : List α) : α :=
  (as.zip bs).foldl (fun sum pair => Element.mulAdd pair.1 pair.2 sum) sum

/-! ### Four sums -/

/-- Four partial sums. -/
structure Lanes (α : Type) where
  first : α
  second : α
  third : α
  fourth : α

namespace Lanes

def zero : Lanes α := ⟨Element.zero, Element.zero, Element.zero, Element.zero⟩

/-- The total of the partial sums, the pairs first. -/
def total (s : Lanes α) : α :=
  Element.add (Element.add s.first s.second) (Element.add s.third s.fourth)

/-- The dot product of the remaining elements on top of the partial sums. -/
def dot (s : Lanes α) : List α → List α → α
  | a₀ :: a₁ :: a₂ :: a₃ :: as, b₀ :: b₁ :: b₂ :: b₃ :: bs =>
      dot
        { first := Element.mulAdd a₀ b₀ s.first
          second := Element.mulAdd a₁ b₁ s.second
          third := Element.mulAdd a₂ b₂ s.third
          fourth := Element.mulAdd a₃ b₃ s.fourth }
        as bs
  | as, bs => addProducts s.total as bs

end Lanes

/-! ### Vector registers -/

namespace Register

/-- The lanes of a register after one fused step: every lane takes in the product at its place. -/
def step (lanes as bs : List α) : List α :=
  List.zipWith (fun lane pair => Element.mulAdd pair.1 pair.2 lane) lanes (as.zip bs)

/-- The total of the lanes, from the left. -/
def total : List α → α
  | [] => Element.zero
  | lane :: lanes => lanes.foldl Element.add lane

/-- The dot product of the remaining elements on top of the lanes, with `steps` more whole registers
to take in. -/
def dot (width : Nat) : (steps : Nat) → (lanes as bs : List α) → α
  | 0, lanes, as, bs => addProducts (total lanes) as bs
  | steps + 1, lanes, as, bs =>
      dot width steps (step lanes (as.take width) (bs.take width)) (as.drop width) (bs.drop width)

end Register

/-- The dot product in registers of the given width. -/
def wideDot (width : Nat) (as bs : List α) : α :=
  Register.dot width (min as.length bs.length / width) (List.replicate width Element.zero) as bs

/-- The dot product over the common length. -/
def dot (kernel : DotKernel) (as bs : List α) : α :=
  match kernel with
  | .scalar => Lanes.zero.dot as bs
  | .avx2Fma => wideDot 8 as bs
  | .avx512Fma => wideDot 16 as bs

end ConvLab
