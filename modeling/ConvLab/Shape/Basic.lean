import ConvLab.Attempt
import ConvLab.Shape.Error

/-!
# Shapes

A shape is the seven parameters of a two-dimensional convolution.  Input and kernel are square,
so one extent is kept for each of them.

* `Shape.validate` — every extent is positive and the kernel fits the padded input;
* `Shape.outDim` — the output extent `⌊(IH + 2P - K) / S⌋ + 1`;
* `Shape.flops` — two operations for each multiply-accumulate of one pass;
* `Shape.label`, `Shape.describe` — the short and the long text of a shape.
-/

namespace ConvLab

/-- The parameters of a convolution, in registration order. -/
structure Shape where
  /-- Images per batch, `N`. -/
  batch : Nat
  /-- Height and width of the input, `IH = IW`. -/
  inDim : Nat
  /-- Input channels, `IC`. -/
  inChannels : Nat
  /-- Output channels, `OC`. -/
  outChannels : Nat
  /-- Height and width of the kernel, `K`. -/
  kernelSize : Nat
  /-- Zeros around the input on every side, `P`. -/
  padding : Nat
  /-- Step of the kernel along both axes, `S`. -/
  stride : Nat
  deriving DecidableEq, Repr

namespace Shape

/-- The parameters that have to be positive, in the order in which they are checked. -/
def positives (s : Shape) : List (String × Nat) :=
  [("batch size", s.batch), ("input dimension", s.inDim),
    ("input channel count", s.inChannels), ("output channel count", s.outChannels),
    ("kernel size", s.kernelSize), ("stride", s.stride)]

def paddedExtent (s : Shape) : Except ShapeError Nat :=
  match Word.padded? s.inDim s.padding with
  | some extent => .ok extent
  | none => .error (.sizeOverflow "padded input")

/-- Every extent is positive and the kernel fits the padded input. -/
def validate (s : Shape) : Except ShapeError Unit :=
  match s.positives.find? (·.2 = 0) with
  | some (parameter, _) => .error (.nonPositive parameter)
  | none => do
      let extent ← s.paddedExtent
      if extent < s.kernelSize then
        .error (.kernelExceedsInput s.kernelSize extent)
      else
        .ok ()

def outDim (s : Shape) : Attempt ShapeError Nat := do
  Attempt.ofExcept s.validate
  let extent ← Attempt.ofExcept s.paddedExtent
  let span ← Word.sub extent s.kernelSize
  let steps ← Word.div span s.stride
  Word.add steps 1

/-- Floating-point operations of one pass, two for each multiply-accumulate. -/
def flops (s : Shape) : Attempt ShapeError Nat := do
  let extent ← s.outDim
  let perOutput ← Word.mul (← Word.mul s.inChannels s.kernelSize) s.kernelSize
  let maps ← Word.mul (← Word.mul 2 s.batch) s.outChannels
  Word.mul (← Word.mul (← Word.mul maps extent) extent) perOutput

/-- A short text, such as `n4_i224_c3_o64_k7_p3_s2`. -/
def label (s : Shape) : String :=
  s!"n{s.batch}_i{s.inDim}_c{s.inChannels}_o{s.outChannels}_k{s.kernelSize}" ++
    s!"_p{s.padding}_s{s.stride}"

def describe (s : Shape) : String :=
  s!"N={s.batch} IH=IW={s.inDim} IC={s.inChannels} OC={s.outChannels} K={s.kernelSize} " ++
    s!"P={s.padding} S={s.stride}"

end Shape

end ConvLab
