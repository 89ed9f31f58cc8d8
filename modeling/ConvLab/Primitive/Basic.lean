import ConvLab.Primitive.Operator

/-!
# Convolution primitives

A primitive is described once, bound once and executed any number of times.

* `Primitive.create` — validates the descriptor, plans its operators with the dot product of the
  processor and sets up the scratch;
* `Primitive.bind` — compares the lengths of the buffers with the descriptor;
* `Primitive.execute` — runs every operator over every image of the batch.

The scratch is part of the primitive and outlives an execution.
-/

namespace ConvLab

variable {α : Type}

structure Memory (α : Type) where
  src : Buffer α
  weights : Buffer α
  bias : Buffer α
  dst : Buffer α

/-- A convolution ready to be executed. -/
structure Primitive (α : Type) where
  desc : Descriptor
  operators : List Operator
  scratch : Buffer α

namespace Primitive

/-- The largest scratch a primitive may have, in elements. -/
def maxScratch : Nat := 64 * 1024 * 1024

def create [Processor] [Element α] (d : Descriptor) : Attempt PrimitiveError (Primitive α) := do
  d.validate
  let operators ← Operator.plan d .detect
  let needs ← Attempt.ofChecked (operators.mapM Operator.scratchLen)
  let scratchLen := needs.foldl max 0
  if maxScratch < scratchLen then
    throw (.error (.workspaceTooLarge scratchLen maxScratch))
  let scratch ← Buffer.allocate scratchLen fun _ => Element.zero
  return { desc := d, operators, scratch }

/-- The names of the operators, in the order of execution. -/
def operatorNames (p : Primitive α) : List String := p.operators.map Operator.name

/-- Every buffer has exactly the length that the descriptor asks for. -/
def bind (p : Primitive α) (m : Memory α) : Attempt PrimitiveError Unit := do
  let lengths := [
    ("source", m.src.size, ← p.desc.srcLen),
    ("weights", m.weights.size, ← p.desc.weightsLen),
    ("bias", m.bias.size, p.desc.biasLen),
    ("destination", m.dst.size, ← p.desc.dstLen)]
  match lengths.find? fun (_, actual, expected) => actual ≠ expected with
  | some (argument, actual, expected) =>
      throw (.error (.sizeMismatch argument actual expected))
  | none => return ()

/-- Runs the operators over `count` images from `image` on, one after the other. -/
def runImages [Element α] (operators : List Operator) :
    (count image : Nat) → Stage α → Stage α × Attempt PrimitiveError Unit
  | 0, _, s => (s, .ok ())
  | count + 1, image, s =>
      match Operator.run operators { s with image } with
      | (s', .ok ()) => runImages operators count (image + 1) s'
      | (s', .error failure) => (s', .error failure)

/-- Runs every operator over every image.  The answer holds the primitive and the memory as the
execution left them, also after a failure. -/
def execute [Element α] (p : Primitive α) (m : Memory α) :
    (Primitive α × Memory α) × Attempt PrimitiveError Unit :=
  let stage : Stage α :=
    { image := 0
      src := m.src.toArray
      weights := m.weights.toArray
      bias := m.bias.toArray
      scratch := p.scratch.toArray
      dst := m.dst.toArray }
  let (stage, result) := runImages p.operators p.desc.batch 0 stage
  (({ p with scratch := .ofArray stage.scratch }, { m with dst := .ofArray stage.dst }), result)

end Primitive

end ConvLab
