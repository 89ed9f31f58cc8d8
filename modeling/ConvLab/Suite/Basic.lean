import ConvLab.Bench.Error
import ConvLab.Kernel.Kind
import ConvLab.Problem
import ConvLab.Shape.Entry

/-!
# Suites

A suite registers shapes for kernels and says how often each pair of them is run.

* `Suite.standard` — the suite that is run when none is given;
* `Suite.validate` — whether a suite can be run at all; a single bad shape does not count, since it
  is reported and passed over when its turn comes;
* `Suite.shapesFor` — the shapes registered for a kernel, in order;
* `Suite.configurations` — the pairs of kernel and shape that a list of kernels asks for.
-/

namespace ConvLab

structure Registration where
  kernel : Kind
  shapes : List Entry
  deriving DecidableEq

/-- What is to be run, and how. -/
structure Suite where
  name : String
  description : String
  /-- The number of runs before the timed ones. -/
  warmUps : UInt32
  /-- The number of timed runs. -/
  executions : UInt32
  /-- Whether the outputs of the two kernels are compared first. -/
  verify : Bool
  options : Options
  kernels : List Registration
  deriving DecidableEq

namespace Suite

/-- The number of warm-up runs of a suite that gives none. -/
def defaultWarmUps : UInt32 := 3

def referenceShapes : List Shape := [
  { batch := 4, inDim := 224, inChannels := 3, outChannels := 64, kernelSize := 7, padding := 3,
    stride := 2 },
  { batch := 4, inDim := 56, inChannels := 64, outChannels := 64, kernelSize := 3, padding := 1,
    stride := 1 },
  { batch := 4, inDim := 28, inChannels := 128, outChannels := 128, kernelSize := 3, padding := 1,
    stride := 2 },
  { batch := 4, inDim := 56, inChannels := 64, outChannels := 64, kernelSize := 3, padding := 0,
    stride := 1 },
  { batch := 5, inDim := 102, inChannels := 128, outChannels := 128, kernelSize := 3, padding := 0,
    stride := 1 }]

/-- The standard shapes for the candidate kernel, which takes neither padding nor stride. -/
def candidateShapes : List Shape := [
  { batch := 4, inDim := 56, inChannels := 64, outChannels := 64, kernelSize := 3, padding := 0,
    stride := 1 },
  { batch := 5, inDim := 102, inChannels := 128, outChannels := 128, kernelSize := 3, padding := 0,
    stride := 1 }]

/-- The suite that is run when none is given. -/
def standard : Suite where
  name := "conv2d"
  description := "Reference operator primitive vs direct candidate kernel"
  warmUps := defaultWarmUps
  executions := 20
  verify := true
  options := {}
  kernels := [
    { kernel := .reference, shapes := referenceShapes.map Entry.ofShape },
    { kernel := .candidate, shapes := candidateShapes.map Entry.ofShape }]

/-- The first registration without shapes, from the given position on. -/
def checkRegistrations : Nat → List Registration → Except BenchError Unit
  | _, [] => .ok ()
  | position, r :: rest =>
      if r.shapes.isEmpty then
        .error (.invalidSetting s!"kernels[{position}].shapes"
          s!"Kernel '{r.kernel.name}' has no shapes registered")
      else
        checkRegistrations (position + 1) rest

/-- Whether a suite can be run at all. -/
def validate (s : Suite) : Except BenchError Unit := do
  if s.executions = 0 then
    throw (.invalidExecutions s.executions)
  if s.kernels.isEmpty then
    throw (.invalidSetting "kernels" "At least one kernel must be registered")
  checkRegistrations 0 s.kernels
  if !s.options.scale.isFinite then
    throw (.invalidSetting "instance.scale" "Scale must be a finite number")

/-- The shapes registered for a kernel, in order. -/
def shapesFor (s : Suite) (kind : Kind) : List Entry :=
  (s.kernels.filter (·.kernel = kind)).flatMap (·.shapes)

def numConfigurations (s : Suite) : Nat := (s.kernels.flatMap (·.shapes)).length

/-- The kernels with a registration, in the order of their first one. -/
def kinds (s : Suite) : List Kind := (s.kernels.map (·.kernel)).eraseDups

/-- The pairs of kernel and shape that a list of kernels asks for, in the order they are run. -/
def configurations (s : Suite) (kinds : List Kind) : List (Kind × Entry) :=
  kinds.flatMap fun kind => (s.shapesFor kind).map (kind, ·)

end Suite

end ConvLab
