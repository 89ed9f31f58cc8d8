import ConvLab.Bench.Comparison
import ConvLab.Bench.Error
import ConvLab.Bench.Log
import ConvLab.Kernel.Basic
import ConvLab.Tensor.Layout

/-!
# Verification

Both kernels are run on the same patterned problem, and their outputs are compared.  The candidate
wants the channels innermost, so its inputs are converted before the run and its output after it.
The factor is one, so that both kernels end in the same rectifier.

* `candidateProblem` — the problem of the reference, laid out for the candidate;
* `verifyKernels` — whether the kernels agree on a shape.
-/

namespace ConvLab

/-- The tolerance between kernels that add up in different orders. -/
def verifyTolerance : Float32 := 1e-4

/-- The outcome of a verification without error. -/
inductive Verification where
  /-- The outputs agree up to the given difference. -/
  | agreed (maxDiff : Float32)
  /-- The candidate does not take the shape. -/
  | skipped (reason : String)
  deriving DecidableEq

def Verification.logLine (s : Shape) : Verification → LogLine
  | .agreed maxDiff =>
      let difference := NumberStyle.scientific.single maxDiff
      ⟨.info, s!"✅ Outputs match for [{s.describe}] (max diff {difference})"⟩
  | .skipped reason => ⟨.debug, s!"Skipping verification for [{s.describe}]: {reason}"⟩

/-- The problem of the reference, laid out for the candidate. -/
def candidateProblem {α : Type} [Element α] (p : Problem α) : Attempt KernelError (Problem α) := do
  let s := p.shape
  let src ← Layout.nchwToNhwc p.memory.src.toArray s.batch s.inChannels s.inDim s.inDim
  let weights ← Layout.oihwToHwio p.memory.weights.toArray s.outChannels s.inChannels
    s.kernelSize s.kernelSize
  Problem.ofBuffers s p.scale (.ofArray src) (.ofArray weights) (.ofArray p.memory.bias.toArray)

/-- The output of the candidate, laid out as the reference lays out its own. -/
def candidateOutput {α : Type} [Element α] (p : Problem α) : Checked (Array α) :=
  Layout.nhwcToNchw p.memory.dst.toArray p.shape.batch p.shape.outChannels p.outDim p.outDim

/-- Runs both kernels, the reference first, and compares their outputs. -/
def runBoth (tolerance : Float32) (reference : Reference Float32)
    (candidate : Candidate Float32) : Attempt KernelError (Except Discrepancy Float32) := do
  let (reference, outcome) := reference.run
  outcome
  let (candidate, outcome) := candidate.run
  outcome
  let actual ← candidateOutput candidate.problem
  return compareOutputs tolerance reference.problem.memory.dst.toArray actual

def verifyKernels [Processor] (s : Shape) (tolerance : Float32) :
    Attempt BenchError Verification := do
  let problem ← (Problem.build s { scale := 1.0, fill := .pattern }).onKernel
  let converted ← (candidateProblem problem).onKernel
  match Candidate.create converted with
  | .error (.error (.rejected _ reason)) => return .skipped reason
  | .error failure => throw (failure.map .kernel)
  | .ok candidate =>
      let reference ← (Reference.create problem).onKernel
      match ← (runBoth tolerance reference candidate).onKernel with
      | .ok maxDiff => return .agreed maxDiff
      | .error discrepancy => throw (.error (.disagreement s discrepancy.message))

end ConvLab
