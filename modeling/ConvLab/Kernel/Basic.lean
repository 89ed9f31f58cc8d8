import ConvLab.Kernel.Candidate
import ConvLab.Kernel.Reference

/-!
# Kernels

A kernel bound to its problem, ready to be run any number of times.

* `Kind.create` — binds a kernel of a kind, doing all that is done once;
* `Kernel.run` — computes the convolution over the buffers of the problem;
* `Kernel.extent` — the extents that the kernel computes with.
-/

namespace ConvLab

variable {α : Type}

/-- A kernel bound to its problem. -/
inductive Kernel (α : Type) where
  | reference (kernel : Reference α)
  | candidate (kernel : Candidate α)

/-- The extents that a kernel computes with. -/
structure KernelExtent where
  outH : Nat
  outW : Nat
  inChannels : Nat
  outChannels : Nat
  kernelH : Nat
  kernelW : Nat
  deriving DecidableEq, Repr

def Kind.create [Processor] [Element α] (kind : Kind) (p : Problem α) :
    Attempt KernelError (Kernel α) :=
  match kind with
  | .reference => Kernel.reference <$> Reference.create p
  | .candidate => Kernel.candidate <$> Candidate.create p

namespace Kernel

def kind : Kernel α → Kind
  | .reference _ => .reference
  | .candidate _ => .candidate

def problem : Kernel α → Problem α
  | .reference k => k.problem
  | .candidate k => k.problem

/-- The names of the planned operators, for a kernel that has some. -/
def operatorNames? : Kernel α → Option (List String)
  | .reference k => some k.primitive.operatorNames
  | .candidate _ => none

def extent : Kernel α → Checked KernelExtent
  | .reference k => do
      let d := k.primitive.desc
      let outH ← d.outH
      let outW ← d.outW
      return {
        outH
        outW
        inChannels := d.inChannels
        outChannels := d.outChannels
        kernelH := d.kernelH
        kernelW := d.kernelW }
  | .candidate k =>
      let p := k.problem
      .ok {
        outH := p.outH
        outW := p.outW
        inChannels := p.shape.inChannels
        outChannels := p.shape.outChannels
        kernelH := p.kernelH
        kernelW := p.kernelW }

/-- Computes the convolution.  The answer holds the kernel as the run left it. -/
def run [Element α] : Kernel α → Kernel α × Attempt KernelError Unit
  | .reference k =>
      let (next, result) := k.run
      (.reference next, result)
  | .candidate k =>
      let (next, result) := k.run
      (.candidate next, result)

end Kernel

end ConvLab
