import ConvLab.Direct
import ConvLab.Kernel.Kind
import ConvLab.Problem

/-!
# The candidate kernel

A problem bound to the direct kernel.  What the direct kernel asks of its arguments is checked
when the candidate is created, so a run has nothing left to reject.
-/

namespace ConvLab

variable {α : Type}

/-- A problem bound to the direct kernel. -/
structure Candidate (α : Type) where
  problem : Problem α

namespace Candidate

/-- What the direct kernel asks of a problem, with the reason to reject one that does not meet
it. -/
def contract (p : Problem α) : List (Bool × String) := [
  (p.inH = p.inW, "input must be square"),
  (p.kernelH = p.kernelW, "kernel must be square"),
  (p.outH = p.outW, "output must be square"),
  (p.shape.padding = 0, "padding is not supported"),
  (p.shape.stride = 1, "only unit stride is supported")]

/-- Why a problem is rejected: the first requirement that it does not meet. -/
def violation? (p : Problem α) : Option String := ((contract p).find? (!·.1)).map (·.2)

def create (p : Problem α) : Attempt KernelError (Candidate α) := do
  if let some reason := violation? p then
    throw (.error (.rejected Kind.candidate.name reason))
  -- implied by the contract, and asserted to keep the call of the kernel safe
  requireEqual p.outH (← Word.add (← Word.sub p.inH p.kernelH) 1)
  return { problem := p }

def geometry (p : Problem α) : Direct.Geometry where
  outH := p.outH
  outW := p.outW
  outChannels := p.shape.outChannels
  kernel := p.kernelH
  inChannels := p.shape.inChannels
  inH := p.inH
  inW := p.inW
  batch := p.shape.batch

def run [Element α] (k : Candidate α) : Candidate α × Attempt KernelError Unit :=
  let memory := k.problem.memory
  match Direct.convolve (geometry k.problem) k.problem.scale memory.src.toArray
      memory.weights.toArray memory.bias.toArray memory.dst.toArray with
  | .ok dst => ({ problem := { k.problem with memory := { memory with dst := .ofArray dst } } },
      .ok ())
  | .error trap => (k, .error (.trap trap))

end Candidate

end ConvLab
