import ConvLab.Bench.Host
import ConvLab.Bench.Performance
import ConvLab.Bench.Timer
import ConvLab.Kernel.Basic

/-!
# Trials

A trial is one kernel on one shape.  It passes through its phases in order: it is built, it may be
warmed up, it is timed, and it is done.  All that is done only once is done when it is built.

* `Trial.prepare` — builds the problem and binds the kernel;
* `Trial.execute` — warms the kernel up if the timer does so, and measures it.
-/

namespace ConvLab

inductive Phase where
  | building
  | warmingUp
  | timing
  | done
  deriving DecidableEq, Repr

namespace Phase

def name : Phase → String
  | .building => "building"
  | .warmingUp => "warming up"
  | .timing => "timing"
  | .done => "done"

/-- The place of a phase in the course of a trial. -/
def rank : Phase → Nat
  | .building => 0
  | .warmingUp => 1
  | .timing => 2
  | .done => 3

end Phase

structure TrialReport where
  kind : Kind
  shape : Shape
  /-- The phases that the trial passed through. -/
  phases : List Phase
  /-- Nothing if the timer kept its measurement to itself. -/
  results : Option Performance
  deriving DecidableEq

/-- A prepared kernel on a shape. -/
structure Trial where
  kind : Kind
  shape : Shape
  flops : Nat
  kernel : Kernel Float32
  /-- The phases before the present one. -/
  earlier : List Phase
  phase : Phase

namespace Trial

/-- The label of a kernel on a shape, such as `reference/n4_i56_c64_o64_k3_p1_s1`. -/
def labelOf (kind : Kind) (s : Shape) : String := s!"{kind.name}/{s.label}"

def label (t : Trial) : String := labelOf t.kind t.shape

def phases (t : Trial) : List Phase := t.earlier ++ [t.phase]

/-- What the log says when a trial is built. -/
def announcement (kind : Kind) (s : Shape) : LogLine :=
  ⟨.debug, s!"[{kind.name} {s.label}] {Phase.building.name}"⟩

/-- Builds the problem and binds the kernel. -/
def prepare [Processor] (kind : Kind) (s : Shape) (options : Options) :
    Attempt KernelError Trial := do
  let problem ← Problem.build s options
  let flops ← s.flops.onShape
  let kernel ← kind.create problem
  return { kind, shape := s, flops, kernel, earlier := [], phase := .building }

/-- Moves on to a later phase. -/
def enter (t : Trial) (next : Phase) : Checked Trial :=
  if t.phase.rank < next.rank then
    .ok { t with earlier := t.phases, phase := next }
  else
    .error .stateOrder

/-- What the log says of a change of phase. -/
def transition (t : Trial) (next : Phase) : LogLine :=
  ⟨.debug, s!"[{t.label}] {t.phase.name} -> {next.name}"⟩

/-- What a measurement says about the kernel of a trial. -/
def performance (t : Trial) (measurement : Measurement) : Performance :=
  .measured t.kind.name t.shape measurement.totalNs measurement.iterations t.flops

/-- The report of a trial that is done. -/
def report (t : Trial) (measurement : Option Measurement) : TrialReport where
  kind := t.kind
  shape := t.shape
  phases := t.phases
  results := measurement.map t.performance

section Execution

variable {m n : Type → Type} [Monad m] [Monad n] [Host n] [MonadLiftT m n]

/-- Moves on to a later phase and logs it. -/
def moveTo (t : Trial) (next : Phase) : ExceptT (Failure KernelError) n Trial := do
  match t.enter next with
  | .ok entered =>
      Host.log (t.transition next)
      return entered
  | .error trap => throw (.trap trap)

/-- Logs what a timer did with the kernel and goes on if it succeeded. -/
def settle {α : Type} (t : Trial) (driven : Driven (Kernel Float32) α) :
    ExceptT (Failure KernelError) n (Trial × α) := do
  driven.log.forM Host.log
  match driven.outcome with
  | .ok a => return ({ t with kernel := driven.state }, a)
  | .error failure => throw failure

def warmUp (timer : Timer m) (t : Trial) : ExceptT (Failure KernelError) n Trial := do
  let t ← t.moveTo .warmingUp
  let driven ← (liftM (timer.warmUp Kernel.run t.kernel) : n (Driven (Kernel Float32) Unit))
  let (t, _) ← t.settle driven
  return t

def measure (timer : Timer m) (t : Trial) : ExceptT (Failure KernelError) n TrialReport := do
  let t ← t.moveTo .timing
  let driven ← (liftM (timer.measure t.label Kernel.run t.kernel) :
    n (Driven (Kernel Float32) (Option Measurement)))
  let (t, measurement) ← t.settle driven
  let t ← t.moveTo .done
  return t.report measurement

/-- Warms the kernel up if the timer does so, and measures it. -/
def execute (timer : Timer m) (t : Trial) : ExceptT (Failure KernelError) n TrialReport := do
  if ← (liftM timer.warmsUp : n Bool) then
    measure timer (← warmUp timer t)
  else
    measure timer t

end Execution

end Trial

end ConvLab
