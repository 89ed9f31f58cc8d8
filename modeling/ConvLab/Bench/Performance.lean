import ConvLab.Shape.Basic

/-!
# Performance

What a measurement says about a kernel on a shape.
-/

namespace ConvLab

/-- A measured kernel.  The averages are kept beside the numbers that they come from. -/
structure Performance where
  method : String
  shape : Shape
  totalNs : Nat
  /-- The time of one execution in whole nanoseconds. -/
  averageNs : Nat
  /-- The time of one execution in milliseconds. -/
  averageMs : Float
  executions : UInt32
  /-- Floating-point operations of one execution. -/
  flops : Nat
  deriving DecidableEq, Repr

def milliseconds (ns : Nat) : Float := Float.ofNat ns / 1000000.0

namespace Performance

/-- A kernel measured by the total time of its executions. -/
def measured (method : String) (shape : Shape) (totalNs : Nat) (executions : UInt32)
    (flops : Nat) : Performance :=
  let averageNs := totalNs / max executions.toNat 1
  { method, shape, totalNs, averageNs, averageMs := milliseconds averageNs, executions, flops }

/-- Operations per nanosecond; zero if the time is too short to be measured. -/
def gflops (p : Performance) : Float :=
  if p.averageNs = 0 then 0.0 else Float.ofNat p.flops / Float.ofNat p.averageNs

/-- The time of one execution as a multiple of that of another. -/
def overheadRatio (p baseline : Performance) : Float :=
  Float.ofNat p.averageNs / Float.ofNat baseline.averageNs

/-- How much longer one execution takes than that of another, in percent. -/
def overheadPercentage (p baseline : Performance) : Float :=
  (p.overheadRatio baseline - 1.0) * 100.0

end Performance

end ConvLab
