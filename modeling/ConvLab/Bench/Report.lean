import ConvLab.Bench.Performance
import ConvLab.Decimal.Text
import ConvLab.Kernel.Kind

/-!
# Performance reports

The printed report on a list of measured kernels.

* `Report.details` — one block for each shape, in the order of the first result for it;
* `Report.ranking` — all results by throughput, the fastest first, equal ones in their order;
* `Report.lines` — the whole report.
-/

namespace ConvLab

/-- A place in the order of all doubles, which puts `-0.0` before `0.0` and has a place for every
NaN. -/
def totalOrder (x : Float) : Int :=
  let bits := x.toBits.toNat
  if bits < 0x8000000000000000 then bits else 0x7fffffffffffffff - bits

namespace Report

def rule : String := String.ofList (List.replicate 80 '=')

def heading (title : String) : List String := ["", rule, title, rule]

def resultLines (p : Performance) : List String := [
  s!"   📊 {p.method}",
  "      Average time: " ++ fixedPlaces 3 p.averageMs ++ s!" ms ({p.averageNs} ns)",
  "      Total time: " ++ fixedPlaces 3 (milliseconds p.totalNs) ++ " ms",
  s!"      Executions: {p.executions}",
  "      Throughput: " ++ fixedPlaces 2 p.gflops ++ " GFLOP/s"]

/-- The line that compares the two kernels, if both have a result. -/
def comparisonLines (results : List Performance) : List String :=
  match results.find? (·.method = Kind.reference.name),
      results.find? (·.method = Kind.candidate.name) with
  | some reference, some candidate => [
      "   📈 Candidate vs Reference: " ++ fixedPlaces 2 (candidate.overheadRatio reference) ++
        "x time (" ++ signedPlaces 1 (candidate.overheadPercentage reference) ++ "%)"]
  | _, _ => []

/-- The shapes of the results, in the order of the first result for each. -/
def shapes (results : List Performance) : List Shape := (results.map (·.shape)).eraseDups

def resultsFor (results : List Performance) (s : Shape) : List Performance :=
  results.filter (·.shape = s)

/-- The blocks of the detail part: each shape with its results. -/
def blocks (results : List Performance) : List (Shape × List Performance) :=
  (shapes results).map fun s => (s, resultsFor results s)

def blockLines (s : Shape) (results : List Performance) : List String :=
  ["", s!"📐 {s.describe}"] ++ results.flatMap resultLines ++ comparisonLines results

/-- The results by throughput, the fastest first. -/
def ranked (results : List Performance) : List Performance :=
  results.mergeSort fun a b => totalOrder b.gflops ≤ totalOrder a.gflops

/-- The mark of a rank, counted from zero. -/
def medal : Nat → String
  | 0 => "🥇"
  | 1 => "🥈"
  | 2 => "🥉"
  | _ => "  "

def rankLine (rank : Nat) (p : Performance) : String :=
  s!"   {medal rank} {p.method} [{p.shape.label}]: " ++ fixedPlaces 2 p.gflops ++ " GFLOP/s"

def details (results : List Performance) : List String :=
  heading "Detailed Results" ++ (blocks results).flatMap fun (s, rs) => blockLines s rs

def ranking (results : List Performance) : List String :=
  heading "Performance Analysis" ++ ["", "🚀 Throughput Rankings (highest to lowest):"] ++
    (ranked results).mapIdx rankLine

/-- The whole report.  Without results there is none. -/
def lines (results : List Performance) : List String :=
  if results.isEmpty then [] else details results ++ ranking results

end Report

end ConvLab
