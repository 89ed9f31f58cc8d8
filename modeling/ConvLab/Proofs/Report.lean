import ConvLab.Bench.Report
import ConvLab.Proofs.Grouping

/-!
# Complete reports

A report shows the same results twice: grouped by shape in its detail part, and sorted by throughput
in its ranking.  Both parts show all of them.

* `totalOrder_inj` — a place in the order of all doubles belongs to one double;
* `filter_mergeSort` — a stable sort keeps elements in order between which it does not decide;
* `Report.blocks_perm`, `Report.ranked_perm` — the two parts hold the results;
* `Report.ranked_pairwise`, `Report.filter_ranked` — the order of the ranking;
* `Report.lines_complete` — what is printed for any list of results.
-/

namespace ConvLab

/-! ### The order of all doubles -/

theorem toBits_inj {x y : Float} : x.toBits = y.toBits ↔ x = y := by
  constructor
  · intro hbits
    obtain ⟨⟨xbits, hx⟩⟩ := x
    obtain ⟨⟨ybits, hy⟩⟩ := y
    have heq : xbits = ybits := hbits
    subst heq
    rfl
  · intro heq
    rw [heq]

/-- No two doubles share a place. -/
theorem totalOrder_inj {x y : Float} : totalOrder x = totalOrder y ↔ x = y := by
  rw [← toBits_inj, ← UInt64.toNat_inj]
  simp only [totalOrder]
  omega

/-! ### Stable sorting -/

/-- Elements that all come before each other stay as they are under a stable sort. -/
theorem filter_mergeSort {α : Type} {le : α → α → Bool}
    (htrans : ∀ a b c, le a b = true → le b c = true → le a c = true)
    (htotal : ∀ a b, (le a b || le b a) = true) {p : α → Bool}
    (hp : ∀ a b, p a = true → p b = true → le a b = true) (xs : List α) :
    (xs.mergeSort le).filter p = xs.filter p := by
  have hsorted : (xs.filter p).Pairwise fun a b => le a b = true := by
    apply List.pairwise_of_forall_mem_list
    intro a ha b hb
    exact hp a b (List.mem_filter.mp ha).2 (List.mem_filter.mp hb).2
  have hkept : (xs.filter p).Sublist (xs.mergeSort le) :=
    List.sublist_mergeSort htrans htotal hsorted List.filter_sublist
  have hfiltered : (xs.filter p).Sublist ((xs.mergeSort le).filter p) := by
    simpa using hkept.filter p
  have hlength : (xs.filter p).length = ((xs.mergeSort le).filter p).length :=
    ((List.mergeSort_perm xs le).filter p).length_eq.symm
  exact (hfiltered.eq_of_length hlength).symm

namespace Report

variable (results : List Performance)

/-! ### The detail part -/

theorem firstOccurrences_blocks :
    FirstOccurrences (results.map (·.shape)) ((blocks results).map Prod.fst) := by
  have hshapes : (blocks results).map Prod.fst = shapes results := by
    simp [blocks, Function.comp_def]
  rw [hshapes]
  exact firstOccurrences_eraseDups _

/-- The blocks share the results out among them. -/
theorem blocks_perm : ((blocks results).flatMap Prod.snd).Perm results := by
  have hshapes := firstOccurrences_eraseDups (results.map (·.shape))
  have hgroups : (blocks results).flatMap Prod.snd =
      (shapes results).flatMap fun s => results.filter (·.shape = s) := by
    rw [blocks, List.flatMap_map]
    rfl
  rw [hgroups]
  apply perm_groups Performance.shape hshapes.nodup
  intro p hp
  exact (hshapes.mem_iff _).mpr (List.mem_map_of_mem hp)

theorem snd_of_mem_blocks {b : Shape × List Performance} (hb : b ∈ blocks results) :
    b.2 = results.filter (·.shape = b.1) := by
  obtain ⟨s, -, rfl⟩ := List.mem_map.mp hb
  rfl

/-! ### The ranking -/

/-- Whether one result may stand before another in the ranking. -/
def before (a b : Performance) : Bool := totalOrder b.gflops ≤ totalOrder a.gflops

theorem before_iff {a b : Performance} :
    before a b = true ↔ totalOrder b.gflops ≤ totalOrder a.gflops := decide_eq_true_iff

theorem before_trans (a b c : Performance) (hab : before a b = true) (hbc : before b c = true) :
    before a c = true := by
  rw [before_iff] at *
  exact Int.le_trans hbc hab

theorem before_total (a b : Performance) : (before a b || before b a) = true := by
  rw [Bool.or_eq_true, before_iff, before_iff]
  exact Int.le_total _ _

theorem ranked_eq : ranked results = results.mergeSort before := rfl

theorem ranked_perm : (ranked results).Perm results := List.mergeSort_perm _ _

/-- A later result has a lower place in the order of the throughputs, or the same throughput. -/
theorem ranked_pairwise :
    (ranked results).Pairwise fun a b =>
      totalOrder b.gflops < totalOrder a.gflops ∨ b.gflops = a.gflops := by
  rw [ranked_eq]
  apply (List.pairwise_mergeSort before_trans before_total results).imp
  intro a b hbefore
  rw [← totalOrder_inj]
  exact Int.lt_or_eq_of_le (before_iff.mp hbefore)

/-- Results of equal throughput keep their order. -/
theorem filter_ranked (throughput : Float) :
    (ranked results).filter (·.gflops = throughput) =
      results.filter (·.gflops = throughput) := by
  rw [ranked_eq]
  apply filter_mergeSort before_trans before_total
  intro a b ha hb
  have hequal : b.gflops = a.gflops := (of_decide_eq_true hb).trans (of_decide_eq_true ha).symm
  exact before_iff.mpr (Int.le_of_eq (congrArg totalOrder hequal))

/-! ### The whole report -/

theorem comparisonLines_eq :
    comparisonLines results = Option.toList (
      (results.find? (·.method = "reference")).bind fun reference =>
        (results.find? (·.method = "candidate")).map fun candidate =>
          "   📈 Candidate vs Reference: " ++ fixedPlaces 2 (candidate.overheadRatio reference) ++
            "x time (" ++ signedPlaces 1 (candidate.overheadPercentage reference) ++ "%)") := by
  rw [comparisonLines, show Kind.reference.name = "reference" from rfl,
    show Kind.candidate.name = "candidate" from rfl]
  cases results.find? (·.method = "reference") with
  | none => rfl
  | some reference =>
      cases results.find? (·.method = "candidate") with
      | none => rfl
      | some candidate => rfl

theorem medal_eq (rank : Nat) : medal rank = ["🥇", "🥈", "🥉"].getD rank "  " := by
  match rank with
  | 0 => rfl
  | 1 => rfl
  | 2 => rfl
  | _ + 3 => rfl

/-- What is printed for any list of results.  Without results it is nothing.  Otherwise it has two
parts.  The first has a block for each distinct shape, in the order in which the shapes come up
first; the block of a shape lists the results for it in their order, five lines for each, and all
blocks together list every result once.  The second lists every result once, one line for each, by
throughput from the highest to the lowest, and results of equal throughput in their order. -/
theorem lines_complete :
    (lines results = if results = [] then [] else
      ["", rule, "Detailed Results", rule] ++
      ((blocks results).flatMap fun b =>
        ["", s!"📐 {b.1.describe}"] ++
        (b.2.flatMap fun p => [
          s!"   📊 {p.method}",
          "      Average time: " ++ fixedPlaces 3 p.averageMs ++ s!" ms ({p.averageNs} ns)",
          "      Total time: " ++ fixedPlaces 3 (Float.ofNat p.totalNs / 1000000.0) ++ " ms",
          s!"      Executions: {p.executions}",
          "      Throughput: " ++ fixedPlaces 2 p.gflops ++ " GFLOP/s"]) ++
        Option.toList (
          (b.2.find? (·.method = "reference")).bind fun reference =>
            (b.2.find? (·.method = "candidate")).map fun candidate =>
              "   📈 Candidate vs Reference: " ++
                fixedPlaces 2 (candidate.overheadRatio reference) ++ "x time (" ++
                signedPlaces 1 (candidate.overheadPercentage reference) ++ "%)")) ++
      ["", rule, "Performance Analysis", rule, "",
        "🚀 Throughput Rankings (highest to lowest):"] ++
      (ranked results).mapIdx fun rank p =>
        "   " ++ ["🥇", "🥈", "🥉"].getD rank "  " ++ " " ++ p.method ++ " [" ++ p.shape.label ++
          "]: " ++ fixedPlaces 2 p.gflops ++ " GFLOP/s") ∧
      FirstOccurrences (results.map (·.shape)) ((blocks results).map Prod.fst) ∧
      ((blocks results).flatMap Prod.snd).Perm results ∧
      (∀ b ∈ blocks results, b.2 = results.filter (·.shape = b.1)) ∧
      (ranked results).Perm results ∧
      ((ranked results).Pairwise fun a b =>
        totalOrder b.gflops < totalOrder a.gflops ∨ b.gflops = a.gflops) ∧
      ∀ throughput : Float,
        (ranked results).filter (·.gflops = throughput) =
          results.filter (·.gflops = throughput) := by
  refine ⟨?_, firstOccurrences_blocks results, blocks_perm results,
    fun b hb => snd_of_mem_blocks results hb, ranked_perm results, ranked_pairwise results,
    filter_ranked results⟩
  simp only [← comparisonLines_eq, ← medal_eq, lines, List.isEmpty_iff, details, ranking,
    List.append_assoc]
  rfl

/-- A result for the reference.  The averages of a result need not come from its total, as they do
here. -/
def slow : Performance :=
  ⟨"reference", ⟨1, 8, 1, 1, 3, 0, 1⟩, 1000000, 100000, 0.1, 10, 200000⟩

def tied : Performance := ⟨"reference", ⟨1, 9, 1, 1, 3, 0, 1⟩, 7, 50000, 0.25, 0, 100000⟩

def fast : Performance :=
  ⟨"candidate", ⟨1, 8, 1, 1, 3, 0, 1⟩, 500000, 50000, 0.05, 10, 200000⟩

/-- Two kernels on one shape with another shape in between. -/
def interleaved : List Performance := [slow, tied, fast]

theorem ranked_interleaved : ranked interleaved = [fast, slow, tied] := by
  have htied : totalOrder tied.gflops ≤ totalOrder slow.gflops := by decide +kernel
  have hfast : ¬ totalOrder fast.gflops ≤ totalOrder slow.gflops := by decide +kernel
  simp [ranked, interleaved, List.mergeSort, List.MergeSort.Internal.splitInTwo, htied, hfast]

theorem lines_complete_interleaved :
    lines interleaved = [
      "", rule, "Detailed Results", rule,
      "", "📐 N=1 IH=IW=8 IC=1 OC=1 K=3 P=0 S=1",
      "   📊 reference",
      "      Average time: 0.100 ms (100000 ns)",
      "      Total time: 1.000 ms",
      "      Executions: 10",
      "      Throughput: 2.00 GFLOP/s",
      "   📊 candidate",
      "      Average time: 0.050 ms (50000 ns)",
      "      Total time: 0.500 ms",
      "      Executions: 10",
      "      Throughput: 4.00 GFLOP/s",
      "   📈 Candidate vs Reference: 0.50x time (-50.0%)",
      "", "📐 N=1 IH=IW=9 IC=1 OC=1 K=3 P=0 S=1",
      "   📊 reference",
      "      Average time: 0.250 ms (50000 ns)",
      "      Total time: 0.000 ms",
      "      Executions: 0",
      "      Throughput: 2.00 GFLOP/s",
      "", rule, "Performance Analysis", rule,
      "", "🚀 Throughput Rankings (highest to lowest):",
      "   🥇 candidate [n1_i8_c1_o1_k3_p0_s1]: 4.00 GFLOP/s",
      "   🥈 reference [n1_i8_c1_o1_k3_p0_s1]: 2.00 GFLOP/s",
      "   🥉 reference [n1_i9_c1_o1_k3_p0_s1]: 2.00 GFLOP/s"] ∧
      (∀ b ∈ blocks interleaved, b.2 = interleaved.filter (·.shape = b.1)) ∧
      (ranked interleaved).filter (·.gflops = 2.0) = [slow, tied] := by
  have hties : interleaved.filter (·.gflops = 2.0) = [slow, tied] := by decide +kernel
  obtain ⟨hlines, -, -, hblocks, -, -, hranked⟩ := lines_complete interleaved
  rw [ranked_interleaved] at hlines
  exact ⟨hlines.trans (by decide +kernel), hblocks, (hranked 2.0).trans hties⟩

end Report

end ConvLab
