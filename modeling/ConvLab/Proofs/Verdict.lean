import ConvLab.Bench.Verification
import ConvLab.Proofs.Acceptance
import ConvLab.Proofs.Agreement

/-!
# The verdict on a shape

Two problems are made of a shape, three tensors are converted, two kernels are created and run
before two outputs can be compared.  On a shape with room for its buffers none of this can fail but
the creation of a kernel, so the parameters of the shape alone decide whether it comes to a
comparison.

* `LaidOut` — a problem and the same problem laid out for the candidate;
* `Outputs` — what the two kernels leave, in one layout;
* `Verdict` — the three ways in which a verification can end;
* `verifyKernels_verdict` — every verification ends in one of them;
* `verifyKernels_classified` — which of them it is, and what never happens.
-/

namespace ConvLab

variable {α : Type} [Element α]

/-! ### The problem of the candidate -/

/-- The second problem is the first one laid out for the candidate: both conversions succeed, and
what they give has the lengths that the shape implies. -/
def LaidOut (p p' : Problem α) : Prop :=
  ∃ nhwc hwio,
    Layout.nchwToNhwc p.memory.src.toArray p.shape.batch p.shape.inChannels p.shape.inDim
      p.shape.inDim = .ok nhwc ∧
    Layout.oihwToHwio p.memory.weights.toArray p.shape.outChannels p.shape.inChannels
      p.shape.kernelSize p.shape.kernelSize = .ok hwio ∧
    Problem.ofBuffers p.shape p.scale (.ofArray nhwc) (.ofArray hwio)
      (.ofArray p.memory.bias.toArray) = .ok p'

/-- Every problem can be laid out for the candidate. -/
theorem exists_laidOut {p : Problem α} (hp : p.Built)
    (hroom : p.shape.exactSizes.dst < Buffer.capacity) : ∃ p', LaidOut p p' := by
  obtain ⟨nhwc, hnhwc, hnhwc_size, -⟩ := Layout.nchwToNhwc_eq hp.count_src
  obtain ⟨hwio, hhwio, hhwio_size, -⟩ := Layout.oihwToHwio_eq hp.count_weights
  have hsrc : (Buffer.ofArray nhwc).size = p.shape.exactSizes.src :=
    hnhwc_size.trans (p.memory.src.size_toArray.trans hp.src_size)
  have hweights : (Buffer.ofArray hwio).size = p.shape.exactSizes.weights :=
    hhwio_size.trans (p.memory.weights.size_toArray.trans hp.weights_size)
  have hbias : (Buffer.ofArray p.memory.bias.toArray).size = p.shape.exactSizes.bias :=
    p.memory.bias.size_toArray.trans hp.bias_size
  exact ⟨_, nhwc, hwio, hnhwc, hhwio,
    Problem.ofBuffers_eq_ok_iff.mpr ⟨hp.shape, hsrc, hweights, hbias, hroom, rfl⟩⟩

namespace LaidOut

variable {p p' : Problem α}

theorem candidateProblem_eq (h : LaidOut p p') : candidateProblem p = .ok p' := by
  obtain ⟨nhwc, hwio, hnhwc, hhwio, hconverted⟩ := h
  simp only [candidateProblem, hnhwc, hhwio, Attempt.liftM_eq, Attempt.ofChecked_ok, ok_bind]
  exact hconverted

theorem built (h : LaidOut p p') : p'.Built := by
  obtain ⟨_, _, -, -, hconverted⟩ := h
  exact Problem.built_of_ofBuffers hconverted

theorem shape_eq (h : LaidOut p p') : p'.shape = p.shape := by
  obtain ⟨_, _, -, -, hconverted⟩ := h
  rw [(Problem.ofBuffers_eq_ok_iff.mp hconverted).2.2.2.2.2]

end LaidOut

/-! ### Both kernels -/

/-- The outputs of the two kernels, both laid out as the reference lays out its own. -/
structure Outputs [Processor] (p p' : Problem Float32) (expected actual : Array Float32) :
    Prop where
  reference : ∃ k k', Reference.create p = .ok k ∧ k.run = (k', .ok ()) ∧
    k'.problem.memory.dst.toArray = expected
  candidate : ∃ k k', Candidate.create p' = .ok k ∧ k.run = (k', .ok ()) ∧
    candidateOutput k'.problem = .ok actual

/-- Kernels that could be created run to their end and are compared. -/
theorem runBoth_eq [Processor] {p p' : Problem Float32} {reference : Reference Float32}
    {candidate : Candidate Float32} (hreference : Reference.create p = .ok reference)
    (hp' : p'.Built) (hcandidate : Candidate.create p' = .ok candidate) (tolerance : Float32) :
    ∃ expected actual, Outputs p p' expected actual ∧
      runBoth tolerance reference candidate = .ok (compareOutputs tolerance expected actual) := by
  obtain ⟨-, reference', hrun, -⟩ := Reference.run_of_create hreference
  obtain ⟨hpadding, hstride, rfl⟩ := (Candidate.create_eq_ok_iff hp').mp hcandidate
  obtain ⟨dst, actual, hrun', hconverted, -⟩ := Candidate.run_converted hp' hpadding hstride
  have hactual : candidateOutput (p'.withDst dst) = .ok actual := hconverted
  refine ⟨reference'.problem.memory.dst.toArray, actual,
    ⟨⟨reference, reference', hreference, hrun, rfl⟩, ⟨_, _, hcandidate, hrun', hactual⟩⟩, ?_⟩
  rw [runBoth, hrun, hrun']
  simp only [ok_bind, hactual, Attempt.liftM_eq, Attempt.ofChecked_ok]
  rfl

/-! ### Verdicts -/

/-- What a verification makes of a comparison. -/
def Verification.ofComparison (s : Shape) :
    Except Discrepancy Float32 → Attempt BenchError Verification
  | .ok maxDiff => .ok (.agreed maxDiff)
  | .error discrepancy => .error (.error (.disagreement s discrepancy.message))

/-- The three ways in which a verification can end: the candidate does not take the shape, the
reference does not take it, or the outputs are compared. -/
inductive Verdict [Processor] (s : Shape) (tolerance : Float32) (p p' : Problem Float32) :
    Attempt BenchError Verification → Prop where
  | skipped (hcandidate : ¬ Kind.candidate.Accepts s) :
      Verdict s tolerance p p' (.ok (.skipped (Kind.candidate.obstacle s)))
  | rejected (hcandidate : Kind.candidate.Accepts s) (hreference : ¬ Kind.reference.Accepts s) :
      Verdict s tolerance p p'
        (.error (.error (.kernel (.rejected Kind.reference.name (Kind.reference.obstacle s)))))
  | compared (hcandidate : Kind.candidate.Accepts s) (hreference : Kind.reference.Accepts s)
      {expected actual : Array Float32} (houtputs : Outputs p p' expected actual) :
      Verdict s tolerance p p'
        (Verification.ofComparison s (compareOutputs tolerance expected actual))

theorem Verification.ofComparison_cases (s : Shape) (comparison : Except Discrepancy Float32) :
    (∃ maxDiff, ofComparison s comparison = .ok (.agreed maxDiff)) ∨
      ∃ reason, ofComparison s comparison = .error (.error (.disagreement s reason)) := by
  cases comparison with
  | ok maxDiff => exact .inl ⟨maxDiff, rfl⟩
  | error discrepancy => exact .inr ⟨discrepancy.message, rfl⟩

namespace Verdict

variable [Processor] {s : Shape} {tolerance : Float32} {p p' : Problem Float32}
  {result : Attempt BenchError Verification}

theorem exists_eq_skipped_iff (h : Verdict s tolerance p p' result) :
    (∃ reason, result = .ok (.skipped reason)) ↔ ¬ Kind.candidate.Accepts s := by
  cases h with
  | skipped hcandidate => exact ⟨fun _ => hcandidate, fun _ => ⟨_, rfl⟩⟩
  | rejected hcandidate _ => simp [hcandidate]
  | @compared hcandidate _ expected actual _ =>
      rcases Verification.ofComparison_cases s (compareOutputs tolerance expected actual) with
        ⟨_, hend⟩ | ⟨_, hend⟩
      · simp [hend, hcandidate]
      · simp [hend, hcandidate]

theorem exists_eq_rejected_iff (h : Verdict s tolerance p p' result) :
    (∃ reason, result = .error (.error (.kernel (.rejected Kind.reference.name reason)))) ↔
      Kind.candidate.Accepts s ∧ ¬ Kind.reference.Accepts s := by
  cases h with
  | skipped hcandidate => simp [hcandidate]
  | rejected hcandidate hreference => exact ⟨fun _ => ⟨hcandidate, hreference⟩, fun _ => ⟨_, rfl⟩⟩
  | @compared _ hreference expected actual _ =>
      rcases Verification.ofComparison_cases s (compareOutputs tolerance expected actual) with
        ⟨_, hend⟩ | ⟨_, hend⟩
      · simp [hend, hreference]
      · simp [hend, hreference]

theorem eq_ofComparison (h : Verdict s tolerance p p' result)
    (hcandidate : Kind.candidate.Accepts s) (hreference : Kind.reference.Accepts s) :
    ∃ expected actual, Outputs p p' expected actual ∧
      result = Verification.ofComparison s (compareOutputs tolerance expected actual) := by
  cases h with
  | skipped hrefused => exact absurd hcandidate hrefused
  | rejected _ hrefused => exact absurd hreference hrefused
  | compared _ _ houtputs => exact ⟨_, _, houtputs, rfl⟩

/-- A verdict fails with the rejection by the reference or with a disagreement, and with nothing
else. -/
theorem eq_of_error {failure : Failure BenchError}
    (h : Verdict s tolerance p p' (.error failure)) :
    (∃ reason, failure = .error (.kernel (.rejected Kind.reference.name reason))) ∨
      ∃ reason, failure = .error (.disagreement s reason) := by
  generalize hresult : (Except.error failure : Attempt BenchError Verification) = result at h
  cases h with
  | skipped _ => cases hresult
  | rejected _ _ =>
      cases hresult
      exact .inl ⟨_, rfl⟩
  | @compared _ _ expected actual _ =>
      rcases Verification.ofComparison_cases s (compareOutputs tolerance expected actual) with
        ⟨_, hend⟩ | ⟨reason, hend⟩
      · rw [hend] at hresult
        cases hresult
      · rw [hend] at hresult
        cases hresult
        exact .inr ⟨reason, rfl⟩

end Verdict

@[simp] theorem Attempt.onKernel_ok {α : Type} (a : α) :
    Attempt.onKernel (.ok a) = .ok a := rfl

/-- Every verification of a shape whose problem could be built ends in a verdict. -/
theorem verifyKernels_verdict [Processor] {s : Shape} {p p' : Problem Float32}
    (hbuild : Problem.build s { scale := 1.0, fill := .pattern } = .ok p) (hlaid : LaidOut p p')
    (tolerance : Float32) : Verdict s tolerance p p' (verifyKernels s tolerance) := by
  have hp := Problem.built_of_build hbuild
  have hshape : p.shape = s := by
    rw [(Problem.build_eq_ok_iff.mp hbuild).2.2]
    rfl
  have hshape' : p'.shape = s := hlaid.shape_eq.trans hshape
  have hconverted := hlaid.candidateProblem_eq
  by_cases hcandidate : Kind.candidate.Accepts s
  · obtain ⟨candidate, hcreate', -⟩ :=
      Candidate.create_of_accepts hlaid.built (hshape'.symm ▸ hcandidate)
    by_cases hreference : Kind.reference.Accepts s
    · obtain ⟨reference, hcreate, -⟩ := Reference.create_of_accepts hp (hshape.symm ▸ hreference)
      obtain ⟨expected, actual, houtputs, hrun⟩ :=
        runBoth_eq hcreate hlaid.built hcreate' tolerance
      have hverdict : verifyKernels s tolerance =
          Verification.ofComparison s (compareOutputs tolerance expected actual) := by
        simp only [verifyKernels, hbuild, hconverted, hcreate', hcreate, hrun,
          Attempt.onKernel_ok, ok_bind]
        cases compareOutputs tolerance expected actual with
        | ok maxDiff => rfl
        | error discrepancy => rfl
      rw [hverdict]
      exact .compared hcandidate hreference houtputs
    · have hcreate := Reference.create_of_not_accepts hp (hshape.symm ▸ hreference)
      rw [hshape] at hcreate
      have hverdict : verifyKernels s tolerance =
          .error (.error (.kernel
            (.rejected Kind.reference.name (Kind.reference.obstacle s)))) := by
        simp only [verifyKernels, hbuild, hconverted, hcreate', hcreate, Attempt.onKernel_ok,
          ok_bind]
        rfl
      rw [hverdict]
      exact .rejected hcandidate hreference
  · have hcreate' := Candidate.create_of_not_accepts (hshape'.symm ▸ hcandidate)
    rw [hshape'] at hcreate'
    have hverdict : verifyKernels s tolerance =
        .ok (.skipped (Kind.candidate.obstacle s)) := by
      simp only [verifyKernels, hbuild, hconverted, hcreate', Attempt.onKernel_ok, ok_bind]
      rfl
    rw [hverdict]
    exact .skipped hcandidate

/-- Where the candidate takes a shape, the reference refuses it only for an unfolded input that is
too large, which a pointwise shape does not need. -/
theorem Kind.reference_accepts_iff {s : Shape} (hcandidate : Kind.candidate.Accepts s) :
    Kind.reference.Accepts s ↔ s.kernelSize = 1 ∨ s.workspace ≤ Primitive.maxScratch := by
  obtain ⟨hpadding, hstride⟩ := hcandidate
  simp [Accepts, Shape.IsPointwise, hpadding, hstride]

/-- Verification classifies every shape.  On a shape whose problem can be built it never traps: both
conversions of the inputs succeed and make the problem of the candidate.  The shape is skipped just
if it has padding or another stride than one; it is rejected by the reference just if it has neither
and its unfolded input is too large; and otherwise both kernels run, the output of the candidate is
converted, and the comparison of the two outputs decides.  No shape is found invalid on the way, and
no kernel faults. -/
theorem verifyKernels_classified [Processor] {s : Shape} {options : Options}
    {built : Problem Float32} (hbuilt : Problem.build s options = .ok built) (tolerance : Float32) :
    ∃ p p', Problem.build s { scale := 1.0, fill := .pattern } = .ok p ∧ LaidOut p p' ∧
      ((∃ reason, verifyKernels s tolerance = .ok (.skipped reason)) ↔
        s.padding ≠ 0 ∨ s.stride ≠ 1) ∧
      ((∃ reason, verifyKernels s tolerance =
          .error (.error (.kernel (.rejected Kind.reference.name reason)))) ↔
        s.padding = 0 ∧ s.stride = 1 ∧ s.kernelSize ≠ 1 ∧
          67108864 < s.extent * s.extent * s.inChannels * s.kernelSize * s.kernelSize) ∧
      (s.padding = 0 → s.stride = 1 →
        (s.kernelSize = 1 ∨
          s.extent * s.extent * s.inChannels * s.kernelSize * s.kernelSize ≤ 67108864) →
        ∃ expected actual, Outputs p p' expected actual ∧
          verifyKernels s tolerance =
            Verification.ofComparison s (compareOutputs tolerance expected actual)) ∧
      (∀ trap, verifyKernels s tolerance ≠ .error (.trap trap)) ∧
      (∀ cause, verifyKernels s tolerance ≠ .error (.error (.kernel (.invalidShape cause)))) ∧
      ∀ kernel reason,
        verifyKernels s tolerance ≠ .error (.error (.kernel (.fault kernel reason))) := by
  obtain ⟨hshape, hroom, -⟩ := Problem.build_eq_ok_iff.mp hbuilt
  have hbuild : Problem.build s { scale := 1.0, fill := .pattern } = .ok _ :=
    Problem.build_eq_ok_iff.mpr ⟨hshape, hroom, rfl⟩
  obtain ⟨p', hlaid⟩ := exists_laidOut (Problem.built_of_build hbuild) hroom.dst_room
  have hverdict := verifyKernels_verdict hbuild hlaid tolerance
  have hfailure : ∀ failure, verifyKernels s tolerance = .error failure → _ :=
    fun failure heq => (heq ▸ hverdict).eq_of_error
  refine ⟨_, p', hbuild, hlaid, ?_, ?_, ?_, ?_, ?_, ?_⟩
  · rw [hverdict.exists_eq_skipped_iff]
    exact Decidable.not_and_iff_not_or_not
  · rw [hverdict.exists_eq_rejected_iff]
    constructor
    · rintro ⟨hcandidate, hreference⟩
      rw [Kind.reference_accepts_iff hcandidate, not_or, Nat.not_le] at hreference
      exact ⟨hcandidate.1, hcandidate.2, hreference⟩
    · rintro ⟨hpadding, hstride, hreference⟩
      refine ⟨⟨hpadding, hstride⟩, ?_⟩
      rw [Kind.reference_accepts_iff ⟨hpadding, hstride⟩, not_or, Nat.not_le]
      exact hreference
  · intro hpadding hstride hreference
    have hcandidate : Kind.candidate.Accepts s := ⟨hpadding, hstride⟩
    exact hverdict.eq_ofComparison hcandidate
      ((Kind.reference_accepts_iff hcandidate).mpr hreference)
  · intro trap htrap
    rcases hfailure _ htrap with ⟨_, h⟩ | ⟨_, h⟩ <;> cases h
  · intro cause hinvalid
    rcases hfailure _ hinvalid with ⟨_, h⟩ | ⟨_, h⟩ <;> cases h
  · intro kernel reason hfault
    rcases hfailure _ hfault with ⟨_, h⟩ | ⟨_, h⟩ <;> cases h

/-- A shape without padding and with unit stride whose unfolded input is too large. -/
def Shape.vast : Shape where
  batch := 1
  inDim := 8194
  inChannels := 1
  outChannels := 1
  kernelSize := 3
  padding := 0
  stride := 1

section

attribute [local instance] Processor.vector

theorem verifyKernels_classified_vast :
    ∃ built, Problem.build Shape.vast {} = .ok built ∧
      ∀ tolerance, ∃ reason, verifyKernels Shape.vast tolerance =
        .error (.error (.kernel (.rejected "reference" reason))) := by
  have hshape : Shape.vast.Buildable := ⟨by constructor <;> decide, by decide, by decide, by decide⟩
  have hbuilt : Problem.build Shape.vast {} = .ok (Problem.filled Shape.vast {}) :=
    Problem.build_eq_ok_iff.mpr ⟨hshape, ⟨by decide, by decide, by decide⟩, rfl⟩
  refine ⟨_, hbuilt, fun tolerance => ?_⟩
  obtain ⟨p, p', -, -, -, hrejected, -⟩ := verifyKernels_classified hbuilt tolerance
  exact hrejected.mpr ⟨rfl, rfl, by decide, by decide⟩

end

end ConvLab
