import ConvLab.Proofs.Grouping
import ConvLab.Proofs.Run
import ConvLab.Proofs.Verdict

/-!
# Verified runs

Before a run times anything it may compare the kernels on every distinct shape.  A comparison has
three ends and none of them stops the run, so a verified run is the run without verification, with
the disagreements added.

* `verifyKernels_ends` — the three ends of a comparison;
* `Suite.verifyEach_records` — the comparisons on a list of shapes;
* `Suite.runConfigurations_verified` — the verified run beside the run without verification.
-/

namespace ConvLab

/-! ### The kernels on one shape -/

/-- The ends of a comparison.  The kernels agree or the candidate does not take the shape; the shape
gives no problem or the reference does not take it; or the kernels disagree on that very shape. -/
theorem verifyKernels_ends [Processor] {s : Shape} (hroom : s.Buildable → s.Roomy)
    (tolerance : Float32) :
    (∃ verification, verifyKernels s tolerance = .ok verification) ∨
      (∃ e, verifyKernels s tolerance = .error (.error (.kernel e)) ∧ e.isRecoverable = true) ∨
      ∃ reason, verifyKernels s tolerance = .error (.error (.disagreement s reason)) := by
  rcases hbuild : Problem.build s { scale := 1.0, fill := .pattern } with (trap | e) | p
  · obtain ⟨hshape, hcrowded, -⟩ := Problem.build_eq_trap_iff.mp hbuild
    exact absurd (hroom hshape) hcrowded
  · obtain ⟨cause, -, rfl⟩ := Problem.build_eq_error_iff.mp hbuild
    refine .inr (.inl ⟨.invalidShape cause, ?_, rfl⟩)
    rw [verifyKernels, hbuild]
    rfl
  have hp := Problem.built_of_build hbuild
  obtain ⟨-, hroomy, rfl⟩ := Problem.build_eq_ok_iff.mp hbuild
  obtain ⟨p', hlaid⟩ := exists_laidOut hp hroomy.dst_room
  have hverdict := verifyKernels_verdict hbuild hlaid tolerance
  cases hend : verifyKernels s tolerance with
  | ok verification => exact .inl ⟨verification, rfl⟩
  | error failure =>
      rw [hend] at hverdict
      rcases hverdict.eq_of_error with ⟨reason, rfl⟩ | ⟨reason, rfl⟩
      · exact .inr (.inl ⟨_, rfl, rfl⟩)
      · exact .inr (.inr ⟨reason, rfl⟩)

/-- Why the kernels disagree on a shape, if they do. -/
def Shape.disagreement? [Processor] (s : Shape) : Option String :=
  match verifyKernels s verifyTolerance with
  | .error (.error (.disagreement _ reason)) => some reason
  | _ => none

/-- What the log says of the comparison on a shape. -/
def Shape.verificationLines [Processor] (s : Shape) : List LogLine :=
  match verifyKernels s verifyTolerance with
  | .ok verification => [verification.logLine s]
  | .error (.error (.disagreement _ reason)) =>
      [⟨.error, s!"❌ {(BenchError.disagreement s reason).message}"⟩]
  | _ => []

namespace Suite

/-! ### The verification of a suite -/

/-- The shapes that configurations ask for, in order. -/
def shapesOf (configurations : List (Kind × Entry)) : List Shape :=
  configurations.filterMap fun c => c.2.toShape.toOption

theorem mem_shapesOf {configurations : List (Kind × Entry)} {shape : Shape} :
    shape ∈ shapesOf configurations ↔ ∃ c ∈ configurations, c.2.toShape = .ok shape := by
  simp only [shapesOf, List.mem_filterMap]
  constructor
  · intro h
    obtain ⟨c, hc, hshape⟩ := h
    refine ⟨c, hc, ?_⟩
    cases htoShape : c.2.toShape with
    | error cause => simp [htoShape, Except.toOption] at hshape
    | ok shape => simpa [htoShape, Except.toOption] using hshape
  · intro h
    obtain ⟨c, hc, hshape⟩ := h
    exact ⟨c, hc, by rw [hshape]; rfl⟩

variable {τ : Type}

/-- The comparisons on a list of shapes.  None of them ends the others, and the timer is left
alone. -/
theorem verifyEach_records [Processor] {shapes : List Shape}
    (hroom : ∀ shape ∈ shapes, shape.Buildable → shape.Roomy) (disagreements : List BenchError)
    (t : τ) :
    Records (verifyEach shapes disagreements : Recorded τ _) t
      (shapes.flatMap Shape.verificationLines)
      (.ok (disagreements ++ shapes.filterMap fun shape =>
        shape.disagreement?.map (BenchError.disagreement shape))) t := by
  induction shapes generalizing disagreements with
  | nil =>
      rw [List.filterMap_nil, List.append_nil]
      exact Records.pure _ t
  | cons shape rest ih =>
      have ih := ih fun shape' hshape' => hroom shape' (List.mem_cons_of_mem shape hshape')
      rcases verifyKernels_ends (hroom shape List.mem_cons_self) verifyTolerance with
        ⟨verification, hends⟩ | ⟨e, hends, he⟩ | ⟨reason, hends⟩
      · have hlines : shape.verificationLines = [verification.logLine shape] := by
          rw [Shape.verificationLines, hends]
        have hnone : shape.disagreement? = none := by rw [Shape.disagreement?, hends]
        rw [List.flatMap_cons, hlines, List.filterMap_cons_none (by rw [hnone]; rfl), verifyEach,
          hends]
        exact Records.bind (Records.log _ t) (ih disagreements)
      · have hlines : shape.verificationLines = [] := by rw [Shape.verificationLines, hends]
        have hnone : shape.disagreement? = none := by rw [Shape.disagreement?, hends]
        have hrecoverable : (BenchError.kernel e).isRecoverable = true := he
        rw [List.flatMap_cons, hlines, List.filterMap_cons_none (by rw [hnone]; rfl), verifyEach,
          hends]
        simp only [BenchError.isDisagreement, hrecoverable, Bool.false_eq_true, if_false, if_true]
        exact ih disagreements
      · have hlines : shape.verificationLines =
            [⟨.error, s!"❌ {(BenchError.disagreement shape reason).message}"⟩] := by
          rw [Shape.verificationLines, hends]
        have hsome : shape.disagreement? = some reason := by rw [Shape.disagreement?, hends]
        rw [List.flatMap_cons, hlines, List.filterMap_cons_some (by rw [hsome]; rfl), verifyEach,
          hends, List.append_cons]
        simp only [BenchError.isDisagreement, if_true]
        exact Records.bind (Records.log _ t) (ih _)

def verificationHeader : LogLine :=
  ⟨.info, "Verifying output consistency between reference and candidate kernels..."⟩

variable {s : Suite} {kinds : List Kind}

theorem Untrapped.roomy_of_mem_distinctShapes
    (huntrapped : Untrapped s.options (s.configurations kinds)) {shape : Shape}
    (hshape : shape ∈ s.distinctShapes kinds) (hbuildable : shape.Buildable) : shape.Roomy := by
  have hasked : shape ∈ shapesOf (s.configurations kinds) := List.mem_eraseDups.mp hshape
  obtain ⟨c, hc, hentry⟩ := mem_shapesOf.mp hasked
  apply Classical.byContradiction
  intro hcrowded
  exact (huntrapped c hc shape hentry).build .capacityOverflow
    (Problem.build_eq_trap_iff.mpr ⟨hbuildable, hcrowded, rfl⟩)

theorem verifyShapes_records [Processor] (hverify : s.verify = true)
    (huntrapped : Untrapped s.options (s.configurations kinds)) (t : τ) :
    Records (s.verifyShapes kinds : Recorded τ _) t
      (verificationHeader :: (s.distinctShapes kinds).flatMap Shape.verificationLines)
      (.ok ((s.distinctShapes kinds).filterMap fun shape =>
        shape.disagreement?.map (BenchError.disagreement shape))) t := by
  have heach := verifyEach_records
    (fun _ hshape => huntrapped.roomy_of_mem_distinctShapes hshape) [] t
  simp only [verifyShapes, hverify, if_true]
  exact Records.bind (Records.log verificationHeader t) heach

/-- What a run has produced does not depend on the disagreements that were found before it. -/
theorem answer_disagreements (disagreements : List BenchError) (skipped : List Skipped)
    (timed : List TrialReport × Option (Failure KernelError)) :
    answer { disagreements } skipped timed =
      (answer {} skipped timed).map fun summary => { summary with disagreements } := by
  rcases timed with ⟨reports, _ | failure⟩ <;> rfl

/-- A verified run beside the run without verification.  Each distinct shape is compared once, in the
order in which the configurations first ask for it, and before the timer is driven: the comparisons
leave the timer alone and never end the run.  Their disagreements are added to what the run produces;
its reports, the configurations it passes over, its error and what it does to the timer stay as they
are. -/
theorem runConfigurations_verified [Processor] {s : Suite} (hverify : s.verify = true)
    (kinds : List Kind) (huntrapped : Untrapped s.options (s.configurations kinds)) {τ : Type}
    (timer : Timer (StateM τ)) (session : Session) (t : τ) :
    ∃ shapes disagreements checks lines a t',
      FirstOccurrences (shapesOf (s.configurations kinds)) shapes ∧
      disagreements = shapes.filterMap (fun shape =>
        shape.disagreement?.map (BenchError.disagreement shape)) ∧
      checks = verificationHeader :: shapes.flatMap Shape.verificationLines ∧
      ((s.verifyShapes kinds : Recorded τ _).run session).run t =
        ((.ok disagreements, session.logged checks), t) ∧
      (({ s with verify := false }.runConfigurations kinds timer : Recorded τ _).run session).run t =
        ((a, session.logged lines), t') ∧
      ((s.runConfigurations kinds timer : Recorded τ _).run session).run t =
        ((a.map fun summary => { summary with disagreements }, session.logged (checks ++ lines)),
          t') := by
  obtain ⟨lines, hrun⟩ := runEach_records timer huntrapped t
  have hverified := verifyShapes_records hverify huntrapped t
  have hunverified :=
    verifyShapes_unverified (show { s with verify := false }.verify = false from rfl) kinds t
  refine ⟨s.distinctShapes kinds, _, _, lines, _, _, firstOccurrences_eraseDups _, rfl, rfl,
    hverified session, runConfigurations_records hunverified (hrun {}) session, ?_⟩
  rw [← answer_disagreements]
  exact runConfigurations_records hverified (hrun _) session

def mixedVerified : Suite := { mixed with verify := true }

section

attribute [local instance] Processor.vector

theorem runConfigurations_verified_mixed :
    ∃ (shapes : List Shape) (session' : Session),
      FirstOccurrences [⟨1, 2, 1, 1, 1, 0, 1⟩, ⟨1, 2, 1, 1, 1, 1, 1⟩, ⟨1, 2, 1, 1, 1, 0, 1⟩]
        shapes ∧
      ((mixedVerified.verifyShapes [.reference, .candidate] : Recorded Rehearsal _).run {}).run {} =
        ((.ok (shapes.filterMap fun shape =>
          shape.disagreement?.map (BenchError.disagreement shape)), session'), {}) ∧
      (((mixedVerified.runConfigurations [.reference, .candidate] failing :
        Recorded Rehearsal _).run {}).run {}).1.1 =
          .error (.error (.kernel (.fault "scripted" "stopped"))) := by
  obtain ⟨shapes, _, _, lines, a, t', hfirst, rfl, rfl, hverified, hplain, hrun⟩ :=
    runConfigurations_verified (s := mixedVerified) rfl [.reference, .candidate] untrapped_mixed
      failing {} {}
  have ha : a = .error (.error (.kernel (.fault "scripted" "stopped"))) :=
    (congrArg (fun r => r.1.1) hplain).symm
  refine ⟨shapes, _, hfirst, hverified, ?_⟩
  rw [hrun, ha]
  rfl

end

end Suite

end ConvLab
