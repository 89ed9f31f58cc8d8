import ConvLab.Bench.Trial
import ConvLab.Proofs.Acceptance
import ConvLab.Proofs.Session

/-!
# The course of a trial

A trial is prepared or reported: what stands in its way concerns its own configuration only.  Once it
is prepared, its course is what the timer makes of it.

* `Trial.prepare_eq_ok_iff`, `Trial.isRecoverable_of_prepare` — the preparation;
* `Shape.Untrapped`, `Trial.prepare_ne_trap` — the traps of a preparation are those of its problem;
* `Trial.timed` — what a timer makes of a trial, without phases to move through and without a log;
* `Trial.Course` — what the timer is asked on the way, and what it answers;
* `Trial.Course.execute_records`, `Trial.execute_records` — the execution of a prepared trial.
-/

namespace ConvLab

/-! ### Preparation -/

/-- Building the problem of a shape does not trap, and neither does counting the operations of a
problem that was built. -/
structure Shape.Untrapped (s : Shape) (options : Options) : Prop where
  build : ∀ trap, Problem.build s options ≠ .error (.trap trap)
  flops : ∀ p, Problem.build s options = .ok p → ∀ trap, s.flops ≠ .error (.trap trap)

theorem Shape.untrapped_of_roomy {s : Shape} {options : Options} {n : Nat} (hroom : s.Roomy)
    (hflops : s.flops = .ok n) : s.Untrapped options := by
  constructor
  · intro trap htrap
    exact (Problem.build_eq_trap_iff.mp htrap).2.1 hroom
  · intro p _ trap htrap
    rw [hflops] at htrap
    cases htrap

namespace Trial

variable [Processor] {kind : Kind} {s : Shape} {options : Options}

theorem prepare_eq_ok_iff {trial : Trial} :
    prepare kind s options = .ok trial ↔
      ∃ problem flops kernel, Problem.build s options = .ok problem ∧ s.flops = .ok flops ∧
        kind.create problem = .ok kernel ∧
        trial = { kind, shape := s, flops, kernel, earlier := [], phase := .building } := by
  simp only [prepare, bind_eq_ok_iff, Attempt.onShape, Attempt.mapError_eq_ok_iff]
  constructor
  · rintro ⟨problem, hproblem, flops, hflops, kernel, hkernel, htrial⟩
    cases htrial
    exact ⟨problem, flops, kernel, hproblem, hflops, hkernel, rfl⟩
  · rintro ⟨problem, flops, kernel, hproblem, hflops, hkernel, rfl⟩
    exact ⟨problem, hproblem, flops, hflops, kernel, hkernel, rfl⟩

/-- Whatever stands in the way of a trial concerns its own configuration only. -/
theorem isRecoverable_of_prepare {e : KernelError}
    (he : prepare kind s options = .error (.error e)) : e.isRecoverable = true := by
  simp only [prepare, bind_eq_error_iff, Attempt.onShape, Attempt.mapError_eq_error_iff] at he
  rcases he with hbuild | ⟨problem, hbuild, ⟨cause, -, rfl⟩ | ⟨flops, -, hcreate | ⟨_, -, htrial⟩⟩⟩
  · obtain ⟨cause, -, rfl⟩ := Problem.build_eq_error_iff.mp hbuild
    rfl
  · rfl
  · cases Kind.eq_rejected_of_create (Problem.built_of_build hbuild) hcreate
    rfl
  · cases htrial

theorem prepare_ne_trap (hs : s.Untrapped options) (trap : Trap) :
    prepare kind s options ≠ .error (.trap trap) := by
  intro htrap
  simp only [prepare, bind_eq_error_iff, Attempt.onShape, Attempt.mapError_eq_trap_iff] at htrap
  rcases htrap with hbuild | ⟨problem, hbuild, hflops | ⟨flops, -, hcreate | ⟨_, -, htrial⟩⟩⟩
  · exact hs.build trap hbuild
  · exact hs.flops problem hbuild trap hflops
  · cases Kind.eq_rejected_of_create (Problem.built_of_build hbuild) hcreate
  · cases htrial

end Trial

/-! ### Execution -/

/-- The phases of a trial that is done. -/
def Phase.course (warmed : Bool) : List Phase :=
  if warmed then [.building, .warmingUp, .timing, .done] else [.building, .timing, .done]

namespace Trial

/-- The report of a trial that went through the given phases. -/
def reportThrough (trial : Trial) (phases : List Phase) (measurement : Option Measurement) :
    TrialReport where
  kind := trial.kind
  shape := trial.shape
  phases
  results := measurement.map trial.performance

/-- What a timer makes of a trial: it may warm the kernel up, and if that goes well it measures the
kernel as the warm-up left it. -/
def timed {m : Type → Type} [Monad m] (timer : Timer m) (trial : Trial) :
    m (Attempt KernelError TrialReport) := do
  let warms ← timer.warmsUp
  let warmed ← if warms then timer.warmUp Kernel.run trial.kernel
    else pure { state := trial.kernel, outcome := .ok (), log := [] }
  match warmed.outcome with
  | .error failure => return .error failure
  | .ok _ =>
      let measured ← timer.measure trial.label Kernel.run warmed.state
      return measured.outcome.map (trial.reportThrough (Phase.course warms))

variable {τ : Type} {timer : Timer (StateM τ)} {trial : Trial} {t t₁ : τ}

def entered (trial : Trial) (next : Phase) : Trial :=
  { trial with earlier := trial.phases, phase := next }

theorem moveTo_records {next : Phase} (hnext : trial.phase.rank < next.rank) (t : τ) :
    Records (trial.moveTo next : ExceptT _ (Recorded τ) Trial).run t [trial.transition next]
      (.ok (trial.entered next)) t := by
  have henter : trial.enter next = .ok (trial.entered next) := if_pos hnext
  simp only [moveTo, henter]
  exact Records.bind_ok (Records.lift_ok (Records.log _ t)) (Records.pure_ok _ t)

theorem settle_ok {α : Type} {driven : Driven (Kernel Float32) α} {a : α}
    (hdriven : driven.outcome = .ok a) (t : τ) :
    Records (trial.settle driven : ExceptT _ (Recorded τ) _).run t driven.log
      (.ok ({ trial with kernel := driven.state }, a)) t := by
  simp only [settle, hdriven]
  exact Records.of_lines_eq (Records.bind_ok (Records.forM_log _ t) (Records.pure_ok _ t))
    (List.append_nil _)

theorem settle_error {α : Type} {driven : Driven (Kernel Float32) α} {failure : Failure KernelError}
    (hdriven : driven.outcome = .error failure) (t : τ) :
    Records (trial.settle driven : ExceptT _ (Recorded τ) _).run t driven.log (.error failure) t := by
  simp only [settle, hdriven]
  exact Records.of_lines_eq (Records.bind_ok (Records.forM_log _ t) (Records.throw_error _ t))
    (List.append_nil _)

theorem report_entered (trial : Trial) (kernel : Kernel Float32)
    (measurement : Option Measurement) :
    ({ trial.entered .timing with kernel }.entered .done).report measurement =
      trial.reportThrough (trial.phases ++ [.timing, .done]) measurement := by
  simp only [report, entered, reportThrough, phases, List.append_assoc, List.cons_append,
    List.nil_append]
  rfl

/-- A measurement ends in the outcome that the timer gives it. -/
theorem measure_records (trial : Trial) (hphase : trial.phase.rank < Phase.timing.rank)
    {driven : Driven (Kernel Float32) (Option Measurement)}
    (hdriven : (timer.measure trial.label Kernel.run trial.kernel).run t = (driven, t₁)) :
    ∃ lines, Records (trial.measure timer : ExceptT _ (Recorded τ) _).run t lines
      (driven.outcome.map (trial.reportThrough (trial.phases ++ [.timing, .done]))) t₁ := by
  have hlift := Records.lift (timer.measure trial.label Kernel.run trial.kernel) t
  rw [hdriven] at hlift
  cases houtcome : driven.outcome with
  | error failure =>
      exact ⟨_, Records.bind_ok (moveTo_records hphase t)
        (Records.bind_ok (Records.lift_ok hlift)
          (Records.bind_error (settle_error houtcome t₁)))⟩
  | ok measurement =>
      have hdone : Phase.timing.rank < Phase.done.rank := by decide
      rw [Except.map, ← report_entered trial driven.state measurement]
      exact ⟨_, Records.bind_ok (moveTo_records hphase t)
        (Records.bind_ok (Records.lift_ok hlift)
          (Records.bind_ok (settle_ok houtcome t₁)
            (Records.bind_ok (moveTo_records hdone t₁) (Records.pure_ok _ t₁))))⟩

/-- A trial as it is prepared. -/
structure Fresh (trial : Trial) : Prop where
  earlier_eq : trial.earlier = []
  phase_eq : trial.phase = .building

theorem fresh_of_prepare [Processor] {kind : Kind} {s : Shape} {options : Options}
    (htrial : prepare kind s options = .ok trial) : trial.Fresh := by
  obtain ⟨problem, flops, kernel, -, -, -, rfl⟩ := prepare_eq_ok_iff.mp htrial
  exact ⟨rfl, rfl⟩

/-- A warm-up that goes well leaves the trial in its next phase, with the kernel as the timer left
it. -/
theorem warmUp_records (hfresh : trial.Fresh) {driven : Driven (Kernel Float32) Unit}
    (hdriven : (timer.warmUp Kernel.run trial.kernel).run t = (driven, t₁)) :
    ∃ lines, Records (trial.warmUp timer : ExceptT _ (Recorded τ) _).run t lines
      (driven.outcome.map fun _ => { trial.entered .warmingUp with kernel := driven.state }) t₁ := by
  have hlift := Records.lift (timer.warmUp Kernel.run trial.kernel) t
  rw [hdriven] at hlift
  have hphase : trial.phase.rank < Phase.warmingUp.rank := by
    rw [hfresh.phase_eq]
    decide
  cases houtcome : driven.outcome with
  | error failure =>
      exact ⟨_, Records.bind_ok (moveTo_records hphase t)
        (Records.bind_ok (Records.lift_ok hlift)
          (Records.bind_error (settle_error houtcome t₁)))⟩
  | ok u =>
      exact ⟨_, Records.bind_ok (moveTo_records hphase t)
        (Records.bind_ok (Records.lift_ok hlift)
          (Records.bind_ok (settle_ok houtcome t₁) (Records.pure_ok _ t₁)))⟩

/-- What a timer is asked about a trial, in order, and what comes of it: whether it warms up; if it
does, the warm-up; and unless that fails, the measurement of the kernel as the warm-up left it. -/
inductive Course (timer : Timer (StateM τ)) (trial : Trial) (t : τ) :
    Bool → Attempt KernelError (Option Measurement) → τ → Prop where
  | cold {t₁ t₂ : τ} {measured : Driven (Kernel Float32) (Option Measurement)}
      (hwarms : timer.warmsUp.run t = (false, t₁))
      (hmeasured : (timer.measure trial.label Kernel.run trial.kernel).run t₁ = (measured, t₂)) :
      Course timer trial t false measured.outcome t₂
  | failed {t₁ t₂ : τ} {warmed : Driven (Kernel Float32) Unit} {failure : Failure KernelError}
      (hwarms : timer.warmsUp.run t = (true, t₁))
      (hwarmed : (timer.warmUp Kernel.run trial.kernel).run t₁ = (warmed, t₂))
      (hfailure : warmed.outcome = .error failure) :
      Course timer trial t true (.error failure) t₂
  | warm {t₁ t₂ t₃ : τ} {warmed : Driven (Kernel Float32) Unit}
      {measured : Driven (Kernel Float32) (Option Measurement)}
      (hwarms : timer.warmsUp.run t = (true, t₁))
      (hwarmed : (timer.warmUp Kernel.run trial.kernel).run t₁ = (warmed, t₂))
      (hok : warmed.outcome = .ok ())
      (hmeasured : (timer.measure trial.label Kernel.run warmed.state).run t₂ = (measured, t₃)) :
      Course timer trial t true measured.outcome t₃

theorem exists_course (timer : Timer (StateM τ)) (trial : Trial) (t : τ) :
    ∃ warms outcome t', Course timer trial t warms outcome t' := by
  rcases hwarms : timer.warmsUp.run t with ⟨_ | _, t₁⟩
  · exact ⟨_, _, _, .cold hwarms rfl⟩
  · rcases hwarmed : (timer.warmUp Kernel.run trial.kernel).run t₁ with ⟨warmed, t₂⟩
    cases houtcome : warmed.outcome with
    | error failure => exact ⟨_, _, _, .failed hwarms hwarmed houtcome⟩
    | ok u => exact ⟨_, _, _, .warm hwarms hwarmed houtcome rfl⟩

namespace Course

variable {warms : Bool} {outcome : Attempt KernelError (Option Measurement)}

theorem timed_eq (h : Course timer trial t warms outcome t₁) :
    (trial.timed timer).run t = (outcome.map (trial.reportThrough (Phase.course warms)), t₁) := by
  cases h with
  | cold hwarms hmeasured =>
      rw [timed, run_bind_of_run hwarms]
      simp only [Bool.false_eq_true, if_false, pure_bind]
      exact run_bind_of_run hmeasured
  | failed hwarms hwarmed hfailure =>
      rw [timed, run_bind_of_run hwarms]
      simp only [if_true, run_bind_of_run hwarmed, hfailure]
      rfl
  | warm hwarms hwarmed hok hmeasured =>
      rw [timed, run_bind_of_run hwarms]
      simp only [if_true, run_bind_of_run hwarmed, hok]
      exact run_bind_of_run hmeasured

/-- The execution of a prepared trial follows the course that the timer gives it.  No phase is
entered out of order, so there is no failure but that of the timer. -/
theorem execute_records (h : Course timer trial t warms outcome t₁) (hfresh : trial.Fresh) :
    ∃ lines, Records (trial.execute timer : ExceptT _ (Recorded τ) _).run t lines
      (outcome.map (trial.reportThrough (Phase.course warms))) t₁ := by
  obtain ⟨hearlier, hphase⟩ := hfresh
  have hlift := Records.lift timer.warmsUp t
  cases h with
  | cold hwarms hmeasured =>
      rw [hwarms] at hlift
      have hcourse : Phase.course false = trial.phases ++ [.timing, .done] := by
        rw [phases, hearlier, hphase]
        rfl
      rw [hcourse]
      obtain ⟨lines, hlines⟩ := measure_records trial (by rw [hphase]; decide) hmeasured
      exact ⟨_, Records.bind_ok (Records.lift_ok hlift) hlines⟩
  | failed hwarms hwarmed hfailure =>
      rw [hwarms] at hlift
      obtain ⟨lines, hlines⟩ := warmUp_records ⟨hearlier, hphase⟩ hwarmed
      rw [hfailure] at hlines
      exact ⟨_, Records.bind_ok (Records.lift_ok hlift) (Records.bind_error hlines)⟩
  | @warm _ _ _ warmed _ hwarms hwarmed hok hmeasured =>
      rw [hwarms] at hlift
      obtain ⟨lines, hlines⟩ := warmUp_records ⟨hearlier, hphase⟩ hwarmed
      rw [hok] at hlines
      have hcourse : Phase.course true =
          { trial.entered .warmingUp with kernel := warmed.state }.phases ++ [.timing, .done] := by
        rw [phases, entered, phases, hearlier, hphase]
        rfl
      rw [hcourse]
      have hnext : Phase.warmingUp.rank < Phase.timing.rank := by decide
      obtain ⟨lines', hlines'⟩ := measure_records
        { trial.entered .warmingUp with kernel := warmed.state } hnext hmeasured
      exact ⟨_, Records.bind_ok (Records.lift_ok hlift) (Records.bind_ok hlines hlines')⟩

end Course

/-- What a timer reports of a trial is a report of that trial. -/
theorem timed_report {report : TrialReport}
    (htimed : (trial.timed timer).run t = (.ok report, t₁)) :
    report.kind = trial.kind ∧ report.shape = trial.shape := by
  obtain ⟨warms, outcome, t', hcourse⟩ := exists_course timer trial t
  rw [hcourse.timed_eq] at htimed
  cases outcome with
  | error failure => cases htimed
  | ok measurement =>
      cases htimed
      exact ⟨rfl, rfl⟩

/-- The execution of a prepared trial ends in what the timer makes of it. -/
theorem execute_records (timer : Timer (StateM τ)) (hfresh : trial.Fresh) (t : τ) :
    ∃ lines, Records (trial.execute timer : ExceptT _ (Recorded τ) _).run t lines
      ((trial.timed timer).run t).1 ((trial.timed timer).run t).2 := by
  obtain ⟨warms, outcome, t', hcourse⟩ := exists_course timer trial t
  rw [hcourse.timed_eq]
  exact hcourse.execute_records hfresh

end Trial

end ConvLab
