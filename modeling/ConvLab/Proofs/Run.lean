import ConvLab.Bench.Runner
import ConvLab.Bench.Script
import ConvLab.Proofs.Trial

/-!
# The course of a run

The configurations of a run fall into those that can be prepared and those that cannot.  The timer is
driven on the former, in order, up to the first on which it fails; the latter are passed over.

* `Suite.assess` — what becomes of a configuration when it is prepared;
* `Timer.timeEach` — trials that are timed one after another, up to the first failure;
* `Suite.runConfiguration_good`, `Suite.runConfiguration_bad` — one configuration;
* `Suite.runEach_records` — all of them: the invariant of the run;
* `Suite.runEach_append` — a run over two stretches of configurations;
* `Suite.runConfigurations_course` — the whole run of a suite that asks for no verification.
-/

namespace ConvLab

/-- Trials that are timed one after another: the reports, and the failure of the timer that ended
them, if there was one. -/
def Timer.timeEach {m : Type → Type} [Monad m] (timer : Timer m) :
    List Trial → m (List TrialReport × Option (Failure KernelError))
  | [] => return ([], none)
  | trial :: rest => do
      match ← trial.timed timer with
      | .ok report =>
          let later ← timer.timeEach rest
          return (report :: later.1, later.2)
      | .error failure => return ([], some failure)

namespace Timer

variable {τ : Type} {timer : Timer (StateM τ)} {trial : Trial} {t t₁ : τ}

theorem timeEach_cons_ok {report : TrialReport}
    (htimed : (trial.timed timer).run t = (.ok report, t₁)) (rest : List Trial) :
    (timer.timeEach (trial :: rest)).run t =
      ((report :: ((timer.timeEach rest).run t₁).1.1, ((timer.timeEach rest).run t₁).1.2),
        ((timer.timeEach rest).run t₁).2) := by
  rw [timeEach, run_bind_of_run htimed]
  rfl

theorem timeEach_cons_error {failure : Failure KernelError}
    (htimed : (trial.timed timer).run t = (.error failure, t₁)) (rest : List Trial) :
    (timer.timeEach (trial :: rest)).run t = (([], some failure), t₁) := by
  rw [timeEach, run_bind_of_run htimed]
  rfl

/-- Trials that are timed to the end have one report each, in order. -/
theorem reports_of_timeEach {trials : List Trial} {reports : List TrialReport} {t t' : τ}
    (htimed : (timer.timeEach trials).run t = ((reports, none), t')) :
    reports.map (fun r => (r.kind, r.shape)) = trials.map fun trial => (trial.kind, trial.shape) := by
  induction trials generalizing t reports with
  | nil =>
      cases htimed
      rfl
  | cons trial rest ih =>
      rcases hfirst : (trial.timed timer).run t with ⟨failure | report, t₁⟩
      · rw [timeEach_cons_error hfirst] at htimed
        cases htimed
      · rcases hlater : (timer.timeEach rest).run t₁ with ⟨⟨later, failure⟩, t₂⟩
        rw [timeEach_cons_ok hfirst, hlater] at htimed
        cases htimed
        obtain ⟨hkind, hshape⟩ := Trial.timed_report hfirst
        rw [List.map_cons, List.map_cons, ih hlater, hkind, hshape]

/-- A failure of the timer comes from one trial, and all trials before it were timed. -/
theorem exists_of_timeEach_failure {trials : List Trial} {reports : List TrialReport}
    {failure : Failure KernelError} {t t' : τ}
    (htimed : (timer.timeEach trials).run t = ((reports, some failure), t')) :
    ∃ before trial after t₁, trials = before ++ trial :: after ∧
      (timer.timeEach before).run t = ((reports, none), t₁) ∧
      (trial.timed timer).run t₁ = (.error failure, t') := by
  induction trials generalizing t reports with
  | nil => cases htimed
  | cons trial rest ih =>
      rcases hfirst : (trial.timed timer).run t with ⟨e | report, t₁⟩
      · rw [timeEach_cons_error hfirst] at htimed
        cases htimed
        exact ⟨[], trial, rest, t, rfl, rfl, hfirst⟩
      · rcases hlater : (timer.timeEach rest).run t₁ with ⟨⟨later, end?⟩, t₂⟩
        rw [timeEach_cons_ok hfirst, hlater] at htimed
        cases htimed
        obtain ⟨before, last, after, t₃, rfl, hbefore, hlast⟩ := ih hlater
        refine ⟨trial :: before, last, after, t₃, rfl, ?_, hlast⟩
        rw [timeEach_cons_ok hfirst, hbefore]

theorem timeEach_append_failure {before : List Trial} {reports : List TrialReport}
    {failure : Failure KernelError} {t t' : τ}
    (hbefore : (timer.timeEach before).run t = ((reports, none), t₁))
    (hlast : (trial.timed timer).run t₁ = (.error failure, t')) (after : List Trial) :
    (timer.timeEach (before ++ trial :: after)).run t = ((reports, some failure), t') := by
  induction before generalizing t reports with
  | nil =>
      cases hbefore
      exact timeEach_cons_error hlast after
  | cons first rest ih =>
      rcases hfirst : (first.timed timer).run t with ⟨e | report, t₂⟩
      · rw [timeEach_cons_error hfirst] at hbefore
        cases hbefore
      · rcases hlater : (timer.timeEach rest).run t₂ with ⟨⟨later, end?⟩, t₃⟩
        rw [timeEach_cons_ok hfirst, hlater] at hbefore
        cases hbefore
        rw [List.cons_append, timeEach_cons_ok hfirst, ih hlater]

end Timer

/-- How a configuration ends that was timed. -/
def Ending.ofTimed : Attempt KernelError TrialReport → Ending
  | .ok report => .timed report
  | .error failure => .aborted (failure.map .kernel)

namespace Suite

section Course

variable [Processor]

/-! ### One configuration -/

/-- What becomes of a configuration when it is prepared. -/
def assess (options : Options) (c : Kind × Entry) : Attempt KernelError Trial := do
  let shape ← (Attempt.ofExcept c.2.toShape).onShape
  Trial.prepare c.1 shape options

def isGood (options : Options) (c : Kind × Entry) : Bool := (assess options c).isOk

def trial? (options : Options) (c : Kind × Entry) : Option Trial := (assess options c).toOption

def skipped? (options : Options) (c : Kind × Entry) : Option Skipped :=
  match assess options c with
  | .error (.error e) => some ⟨c.1, c.2, e.message⟩
  | _ => none

variable {options : Options} {c : Kind × Entry} {trial : Trial}

theorem isGood_of_ok (htrial : assess options c = .ok trial) : isGood options c = true := by
  rw [isGood, htrial]
  rfl

theorem isGood_of_error {failure : Failure KernelError} (h : assess options c = .error failure) :
    isGood options c = false := by
  rw [isGood, h]
  rfl

theorem assess_eq_ok_of_trial? (htrial : trial? options c = some trial) :
    assess options c = .ok trial := by
  cases hassess : assess options c with
  | error failure => simp [trial?, hassess, Except.toOption] at htrial
  | ok trial => simpa [trial?, hassess, Except.toOption] using htrial

theorem assess_eq_ok (htrial : assess options c = .ok trial) :
    trial.Fresh ∧ trial.kind = c.1 ∧ c.2.toShape = .ok trial.shape := by
  simp only [assess, bind_eq_ok_iff, Attempt.onShape, Attempt.mapError_eq_ok_iff,
    Attempt.ofExcept_eq_ok_iff] at htrial
  obtain ⟨shape, hshape, hprepare⟩ := htrial
  refine ⟨Trial.fresh_of_prepare hprepare, ?_⟩
  obtain ⟨problem, flops, kernel, -, -, -, rfl⟩ := Trial.prepare_eq_ok_iff.mp hprepare
  exact ⟨rfl, hshape⟩

theorem isRecoverable_of_assess {e : KernelError} (he : assess options c = .error (.error e)) :
    e.isRecoverable = true := by
  simp only [assess, bind_eq_error_iff, Attempt.onShape, Attempt.mapError_eq_error_iff] at he
  rcases he with ⟨cause, -, rfl⟩ | ⟨shape, -, hprepare⟩
  · rfl
  · exact Trial.isRecoverable_of_prepare hprepare

/-- No shape that a configuration asks for is too large to be built or to be counted. -/
def Untrapped (options : Options) (configurations : List (Kind × Entry)) : Prop :=
  ∀ c ∈ configurations, ∀ shape, c.2.toShape = .ok shape → shape.Untrapped options

theorem Untrapped.assess_ne_trap {configurations : List (Kind × Entry)}
    (h : Untrapped options configurations) (hc : c ∈ configurations) (trap : Trap) :
    assess options c ≠ .error (.trap trap) := by
  intro htrap
  simp only [assess, bind_eq_error_iff, Attempt.onShape, Attempt.mapError_eq_trap_iff,
    Attempt.ofExcept_ne_trap, Attempt.mapError_eq_ok_iff, Attempt.ofExcept_eq_ok_iff,
    false_or] at htrap
  obtain ⟨shape, hshape, hprepare⟩ := htrap
  exact Trial.prepare_ne_trap (h c hc shape hshape) trap hprepare

variable {τ : Type} {timer : Timer (StateM τ)} {t t₁ : τ}

theorem prepare_records (options : Options) (c : Kind × Entry) (t : τ) :
    ∃ lines, Records (prepare options c.1 c.2 : Recorded τ _) t lines (assess options c) t := by
  cases hshape : c.2.toShape with
  | error cause =>
      simp only [prepare, assess, hshape]
      exact ⟨_, Records.pure _ t⟩
  | ok shape =>
      simp only [prepare, assess, hshape]
      exact ⟨_, Records.bind (Records.log _ t) (Records.pure _ t)⟩

/-- A configuration that can be prepared is timed, and the timer decides how it ends. -/
theorem runConfiguration_good (htrial : assess options c = .ok trial)
    {outcome : Attempt KernelError TrialReport}
    (htimed : (trial.timed timer).run t = (outcome, t₁)) :
    ∃ lines, Records (runConfiguration timer options c.1 c.2 : Recorded τ _) t lines
      (Ending.ofTimed outcome) t₁ := by
  obtain ⟨lines, hprepare⟩ := prepare_records options c t
  obtain ⟨lines', hexecute⟩ := Trial.execute_records timer (assess_eq_ok htrial).1 t
  rw [htrial] at hprepare
  rw [htimed] at hexecute
  rcases outcome with (trap | e) | report
  · exact ⟨_, Records.bind hprepare (Records.bind hexecute (Records.pure _ t₁))⟩
  · exact ⟨_, Records.bind hprepare (Records.bind hexecute
      (Records.bind (Records.log _ t₁) (Records.pure _ t₁)))⟩
  · exact ⟨_, Records.bind hprepare (Records.bind hexecute
      (Records.bind (Records.log _ t₁) (Records.pure _ t₁)))⟩

/-- A configuration that cannot be prepared is passed over, and the timer is left alone. -/
theorem runConfiguration_bad {e : KernelError} (he : assess options c = .error (.error e))
    (timer : Timer (StateM τ)) (t : τ) :
    ∃ lines, Records (runConfiguration timer options c.1 c.2 : Recorded τ _) t lines
      (.skipped ⟨c.1, c.2, e.message⟩) t := by
  obtain ⟨lines, hprepare⟩ := prepare_records options c t
  rw [he] at hprepare
  have hskip : ∃ lines, Records (skipOrAbort c.1 c.2 e : Recorded τ _) t lines
      (.skipped ⟨c.1, c.2, e.message⟩) t := by
    simp only [skipOrAbort, isRecoverable_of_assess he, if_true]
    exact ⟨_, Records.bind (Records.log _ t) (Records.pure _ t)⟩
  obtain ⟨lines', hskip⟩ := hskip
  exact ⟨_, Records.bind hprepare hskip⟩

/-! ### All configurations -/

def skippedOf (options : Options) (configurations : List (Kind × Entry)) : List Skipped :=
  configurations.filterMap (skipped? options)

def trialsOf (options : Options) (configurations : List (Kind × Entry)) : List Trial :=
  configurations.filterMap (trial? options)

theorem trialsOf_cons_good (htrial : assess options c = .ok trial)
    (configurations : List (Kind × Entry)) :
    trialsOf options (c :: configurations) = trial :: trialsOf options configurations ∧
      skippedOf options (c :: configurations) = skippedOf options configurations := by
  simp [trialsOf, skippedOf, trial?, skipped?, htrial, Except.toOption]

theorem trialsOf_cons_bad {e : KernelError} (he : assess options c = .error (.error e))
    (configurations : List (Kind × Entry)) :
    trialsOf options (c :: configurations) = trialsOf options configurations ∧
      skippedOf options (c :: configurations) =
        ⟨c.1, c.2, e.message⟩ :: skippedOf options configurations := by
  simp [trialsOf, skippedOf, trial?, skipped?, he, Except.toOption]

/-- The answer of a run that has timed its trials: what it has produced, or the failure of the
timer. -/
def answer (summary : Summary) (skipped : List Skipped)
    (timed : List TrialReport × Option (Failure KernelError)) : Attempt BenchError Summary :=
  match timed.2 with
  | none => .ok { summary with
      reports := summary.reports ++ timed.1, skipped := summary.skipped ++ skipped }
  | some failure => .error (failure.map .kernel)

omit [Processor] in
theorem answer_addReport (summary : Summary) (report : TrialReport) (skipped : List Skipped)
    (timed : List TrialReport × Option (Failure KernelError)) :
    answer (summary.addReport report) skipped timed =
      answer summary skipped (report :: timed.1, timed.2) := by
  rcases timed with ⟨reports, _ | failure⟩
  · simp [answer, Summary.addReport]
  · rfl

omit [Processor] in
theorem answer_addSkipped (summary : Summary) (passed : Skipped) (skipped : List Skipped)
    (timed : List TrialReport × Option (Failure KernelError)) :
    answer (summary.addSkipped passed) skipped timed =
      answer summary (passed :: skipped) timed := by
  rcases timed with ⟨reports, _ | failure⟩
  · simp [answer, Summary.addSkipped]
  · rfl

/-- A run drives the timer on the trials of its configurations and on nothing else.  Neither what it
does to the timer nor what it logs depends on what it has produced before. -/
theorem runEach_records (timer : Timer (StateM τ)) {configurations : List (Kind × Entry)}
    (huntrapped : Untrapped options configurations) (t : τ) :
    ∃ lines, ∀ summary, Records (runEach timer options configurations summary : Recorded τ _) t
      lines
      (answer summary (skippedOf options configurations)
        ((timer.timeEach (trialsOf options configurations)).run t).1)
      ((timer.timeEach (trialsOf options configurations)).run t).2 := by
  induction configurations generalizing t with
  | nil =>
      refine ⟨[], ?_⟩
      intro summary
      have hanswer : answer summary [] ([], none) = .ok summary := by
        simp [answer]
      show Records (pure (Except.ok summary)) t [] (answer summary [] ([], none)) t
      rw [hanswer]
      exact Records.pure _ t
  | cons c rest ih =>
      have hrest : Untrapped options rest := by
        intro c' hc'
        exact huntrapped c' (List.mem_cons_of_mem c hc')
      rcases hassess : assess options c with (trap | e) | trial
      · exact absurd hassess (huntrapped.assess_ne_trap List.mem_cons_self trap)
      · -- the configuration is passed over
        obtain ⟨htrials, hskipped⟩ := trialsOf_cons_bad hassess rest
        obtain ⟨lines, hfirst⟩ := runConfiguration_bad hassess timer t
        obtain ⟨lines', hlater⟩ := ih hrest t
        refine ⟨lines ++ lines', ?_⟩
        intro summary
        rw [htrials, hskipped, ← answer_addSkipped]
        exact Records.bind hfirst (hlater _)
      · obtain ⟨htrials, hskipped⟩ := trialsOf_cons_good hassess rest
        rcases htimed : (trial.timed timer).run t with ⟨failure | report, t₁⟩
        · -- the timer fails, and the rest is not looked at
          obtain ⟨lines, hfirst⟩ := runConfiguration_good hassess htimed
          refine ⟨lines ++ [], ?_⟩
          intro summary
          rw [htrials, hskipped, Timer.timeEach_cons_error htimed]
          exact Records.bind hfirst (Records.pure _ t₁)
        · obtain ⟨lines, hfirst⟩ := runConfiguration_good hassess htimed
          obtain ⟨lines', hlater⟩ := ih hrest t₁
          refine ⟨lines ++ lines', ?_⟩
          intro summary
          rw [htrials, hskipped, Timer.timeEach_cons_ok htimed, ← answer_addReport]
          exact Records.bind hfirst (hlater _)

/-- The run over two stretches of configurations: the second is run if nothing ends the first. -/
theorem runEach_append (timer : Timer (StateM τ)) (options : Options)
    (before after : List (Kind × Entry)) (summary : Summary) :
    (runEach timer options (before ++ after) summary : Recorded τ _) =
      (ExceptT.mk (runEach timer options before summary) >>= fun summary =>
        ExceptT.mk (runEach timer options after summary)).run := by
  induction before generalizing summary with
  | nil => rfl
  | cons c rest ih =>
      rw [List.cons_append, ExceptT.run_bind]
      simp only [runEach, ExceptT.run_mk, bind_assoc]
      congr 1
      funext ending
      cases ending with
      | timed report => exact (ih (summary.addReport report)).trans (ExceptT.run_bind _ _)
      | skipped skipped => exact (ih (summary.addSkipped skipped)).trans (ExceptT.run_bind _ _)
      | aborted failure => rfl

theorem runEach_append_of_error {before : List (Kind × Entry)} {summary : Summary}
    {lines : List LogLine} {failure : Failure BenchError}
    (hbefore : Records (runEach timer options before summary : Recorded τ _) t lines
      (.error failure) t₁) (after : List (Kind × Entry)) :
    Records (runEach timer options (before ++ after) summary : Recorded τ _) t lines
      (.error failure) t₁ := by
  rw [runEach_append]
  exact Records.bind_error hbefore

/-! ### The whole run -/

/-- What a run has produced that timed all of its trials: a report for each configuration that can
be prepared and a note on each of the others, both in order. -/
structure Complete (options : Options) (configurations : List (Kind × Entry))
    (reports : List TrialReport) (summary : Summary) : Prop where
  reports_eq : summary.reports = reports
  timed_eq : summary.reports.map (fun r => (r.kind, Except.ok r.shape)) =
    (configurations.filter (isGood options)).map fun c => (c.1, c.2.toShape)
  skipped_eq : summary.skipped.map (fun k => (k.kind, k.entry)) =
    configurations.filter fun c => !isGood options c

/-- The timer fails on the trial of the configuration, and on none of those visited before. -/
def FailsAt (timer : Timer (StateM τ)) (options : Options) (visited : List (Kind × Entry))
    (last : Kind × Entry) (t t' : τ) (failure : Failure KernelError) : Prop :=
  ∃ trial reports t₁, assess options last = .ok trial ∧
    (timer.timeEach (trialsOf options visited)).run t = ((reports, none), t₁) ∧
    (trial.timed timer).run t₁ = (.error failure, t')

/-- A failure of the timer on the trials is its failure at one of the configurations. -/
theorem exists_failsAt {configurations : List (Kind × Entry)} {reports : List TrialReport}
    {failure : Failure KernelError} {t t' : τ}
    (htimed : (timer.timeEach (trialsOf options configurations)).run t =
      ((reports, some failure), t')) :
    ∃ visited last rest, configurations = visited ++ last :: rest ∧
      FailsAt timer options visited last t t' failure := by
  obtain ⟨before, trial, after, t₁, htrials, hbefore, hlast⟩ :=
    Timer.exists_of_timeEach_failure htimed
  obtain ⟨front, back, rfl, hfront, hback⟩ := List.filterMap_eq_append_iff.mp htrials
  obtain ⟨bad, last, rest, rfl, hbad, htrial, -⟩ := List.filterMap_eq_cons_iff.mp hback
  refine ⟨front ++ bad, last, rest, by simp, trial, reports, t₁, ?_, ?_, hlast⟩
  · exact assess_eq_ok_of_trial? htrial
  · have hvisited : trialsOf options (front ++ bad) = before := by
      rw [trialsOf, List.filterMap_append, hfront, List.filterMap_eq_nil_iff.mpr hbad,
        List.append_nil]
    rw [hvisited]
    exact hbefore

omit [Processor] in
theorem Untrapped.mono {configurations configurations' : List (Kind × Entry)}
    (h : Untrapped options configurations) (hsub : configurations' ⊆ configurations) :
    Untrapped options configurations' := by
  intro c hc
  exact h c (hsub hc)

/-- Where the timer fails the run ends, and what comes after is neither prepared nor timed: the
answer, the log and the timer are the same whatever it is. -/
theorem runEach_of_failsAt {visited : List (Kind × Entry)} {last : Kind × Entry} {t t' : τ}
    {failure : Failure KernelError} (hfails : FailsAt timer options visited last t t' failure)
    (huntrapped : Untrapped options (visited ++ [last])) :
    ∃ lines, ∀ rest summary,
      Records (runEach timer options (visited ++ last :: rest) summary : Recorded τ _) t lines
        (.error (failure.map .kernel)) t' := by
  obtain ⟨trial, reports, t₁, htrial, hvisited, hlast⟩ := hfails
  have htrials : trialsOf options (visited ++ [last]) = trialsOf options visited ++ [trial] := by
    rw [trialsOf, List.filterMap_append]
    exact congrArg _ (trialsOf_cons_good htrial []).1
  obtain ⟨lines, hrun⟩ := runEach_records timer huntrapped t
  rw [htrials, Timer.timeEach_append_failure hvisited hlast []] at hrun
  refine ⟨lines, ?_⟩
  intro rest summary
  have hstretch : visited ++ last :: rest = visited ++ [last] ++ rest := by simp
  rw [hstretch]
  exact runEach_append_of_error (hrun summary) rest

theorem timed_of_trialsOf (options : Options) (configurations : List (Kind × Entry)) :
    (trialsOf options configurations).map (fun trial => (trial.kind, Except.ok trial.shape)) =
      (configurations.filter (isGood options)).map fun c => (c.1, c.2.toShape) := by
  induction configurations with
  | nil => rfl
  | cons c rest ih =>
      cases hassess : assess options c with
      | error failure =>
          have hgood := isGood_of_error hassess
          have htrial : trial? options c = none := by rw [trial?, hassess]; rfl
          rw [trialsOf, List.filterMap_cons_none htrial, List.filter_cons_of_neg (by simp [hgood])]
          exact ih
      | ok trial =>
          have hgood := isGood_of_ok hassess
          obtain ⟨-, hkind, hshape⟩ := assess_eq_ok hassess
          rw [(trialsOf_cons_good hassess rest).1, List.filter_cons_of_pos hgood, List.map_cons,
            List.map_cons, ih, hkind, hshape]

theorem entries_of_skippedOf {configurations : List (Kind × Entry)}
    (huntrapped : Untrapped options configurations) :
    (skippedOf options configurations).map (fun k => (k.kind, k.entry)) =
      configurations.filter fun c => !isGood options c := by
  induction configurations with
  | nil => rfl
  | cons c rest ih =>
      have ih := ih (huntrapped.mono (List.subset_cons_self c rest))
      rcases hassess : assess options c with (trap | e) | trial
      · exact absurd hassess (huntrapped.assess_ne_trap List.mem_cons_self trap)
      · have hgood := isGood_of_error hassess
        rw [(trialsOf_cons_bad hassess rest).2, List.filter_cons_of_pos (by simp [hgood]),
          List.map_cons, ih]
      · have hgood := isGood_of_ok hassess
        rw [(trialsOf_cons_good hassess rest).2, List.filter_cons_of_neg (by simp [hgood]), ih]

/-- A run that times all of its trials completes. -/
theorem complete_answer {configurations : List (Kind × Entry)} {reports : List TrialReport}
    {t t' : τ} (huntrapped : Untrapped options configurations)
    (htimed : (timer.timeEach (trialsOf options configurations)).run t = ((reports, none), t'))
    (disagreements : List BenchError) :
    ∃ summary, answer { disagreements } (skippedOf options configurations) (reports, none) =
        .ok summary ∧
      Complete options configurations reports summary ∧
      summary.disagreements = disagreements := by
  refine ⟨_, rfl, ⟨rfl, ?_, entries_of_skippedOf huntrapped⟩, rfl⟩
  have hreports := congrArg
    (List.map fun p : Kind × Shape => (p.1, (Except.ok p.2 : Except ShapeError Shape)))
    (Timer.reports_of_timeEach htimed)
  rw [List.map_map, List.map_map] at hreports
  exact hreports.trans (timed_of_trialsOf options configurations)

variable {s : Suite} {kinds : List Kind}

/-- A run verifies first and then goes through its configurations. -/
theorem runConfigurations_records {lines lines' : List LogLine} {disagreements : List BenchError}
    {a : Attempt BenchError Summary}
    (hverified : Records (s.verifyShapes kinds : Recorded τ _) t lines (.ok disagreements) t)
    (hrun : Records (runEach timer s.options (s.configurations kinds) { disagreements } :
      Recorded τ _) t lines' a t₁) :
    Records (s.runConfigurations kinds timer : Recorded τ _) t (lines ++ lines') a t₁ :=
  Records.bind hverified hrun

theorem verifyShapes_unverified (hverify : s.verify = false) (kinds : List Kind) (t : τ) :
    Records (s.verifyShapes kinds : Recorded τ _) t [] (.ok []) t := by
  simp only [verifyShapes, hverify, Bool.false_eq_true, if_false]
  exact Records.pure _ t

/-- The course of a run without verification.  The timer is driven on the configurations that can be
prepared, in order, up to the first on which it fails.  If it fails on none, every configuration is
reported or noted as passed over, each in its order; if it fails, its failure is the answer, and the
configurations after that are neither prepared nor timed. -/
theorem runConfigurations_course {s : Suite} (hverify : s.verify = false) (kinds : List Kind)
    (huntrapped : Untrapped s.options (s.configurations kinds)) {τ : Type}
    (timer : Timer (StateM τ)) (session : Session) (t : τ) :
    (∀ reports t',
      (timer.timeEach (trialsOf s.options (s.configurations kinds))).run t =
          ((reports, none), t') →
        ∃ summary session',
          ((s.runConfigurations kinds timer : Recorded τ _).run session).run t =
            ((.ok summary, session'), t') ∧
          Complete s.options (s.configurations kinds) reports summary) ∧
      ∀ reports failure t',
        (timer.timeEach (trialsOf s.options (s.configurations kinds))).run t =
            ((reports, some failure), t') →
          ∃ session',
            ((s.runConfigurations kinds timer : Recorded τ _).run session).run t =
              ((.error (failure.map .kernel), session'), t') ∧
            ∃ visited last rest, s.configurations kinds = visited ++ last :: rest ∧
              FailsAt timer s.options visited last t t' failure ∧
              ∀ rest', ((runEach timer s.options (visited ++ last :: rest') {} :
                Recorded τ _).run session).run t =
                  ((.error (failure.map .kernel), session'), t') := by
  have hverified := verifyShapes_unverified hverify kinds t
  constructor
  · intro reports t' htimed
    obtain ⟨lines, hrun⟩ := runEach_records timer huntrapped t
    obtain ⟨summary, hsummary, hcomplete, -⟩ := complete_answer huntrapped htimed []
    have hrun := hrun {}
    rw [htimed, hsummary] at hrun
    exact ⟨summary, _, runConfigurations_records hverified hrun session, hcomplete⟩
  · intro reports failure t' htimed
    obtain ⟨visited, last, rest, hsplit, hfails⟩ := exists_failsAt htimed
    have hvisited : Untrapped s.options (visited ++ [last]) := by
      apply huntrapped.mono
      rw [hsplit]
      simp
    obtain ⟨lines, hrun⟩ := runEach_of_failsAt hfails hvisited
    refine ⟨session.logged lines, ?_, visited, last, rest, hsplit, hfails, ?_⟩
    · have hrun := hrun rest {}
      rw [← hsplit] at hrun
      exact runConfigurations_records hverified hrun session
    · intro rest'
      exact hrun rest' {} session

end Course

def plainEntry : Entry := ⟨1, 2, 1, 1, 1, 0, 1⟩

/-- An entry that only the reference takes. -/
def paddedEntry : Entry := ⟨1, 2, 1, 1, 1, 1, 1⟩

/-- An entry that gives no shape. -/
def negativeEntry : Entry := ⟨1, 2, 1, 1, 1, -1, 1⟩

/-- A suite with entries of each sort. -/
def mixed : Suite where
  name := "mixed"
  description := ""
  warmUps := 0
  executions := 1
  verify := false
  options := {}
  kernels := [
    { kernel := .reference, shapes := [negativeEntry, plainEntry] },
    { kernel := .candidate, shapes := [paddedEntry, plainEntry] }]

theorem untrapped_mixed :
    Untrapped mixed.options (mixed.configurations [.reference, .candidate]) := by
  have hplain : plainEntry.toShape = .ok ⟨1, 2, 1, 1, 1, 0, 1⟩ := rfl
  have hpadded : paddedEntry.toShape = .ok ⟨1, 2, 1, 1, 1, 1, 1⟩ := rfl
  have hnegative : negativeEntry.toShape = .error (.outOfRange "padding" (-1)) := rfl
  intro c hc shape hshape
  have hentry : c.2 = negativeEntry ∨ c.2 = plainEntry ∨ c.2 = paddedEntry := by
    have hmem : c ∈ [(Kind.reference, negativeEntry), (.reference, plainEntry),
      (.candidate, paddedEntry), (.candidate, plainEntry)] := hc
    simp only [List.mem_cons, List.not_mem_nil, or_false] at hmem
    rcases hmem with rfl | rfl | rfl | rfl <;> simp
  rcases hentry with hentry | hentry | hentry <;> rw [hentry] at hshape
  · cases hnegative.symm.trans hshape
  · cases hplain.symm.trans hshape
    exact Shape.untrapped_of_roomy ⟨by decide, by decide, by decide⟩ rfl
  · cases hpadded.symm.trans hshape
    exact Shape.untrapped_of_roomy ⟨by decide, by decide, by decide⟩ rfl

/-- The timer whose first call fails. -/
def failing : Timer (StateM Rehearsal) :=
  Script.timer ⟨false, 0, 1, none, some (1, .fault "scripted" "stopped")⟩

section

attribute [local instance] Processor.vector

theorem runConfigurations_course_mixed :
    (∃ summary session' t', ((mixed.runConfigurations [.reference, .candidate]
        (Timer.withheld 0 : Timer (StateM Unit)) : Recorded Unit _).run {}).run () =
          ((.ok summary, session'), t') ∧
        summary.reports.map (·.kind) = [.reference, .candidate] ∧
        summary.skipped.map (·.entry) = [negativeEntry, paddedEntry]) ∧
      ∃ session' t', ((mixed.runConfigurations [.reference, .candidate] failing :
        Recorded Rehearsal _).run {}).run {} =
          ((.error (.error (.kernel (.fault "scripted" "stopped"))), session'), t') := by
  constructor
  · obtain ⟨summary, session', hrun, hcomplete⟩ :=
      (runConfigurations_course rfl [.reference, .candidate] untrapped_mixed
        (Timer.withheld 0 : Timer (StateM Unit)) {} ()).1 _ _ rfl
    have hreports := congrArg (List.map Prod.fst) hcomplete.timed_eq
    have hskipped := congrArg (List.map Prod.snd) hcomplete.skipped_eq
    rw [List.map_map] at hreports hskipped
    exact ⟨summary, session', _, hrun, hreports, hskipped⟩
  · obtain ⟨session', hrun, -⟩ :=
      (runConfigurations_course rfl [.reference, .candidate] untrapped_mixed failing {} {}).2 _ _ _ rfl
    exact ⟨session', _, hrun⟩

end

end Suite

end ConvLab
