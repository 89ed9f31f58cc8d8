import ConvLab.Proofs.Entry
import ConvLab.Proofs.Verification

/-!
# What a whole run covers

A suite may register a kernel several times, with other kernels in between.  The whole run goes
through the kernels in the order of their first registration and through the shapes of each in the
order of all its registrations, so every registered configuration is handled once for each time that
it is registered.

* `Answers` — what a program answers, in whatever world it runs;
* `LogsOnly` — worlds with nothing but log lines between them;
* `Trial.execute_answers`, `Suite.runConfiguration_answers` — a trial reports its own configuration;
* `Suite.Handles` — configurations that are handled one after another, from world to world;
* `Suite.handles_of_runEach` — the invariant of the run;
* `Suite.registered`, `Suite.perm_configurations_kinds` — the registered configurations, and their
  grouping by kernel;
* `Suite.verifyShapes_logsOnly`, `Suite.stages_of_runAndReport` — what lies before and behind the
  configurations;
* `Suite.runAll_covers` — the whole run.
-/

namespace ConvLab

/-! ### Programs in any world -/

section World

variable {ω α β ε : Type}

theorem exists_of_run_bind {x : StateM ω α} {f : α → StateM ω β} {w w' : ω} {b : β}
    (hrun : (x >>= f).run w = (b, w')) :
    ∃ a w₁, x.run w = (a, w₁) ∧ (f a).run w₁ = (b, w') :=
  ⟨_, _, rfl, hrun⟩

/-- Whatever the world, the answer of the program satisfies `P`. -/
def Answers (x : StateM ω α) (P : α → Prop) : Prop := ∀ w, P (x.run w).1

/-- Whatever the world, if the program succeeds then its answer satisfies `P`. -/
def Yields (x : ExceptT ε (StateM ω) α) (P : α → Prop) : Prop :=
  Answers x.run fun r => ∀ a, r = .ok a → P a

theorem Answers.of_run {x : StateM ω α} {P : α → Prop} {w w' : ω} {a : α} (hx : Answers x P)
    (hrun : x.run w = (a, w')) : P a := by
  have hanswer := hx w
  rw [hrun] at hanswer
  exact hanswer

theorem Answers.anything (x : StateM ω α) : Answers x fun _ => True := by
  intro w
  trivial

theorem Answers.pure {P : α → Prop} {a : α} (ha : P a) : Answers (Pure.pure a : StateM ω α) P := by
  intro w
  exact ha

theorem Answers.bind {x : StateM ω α} {f : α → StateM ω β} {P : α → Prop} {Q : β → Prop}
    (hx : Answers x P) (hf : ∀ a, P a → Answers (f a) Q) : Answers (x >>= f) Q := by
  intro w
  exact hf _ (hx w) _

theorem Yields.pure {P : α → Prop} {a : α} (ha : P a) :
    Yields (Pure.pure a : ExceptT ε (StateM ω) α) P := by
  intro w b hb
  cases hb
  exact ha

theorem Yields.throw (e : ε) (P : α → Prop) :
    Yields (throw e : ExceptT ε (StateM ω) α) P := by
  intro w a ha
  cases ha

theorem Yields.anything (x : ExceptT ε (StateM ω) α) : Yields x fun _ => True := by
  intro w a _
  trivial

theorem Yields.bind {x : ExceptT ε (StateM ω) α} {f : α → ExceptT ε (StateM ω) β}
    {P : α → Prop} {Q : β → Prop} (hx : Yields x P) (hf : ∀ a, P a → Yields (f a) Q) :
    Yields (x >>= f) Q := by
  rw [Yields, ExceptT.run_bind]
  refine Answers.bind hx ?_
  intro r hr
  cases r with
  | error e =>
      refine Answers.pure ?_
      intro b hb
      cases hb
  | ok a => exact hf a (hr a rfl)

/-- The second world is the first one with lines added to its log. -/
def LogsOnly [Host (StateM ω)] (w w' : ω) : Prop :=
  ∃ lines : List LogLine, (lines.forM Host.log : StateM ω Unit).run w = ((), w')

namespace LogsOnly

variable [Host (StateM ω)] {w w₁ w' : ω}

theorem refl (w : ω) : LogsOnly w w := ⟨[], rfl⟩

theorem log {line : LogLine} {u : Unit}
    (hline : (Host.log line : StateM ω Unit).run w = (u, w₁)) (hlater : LogsOnly w₁ w') :
    LogsOnly w w' := by
  obtain ⟨lines, hlines⟩ := hlater
  exact ⟨line :: lines, (run_bind_of_run hline).trans hlines⟩

end LogsOnly

end World

/-! ### One configuration -/

def TrialReport.configuration (r : TrialReport) : Kind × Entry := (r.kind, Entry.ofShape r.shape)

def Skipped.configuration (k : Skipped) : Kind × Entry := (k.kind, k.entry)

namespace Ending

/-- The report of a configuration that was timed. -/
def report? : Ending → Option TrialReport
  | .timed report => some report
  | _ => none

/-- The note on a configuration that was passed over. -/
def skipped? : Ending → Option Skipped
  | .skipped note => some note
  | _ => none

/-- The configuration that was handled, unless it was aborted. -/
def configuration? : Ending → Option (Kind × Entry)
  | .timed report => some report.configuration
  | .skipped note => some note.configuration
  | .aborted _ => none

end Ending

section Handling

variable {ω : Type} [Host (StateM ω)]

namespace Trial

theorem moveTo_answers (t : Trial) (next : Phase) :
    Yields (t.moveTo next : ExceptT _ (StateM ω) Trial)
      fun t' => t'.kind = t.kind ∧ t'.shape = t.shape := by
  simp only [moveTo, enter]
  by_cases hrank : t.phase.rank < next.rank
  · simp only [hrank, if_true]
    exact Yields.bind (Yields.anything _) fun _ _ => Yields.pure ⟨rfl, rfl⟩
  · simp only [hrank, if_false]
    exact Yields.throw _ _

theorem settle_answers {α : Type} (t : Trial) (driven : Driven (Kernel Float32) α) :
    Yields (t.settle driven : ExceptT _ (StateM ω) _)
      fun r => r.1.kind = t.kind ∧ r.1.shape = t.shape := by
  refine Yields.bind (Yields.anything _) ?_
  intro _ _
  cases driven.outcome with
  | ok a => exact Yields.pure ⟨rfl, rfl⟩
  | error failure => exact Yields.throw _ _

theorem warmUp_answers (timer : Timer (StateM ω)) (t : Trial) :
    Yields (t.warmUp timer : ExceptT _ (StateM ω) Trial)
      fun t' => t'.kind = t.kind ∧ t'.shape = t.shape := by
  refine Yields.bind (moveTo_answers t .warmingUp) ?_
  intro t₁ h₁
  refine Yields.bind (Yields.anything _) ?_
  intro driven _
  refine Yields.bind (settle_answers t₁ driven) ?_
  intro r h₂
  exact Yields.pure ⟨h₂.1.trans h₁.1, h₂.2.trans h₁.2⟩

theorem measure_answers (timer : Timer (StateM ω)) (t : Trial) :
    Yields (t.measure timer : ExceptT _ (StateM ω) TrialReport)
      fun r => r.kind = t.kind ∧ r.shape = t.shape := by
  refine Yields.bind (moveTo_answers t .timing) ?_
  intro t₁ h₁
  refine Yields.bind (Yields.anything _) ?_
  intro driven _
  refine Yields.bind (settle_answers t₁ driven) ?_
  intro r h₂
  refine Yields.bind (moveTo_answers r.1 .done) ?_
  intro t₃ h₃
  exact Yields.pure ⟨h₃.1.trans (h₂.1.trans h₁.1), h₃.2.trans (h₂.2.trans h₁.2)⟩

/-- A trial that is executed to its end reports on its own kernel and shape. -/
theorem execute_answers (timer : Timer (StateM ω)) (t : Trial) :
    Yields (t.execute timer : ExceptT _ (StateM ω) TrialReport)
      fun r => r.kind = t.kind ∧ r.shape = t.shape := by
  refine Yields.bind (Yields.anything _) ?_
  intro warms _
  cases warms with
  | false => exact measure_answers timer t
  | true =>
      refine Yields.bind (warmUp_answers timer t) ?_
      intro t₁ h₁ w r hr
      have h₂ := measure_answers timer t₁ w r hr
      exact ⟨h₂.1.trans h₁.1, h₂.2.trans h₁.2⟩

end Trial

namespace Suite

variable [Processor]

theorem prepare_answers (options : Options) (c : Kind × Entry) :
    Answers (prepare options c.1 c.2 : StateM ω _) fun prepared => prepared = assess options c := by
  rw [prepare, assess]
  cases c.2.toShape with
  | error cause => exact Answers.pure rfl
  | ok shape => exact Answers.bind (Answers.anything _) fun _ _ => Answers.pure rfl

/-- A configuration is aborted, or it is handled under its own kernel and entry. -/
theorem runConfiguration_answers (timer : Timer (StateM ω)) (options : Options)
    (c : Kind × Entry) :
    Answers (runConfiguration timer options c.1 c.2 : StateM ω Ending) fun ending =>
      (∃ failure, ending = .aborted failure) ∨ ending.configuration? = some c := by
  refine Answers.bind (prepare_answers options c) ?_
  intro prepared hprepared
  subst hprepared
  rcases hassess : assess options c with (trap | e) | trial
  · exact Answers.pure (.inl ⟨_, rfl⟩)
  · -- every error of a preparation is recoverable, so the configuration is passed over
    simp only [skipOrAbort, isRecoverable_of_assess hassess, if_true]
    exact Answers.bind (Answers.anything _) fun _ _ => Answers.pure (.inr rfl)
  · obtain ⟨-, hkind, hshape⟩ := assess_eq_ok hassess
    refine Answers.bind (Trial.execute_answers timer trial) ?_
    intro outcome houtcome
    rcases outcome with (trap | e) | report
    · exact Answers.pure (.inl ⟨_, rfl⟩)
    · exact Answers.bind (Answers.anything _) fun _ _ => Answers.pure (.inl ⟨_, rfl⟩)
    · obtain ⟨hreport, hsame⟩ := houtcome report rfl
      have hentry : Entry.ofShape report.shape = c.2 := by
        rw [hsame]
        exact (Entry.toShape_eq_ok_iff.mp hshape).ofShape_eq
      refine Answers.bind (Answers.anything _) ?_
      intro _ _
      refine Answers.pure (.inr ?_)
      show some (report.kind, Entry.ofShape report.shape) = some c
      rw [hreport, hkind, hentry]

/-! ### All configurations -/

/-- The configurations are run one after another, each in the world that the one before has left,
and end as listed. -/
inductive Handles (timer : Timer (StateM ω)) (options : Options) :
    List (Kind × Entry) → List Ending → ω → ω → Prop where
  | nil (w : ω) : Handles timer options [] [] w w
  | cons {c : Kind × Entry} {rest : List (Kind × Entry)} {ending : Ending}
      {endings : List Ending} {w w₁ w' : ω}
      (hfirst : (runConfiguration timer options c.1 c.2 : StateM ω Ending).run w = (ending, w₁))
      (hrest : Handles timer options rest endings w₁ w') :
      Handles timer options (c :: rest) (ending :: endings) w w'

/-- A run that gives a summary has handled each of its configurations, in order, and the summary is
what they ended in. -/
theorem handles_of_runEach {timer : Timer (StateM ω)} {options : Options}
    {configurations : List (Kind × Entry)} {summary summary' : Summary} {w w' : ω}
    (hrun : (runEach timer options configurations summary : StateM ω _).run w =
      (.ok summary', w')) :
    ∃ endings, Handles timer options configurations endings w w' ∧
      endings.filterMap Ending.configuration? = configurations ∧
      summary'.reports = summary.reports ++ endings.filterMap Ending.report? ∧
      summary'.skipped = summary.skipped ++ endings.filterMap Ending.skipped? := by
  induction configurations generalizing summary w with
  | nil =>
      cases hrun
      exact ⟨[], .nil _, rfl, by simp, by simp⟩
  | cons c rest ih =>
      obtain ⟨ending, w₁, hfirst, hlater⟩ := exists_of_run_bind hrun
      have hanswer := (runConfiguration_answers timer options c).of_run hfirst
      cases ending with
      | aborted failure => cases hlater
      | timed report =>
          obtain ⟨endings, hhandles, hcovered, hreports, hskipped⟩ := ih hlater
          have hc : (Ending.timed report).configuration? = some c := by
            simpa using hanswer
          refine ⟨.timed report :: endings, .cons hfirst hhandles, ?_, ?_, ?_⟩
          · rw [List.filterMap_cons_some hc, hcovered]
          · simpa [Summary.addReport, Ending.report?] using hreports
          · simpa [Summary.addReport, Ending.skipped?, List.filterMap_cons] using hskipped
      | skipped skipped =>
          obtain ⟨endings, hhandles, hcovered, hreports, hskipped⟩ := ih hlater
          have hc : (Ending.skipped skipped).configuration? = some c := by
            simpa using hanswer
          refine ⟨.skipped skipped :: endings, .cons hfirst hhandles, ?_, ?_, ?_⟩
          · rw [List.filterMap_cons_some hc, hcovered]
          · simpa [Summary.addSkipped, Ending.report?, List.filterMap_cons] using hreports
          · simpa [Summary.addSkipped, Ending.skipped?] using hskipped

end Suite

end Handling

/-- Reports and notes together are on the configurations that were handled. -/
theorem Ending.perm_configurations (endings : List Ending) :
    ((endings.filterMap report?).map TrialReport.configuration ++
      (endings.filterMap skipped?).map Skipped.configuration).Perm
        (endings.filterMap configuration?) := by
  induction endings with
  | nil => exact .nil
  | cons ending endings ih =>
      cases ending with
      | timed report => simpa [report?, skipped?, configuration?, List.filterMap_cons] using ih
      | skipped skipped =>
          simp only [report?, skipped?, configuration?, List.filterMap_cons, List.map_cons]
          exact List.perm_middle.trans (ih.cons _)
      | aborted failure => simpa [report?, skipped?, configuration?, List.filterMap_cons] using ih

/-! ### The registered configurations -/

namespace Suite

/-- The registered configurations, as the suite lists them. -/
def registered (s : Suite) : List (Kind × Entry) :=
  s.kernels.flatMap fun r => r.shapes.map (r.kernel, ·)

theorem length_registered (s : Suite) : s.registered.length = s.numConfigurations := by
  simp [registered, numConfigurations, List.length_flatMap]

theorem map_shapesFor (s : Suite) (kind : Kind) :
    (s.shapesFor kind).map (kind, ·) = s.registered.filter (·.1 = kind) := by
  rw [shapesFor, registered]
  induction s.kernels with
  | nil => rfl
  | cons r kernels ih =>
      by_cases hr : r.kernel = kind
      · subst hr
        have hgroup : (r.shapes.map (r.kernel, ·)).filter (·.1 = r.kernel) =
            r.shapes.map (r.kernel, ·) := by
          apply List.filter_eq_self.mpr
          simp
        rw [List.filter_cons_of_pos (by simp), List.flatMap_cons, List.map_append, ih,
          List.flatMap_cons, List.filter_append, hgroup]
      · simp [List.filter_append, List.filter_map, hr, ih]

theorem configurations_eq (s : Suite) (kinds : List Kind) :
    s.configurations kinds = kinds.flatMap fun kind => s.registered.filter (·.1 = kind) := by
  simp only [configurations, map_shapesFor]

theorem mem_kinds_of_mem_registered {s : Suite} {c : Kind × Entry} (hc : c ∈ s.registered) :
    c.1 ∈ s.kinds := by
  obtain ⟨r, hr, hentry⟩ := List.mem_flatMap.mp hc
  obtain ⟨entry, -, rfl⟩ := List.mem_map.mp hentry
  exact List.mem_eraseDups.mpr (List.mem_map.mpr ⟨r, hr, rfl⟩)

/-- The whole run has the registered configurations, as often as they are registered. -/
theorem perm_configurations_kinds (s : Suite) :
    (s.configurations s.kinds).Perm s.registered := by
  have hkinds := firstOccurrences_eraseDups (s.kernels.map (·.kernel))
  rw [configurations_eq]
  exact perm_groups Prod.fst hkinds.nodup fun c hc => mem_kinds_of_mem_registered hc

/-! ### The whole run -/

section Whole

variable {ω : Type} [Host (StateM ω)] {s : Suite}

def fixedTimer (s : Suite) : Timer (StateM ω) := Timer.fixed Host.clock s.warmUps s.executions

/-- The lines that open the log of a run. -/
def head (s : Suite) : List LogLine := [
  ⟨.info, Report.rule⟩,
  ⟨.info, s!"Convolution Benchmark: {s.name}"⟩,
  ⟨.info, s!"Warm-up iterations: {s.warmUps}, timed executions: {s.executions}"⟩,
  ⟨.info, Report.rule⟩]

variable [Processor]

/-- The comparisons on a list of shapes leave the world alone but for its log. -/
theorem verifyEach_logsOnly {shapes : List Shape} {disagreements : List BenchError}
    {a : Attempt BenchError (List BenchError)} {w w' : ω}
    (hrun : (verifyEach shapes disagreements : StateM ω _).run w = (a, w')) : LogsOnly w w' := by
  induction shapes generalizing disagreements w with
  | nil =>
      cases hrun
      exact .refl _
  | cons shape rest ih =>
      rw [verifyEach] at hrun
      split at hrun
      · obtain ⟨_, w₁, hline, hlater⟩ := exists_of_run_bind hrun
        exact .log hline (ih hlater)
      · split at hrun
        · obtain ⟨_, w₁, hline, hlater⟩ := exists_of_run_bind hrun
          exact .log hline (ih hlater)
        · split at hrun
          · exact ih hrun
          · obtain ⟨_, w₁, hline, hlater⟩ := exists_of_run_bind hrun
            cases hlater
            exact .log hline (.refl _)
      · cases hrun
        exact .refl _

theorem verifyShapes_logsOnly {kinds : List Kind} {a : Attempt BenchError (List BenchError)}
    {w w' : ω} (hrun : (s.verifyShapes kinds : StateM ω _).run w = (a, w')) : LogsOnly w w' := by
  rw [verifyShapes] at hrun
  split at hrun
  · obtain ⟨_, w₁, hline, hlater⟩ := exists_of_run_bind hrun
    exact .log hline (verifyEach_logsOnly hlater)
  · cases hrun
    exact .refl _

theorem runEach_of_runConfigurations {kinds : List Kind} {timer : Timer (StateM ω)}
    {summary : Summary} {w w' : ω}
    (hrun : (s.runConfigurations kinds timer : StateM ω _).run w = (.ok summary, w')) :
    ∃ disagreements w₁,
      (s.verifyShapes kinds : StateM ω _).run w = (.ok disagreements, w₁) ∧
      (runEach timer s.options (s.configurations kinds) { disagreements } : StateM ω _).run w₁ =
        (.ok summary, w') := by
  obtain ⟨verified, w₁, hverified, hlater⟩ := exists_of_run_bind hrun
  cases verified with
  | error failure => cases hlater
  | ok disagreements => exact ⟨disagreements, w₁, hverified, hlater⟩

/-- The three stages of a run that gives a summary, each in the world that the one before has left:
the head, the configurations and the printed report. -/
theorem stages_of_runAndReport {kinds : List Kind} {summary : Summary} {w w' : ω}
    (hrun : (s.runAndReport kinds : StateM ω _).run w = (.ok summary, w')) :
    ∃ w₁ w₂ : ω, (s.head.forM Host.log : StateM ω Unit).run w = ((), w₁) ∧
      (s.runConfigurations kinds (s.fixedTimer : Timer (StateM ω)) : StateM ω _).run w₁ =
        (.ok summary, w₂) ∧
      ((Report.lines summary.results ++ closing summary).forM Host.print : StateM ω Unit).run w₂ =
        ((), w') := by
  obtain ⟨_, w₁, hrule, hrun⟩ := exists_of_run_bind hrun
  obtain ⟨_, w₂, hname, hrun⟩ := exists_of_run_bind hrun
  obtain ⟨_, w₃, hcounts, hrun⟩ := exists_of_run_bind hrun
  obtain ⟨_, w₄, hrule', hrun⟩ := exists_of_run_bind hrun
  obtain ⟨produced, w₅, hproduced, hreport⟩ := exists_of_run_bind hrun
  have hhead : (s.head.forM Host.log : StateM ω Unit).run w = ((), w₄) :=
    (run_bind_of_run hrule).trans ((run_bind_of_run hname).trans
      ((run_bind_of_run hcounts).trans (run_bind_of_run hrule')))
  cases produced with
  | error failure => cases hreport
  | ok summary₁ =>
      obtain ⟨_, w₆, hprinted, hanswer⟩ := exists_of_run_bind hreport
      cases hanswer
      exact ⟨w₄, w₅, hhead, hproduced, hprinted⟩

/-- The whole run covers every registration exactly once.  If it gives a summary, then reports and
notes are as many as the registered configurations, and each configuration stands among them as
often as it is registered.  The run takes the kernels in the order of their first registration and
the configurations of each in the order of all its registrations, and reports and notes stand in the
order in which their configurations were handled.  Nothing else is run: the head and the
verification lie before the first configuration and leave nothing but log lines, and the printed
report lies behind the last. -/
theorem runAll_covers {ω : Type} [Host (StateM ω)] {s : Suite} {summary : Summary} {w w' : ω}
    (hrun : (s.runAll : StateM ω _).run w = (.ok summary, w')) :
    summary.reports.length + summary.skipped.length = s.numConfigurations ∧
      (∀ kind entry,
        summary.reports.countP (fun r => r.kind = kind ∧ Entry.ofShape r.shape = entry) +
          summary.skipped.countP (fun k => k.kind = kind ∧ k.entry = entry) =
            s.registered.count (kind, entry)) ∧
      ∃ (kinds : List Kind) (endings : List Ending) (disagreements : List BenchError)
        (w₁ w₂ w₃ : ω),
        FirstOccurrences (s.kernels.map (·.kernel)) kinds ∧
        (s.head.forM Host.log : StateM ω Unit).run w = ((), w₁) ∧
        (s.verifyShapes kinds : StateM ω _).run w₁ = (.ok disagreements, w₂) ∧
        LogsOnly w₁ w₂ ∧
        Handles s.fixedTimer s.options
          (kinds.flatMap fun kind => s.registered.filter (·.1 = kind)) endings w₂ w₃ ∧
        ((Report.lines summary.results ++ closing summary).forM Host.print :
          StateM ω Unit).run w₃ = ((), w') ∧
        summary.reports = endings.filterMap Ending.report? ∧
        summary.skipped = endings.filterMap Ending.skipped? := by
  obtain ⟨w₁, w₃, hhead, hconfigurations, hprinted⟩ := stages_of_runAndReport hrun
  obtain ⟨disagreements, w₂, hverified, heach⟩ := runEach_of_runConfigurations hconfigurations
  obtain ⟨endings, hhandles, hcovered, hreports, hskipped⟩ := handles_of_runEach heach
  rw [List.nil_append] at hreports hskipped
  have hperm : (summary.reports.map TrialReport.configuration ++
      summary.skipped.map Skipped.configuration).Perm s.registered := by
    rw [hreports, hskipped]
    refine (Ending.perm_configurations endings).trans ?_
    rw [hcovered]
    exact s.perm_configurations_kinds
  refine ⟨?_, ?_, s.kinds, endings, disagreements, w₁, w₂, w₃, firstOccurrences_eraseDups _, hhead,
    hverified, verifyShapes_logsOnly hverified, ?_, hprinted, hreports, hskipped⟩
  · simpa [length_registered] using hperm.length_eq
  · intro kind entry
    rw [← hperm.count_eq, List.count_append, List.count_eq_countP, List.count_eq_countP,
      List.countP_map, List.countP_map]
    congr 1
    · apply List.countP_congr
      intro r _
      simp [TrialReport.configuration]
    · apply List.countP_congr
      intro k _
      simp [Skipped.configuration]
  · rw [← configurations_eq]
    exact hhandles

end Whole

/-- A suite that registers the reference twice, with the candidate in between. -/
def interleaved : Suite where
  name := "interleaved"
  description := ""
  warmUps := 1
  executions := 1
  verify := false
  options := {}
  kernels := [
    { kernel := .reference, shapes := [negativeEntry, plainEntry] },
    { kernel := .candidate, shapes := [paddedEntry, plainEntry] },
    { kernel := .reference, shapes := [paddedEntry, plainEntry] }]

section

attribute [local instance] Processor.vector

/-- The candidate comes last, though it is registered in between. -/
theorem runAll_covers_interleaved :
    ∃ summary w', (interleaved.runAll : StateM Session _).run {} = (.ok summary, w') ∧
      summary.reports.length + summary.skipped.length = 6 ∧
      summary.reports.countP (fun r => r.kind = .reference ∧ Entry.ofShape r.shape = plainEntry) +
        summary.skipped.countP (fun k => k.kind = .reference ∧ k.entry = plainEntry) = 2 ∧
      summary.reports.map TrialReport.configuration = [(.reference, plainEntry),
        (.reference, paddedEntry), (.reference, plainEntry), (.candidate, plainEntry)] ∧
      summary.skipped.map Skipped.configuration =
        [(.reference, negativeEntry), (.candidate, paddedEntry)] := by
  have hconfigurations : ((interleaved.runAll : StateM Session _).run {}).1.toOption.map
      (fun summary => (summary.reports.map TrialReport.configuration,
        summary.skipped.map Skipped.configuration)) =
      some ([(.reference, plainEntry), (.reference, paddedEntry), (.reference, plainEntry),
        (.candidate, plainEntry)], [(.reference, negativeEntry), (.candidate, paddedEntry)]) := by
    decide +kernel
  rcases hrun : (interleaved.runAll : StateM Session _).run {} with ⟨failure | summary, w'⟩
  · rw [hrun] at hconfigurations
    cases hconfigurations
  · obtain ⟨hlength, hcount, -⟩ := runAll_covers hrun
    rw [hrun] at hconfigurations
    obtain ⟨hreports, hskipped⟩ := Prod.mk.inj (Option.some.inj hconfigurations)
    exact ⟨summary, w', rfl, hlength, hcount .reference plainEntry, hreports, hskipped⟩

end

end Suite

end ConvLab
