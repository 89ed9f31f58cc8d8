import ConvLab.Proofs.Trial

/-!
# Timing

How often a timer calls a routine, and what it is asked in the course of a trial.

* `Routine.after`, `Routine.outcome` — a routine, call after call;
* `callFrom_of_succeeds`, `callFrom_of_failsFirst` — a number of calls, up to the first failure;
* `Timer.makesCalls_fixed` — a warm-up and a measurement by the timer with fixed numbers of calls;
* `Timer.traced` — a timer that keeps a list of what it is asked;
* `Trial.course_fixed`, `Trial.Course.traced` — the course of a trial with either of these timers;
* `Trial.execute_course` — the execution of a prepared trial.
-/

namespace ConvLab

/-! ### Call after call -/

namespace Routine

variable {κ : Type}

def after (routine : Routine κ) (state : κ) : Nat → κ
  | 0 => state
  | n + 1 => (routine (routine.after state n)).1

def outcome (routine : Routine κ) (state : κ) (call : Nat) : Attempt KernelError Unit :=
  (routine (routine.after state call)).2

/-- The first calls of a routine succeed. -/
def Succeeds (routine : Routine κ) (state : κ) (calls : Nat) : Prop :=
  ∀ i < calls, routine.outcome state i = .ok ()

/-- A call of a routine is the first to fail. -/
structure FailsFirst (routine : Routine κ) (state : κ) (call : Nat)
    (failure : Failure KernelError) : Prop where
  before : routine.Succeeds state call
  outcome_eq : routine.outcome state call = .error failure

/-- A routine that also counts its calls. -/
def counted (routine : Routine κ) : Routine (Nat × κ) :=
  fun c => ((c.1 + 1, (routine c.2).1), (routine c.2).2)

variable {routine : Routine κ} {state : κ} {failure : Failure KernelError}

theorem after_after (m n : Nat) :
    routine.after (routine.after state m) n = routine.after state (m + n) := by
  induction n with
  | zero => rfl
  | succ n ih => rw [after, ih, Nat.add_succ, after]

theorem outcome_after (m n : Nat) :
    routine.outcome (routine.after state m) n = routine.outcome state (m + n) := by
  rw [outcome, after_after, outcome]

theorem after_counted (c n : Nat) :
    routine.counted.after (c, state) n = (c + n, routine.after state n) := by
  induction n with
  | zero => rfl
  | succ n ih =>
      rw [after, ih]
      rfl

theorem outcome_counted (c n : Nat) :
    routine.counted.outcome (c, state) n = routine.outcome state n := by
  rw [outcome, after_counted]
  rfl

theorem Succeeds.counted {calls : Nat} (h : routine.Succeeds state calls) (c : Nat) :
    routine.counted.Succeeds (c, state) calls := by
  intro i hi
  rw [outcome_counted]
  exact h i hi

theorem FailsFirst.counted {call : Nat} (h : routine.FailsFirst state call failure) (c : Nat) :
    routine.counted.FailsFirst (c, state) call failure := by
  refine ⟨h.before.counted c, ?_⟩
  rw [outcome_counted]
  exact h.outcome_eq

/-! Calls that go well can be split off. -/

theorem Succeeds.left {m n : Nat} (h : routine.Succeeds state (m + n)) :
    routine.Succeeds state m :=
  fun i hi => h i (Nat.lt_add_right n hi)

theorem Succeeds.right {m n : Nat} (h : routine.Succeeds state (m + n)) :
    routine.Succeeds (routine.after state m) n := by
  intro i hi
  rw [outcome_after]
  exact h (m + i) (Nat.add_lt_add_left hi m)

theorem FailsFirst.right {m n : Nat} (h : routine.FailsFirst state (m + n) failure) :
    routine.FailsFirst (routine.after state m) n failure := by
  refine ⟨h.before.right, ?_⟩
  rw [outcome_after]
  exact h.outcome_eq

end Routine

section Calls

variable {κ : Type} {routine : Routine κ} {state : κ} {failure : Failure KernelError}

theorem callFrom_succ_of_ok (hok : (routine state).2 = .ok ()) (completed count : Nat) :
    callFrom routine completed (count + 1) state =
      callFrom routine (completed + 1) count (routine state).1 := by
  rw [callFrom]
  rcases hcall : routine state with ⟨state', outcome⟩
  rw [hcall] at hok
  cases hok
  rfl

theorem callFrom_succ_of_error (herror : (routine state).2 = .error failure)
    (completed count : Nat) :
    callFrom routine completed (count + 1) state =
      ⟨(routine state).1, completed, .error failure⟩ := by
  rw [callFrom]
  rcases hcall : routine state with ⟨state', outcome⟩
  rw [hcall] at herror
  cases herror
  rfl

/-- Calls that succeed can be made before the others. -/
theorem callFrom_add {calls : Nat} (h : routine.Succeeds state calls) (completed rest : Nat) :
    callFrom routine completed (calls + rest) state =
      callFrom routine (completed + calls) rest (routine.after state calls) := by
  -- on the calls that succeed, the last of them split off, so that the state before it stays named
  induction calls generalizing rest with
  | zero => rw [Nat.zero_add, Nat.add_zero, Routine.after]
  | succ calls ih =>
      have hlast : (routine (routine.after state calls)).2 = .ok () := h calls calls.lt_succ_self
      rw [Nat.add_assoc, Nat.add_comm 1 rest, ih h.left, callFrom_succ_of_ok hlast, Routine.after,
        Nat.add_assoc]

theorem callFrom_of_succeeds {calls : Nat} (h : routine.Succeeds state calls) (completed : Nat) :
    callFrom routine completed calls state =
      ⟨routine.after state calls, completed + calls, .ok ()⟩ :=
  callFrom_add h completed 0

/-- The calls end right after the first failure, with that failure. -/
theorem callFrom_of_failsFirst {call count : Nat} (h : routine.FailsFirst state call failure)
    (hcall : call < count) (completed : Nat) :
    callFrom routine completed count state =
      ⟨routine.after state (call + 1), completed + call, .error failure⟩ := by
  obtain ⟨rest, rfl⟩ := Nat.exists_eq_add_of_lt hcall
  rw [Nat.add_assoc, callFrom_add h.before, callFrom_succ_of_error h.outcome_eq, Routine.after]

end Calls

/-! ### The timer with a fixed number of calls -/

namespace Timer

/-- A warm-up and, unless it fails, a measurement of the routine as the warm-up left it. -/
def drive {m : Type → Type} [Monad m] {κ : Type} (timer : Timer m) (label : String)
    (routine : Routine κ) (state : κ) : m (κ × Attempt KernelError (Option Measurement)) := do
  let warmed ← timer.warmUp routine state
  match warmed.outcome with
  | .error failure => return (warmed.state, .error failure)
  | .ok _ =>
      let measured ← timer.measure label routine warmed.state
      return (measured.state, measured.outcome)

variable {τ κ : Type} {label : String} {routine : Routine κ} {state : κ}
  {failure : Failure KernelError} {t t₁ t₂ : τ}

section Drive

variable {timer : Timer (StateM τ)} {warmed : Driven κ Unit}

theorem drive_of_warmUp_error
    (hwarmed : (timer.warmUp routine state).run t = (warmed, t₁))
    (hfailure : warmed.outcome = .error failure) :
    (timer.drive label routine state).run t = ((warmed.state, .error failure), t₁) := by
  rw [drive, run_bind_of_run hwarmed]
  simp only [hfailure]
  rfl

theorem drive_of_warmUp_ok {measured : Driven κ (Option Measurement)}
    (hwarmed : (timer.warmUp routine state).run t = (warmed, t₁))
    (hok : warmed.outcome = .ok ())
    (hmeasured : (timer.measure label routine warmed.state).run t₁ = (measured, t₂)) :
    (timer.drive label routine state).run t = ((measured.state, measured.outcome), t₂) := by
  rw [drive, run_bind_of_run hwarmed]
  simp only [hok]
  exact run_bind_of_run hmeasured

end Drive

variable {clock : StateM τ Nat} {warmUps executions : UInt32} {start stop : Nat}

theorem warmUp_fixed_of_succeeds (h : routine.Succeeds state warmUps.toNat) (t : τ) :
    ((fixed clock warmUps executions).warmUp routine state).run t =
      (⟨routine.after state warmUps.toNat, .ok (), []⟩, t) := by
  simp only [fixed, callTimes, callFrom_of_succeeds h]
  rfl

theorem warmUp_fixed_of_failsFirst {call : Nat} (h : routine.FailsFirst state call failure)
    (hcall : call < warmUps.toNat) (t : τ) :
    ((fixed clock warmUps executions).warmUp routine state).run t =
      (⟨routine.after state (call + 1), .error failure, []⟩, t) := by
  simp only [fixed, callTimes, callFrom_of_failsFirst h hcall]
  rfl

theorem measure_fixed_of_succeeds (h : routine.Succeeds state executions.toNat)
    (hstart : clock.run t = (start, t₁)) (hstop : clock.run t₁ = (stop, t₂)) :
    ((fixed clock warmUps executions).measure label routine state).run t =
      (⟨routine.after state executions.toNat, .ok (some ⟨stop - start, executions⟩),
        fixedLog label executions.toNat executions.toNat⟩, t₂) := by
  simp only [fixed, callTimes, callFrom_of_succeeds h, Nat.zero_add]
  rw [run_bind_of_run hstart, run_bind_of_run hstop]
  rfl

theorem measure_fixed_of_failsFirst {call : Nat} (h : routine.FailsFirst state call failure)
    (hcall : call < executions.toNat) (hstart : clock.run t = (start, t₁)) :
    ((fixed clock warmUps executions).measure label routine state).run t =
      (⟨routine.after state (call + 1), .error failure, fixedLog label executions.toNat call⟩,
        t₁) := by
  simp only [fixed, callTimes, callFrom_of_failsFirst h hcall, Nat.zero_add]
  rw [run_bind_of_run hstart]
  rfl

/-- If no call fails then all calls are made, those of the measurement between two readings of the
clock. -/
theorem drive_fixed_of_succeeds
    (h : routine.Succeeds state (warmUps.toNat + executions.toNat))
    (hstart : clock.run t = (start, t₁)) (hstop : clock.run t₁ = (stop, t₂)) :
    ((fixed clock warmUps executions).drive label routine state).run t =
      ((routine.after state (warmUps.toNat + executions.toNat),
        .ok (some ⟨stop - start, executions⟩)), t₂) := by
  rw [drive_of_warmUp_ok (warmUp_fixed_of_succeeds h.left t) rfl
    (measure_fixed_of_succeeds h.right hstart hstop), Routine.after_after]

/-- A call that fails is the last one, be it in the warm-up or in the measurement. -/
theorem drive_fixed_of_failsFirst {call : Nat} (h : routine.FailsFirst state call failure)
    (hcall : call < warmUps.toNat + executions.toNat) (t : τ) :
    ∃ t', ((fixed clock warmUps executions).drive label routine state).run t =
      ((routine.after state (call + 1), .error failure), t') := by
  by_cases hwarm : call < warmUps.toNat
  · exact ⟨t, drive_of_warmUp_error (warmUp_fixed_of_failsFirst h hwarm t) rfl⟩
  · obtain ⟨timed, rfl⟩ := Nat.exists_eq_add_of_le (Nat.le_of_not_lt hwarm)
    have htimed : timed < executions.toNat := Nat.lt_of_add_lt_add_left hcall
    rcases hstart : clock.run t with ⟨start, t₁⟩
    refine ⟨t₁, ?_⟩
    rw [drive_of_warmUp_ok (warmUp_fixed_of_succeeds h.before.left t) rfl
      (measure_fixed_of_failsFirst h.right htimed hstart), Routine.after_after, Nat.add_assoc]

/-- A warm-up and a measurement call a routine exactly `calls` times, the last `timed` of them to be
measured; or else they stop right after the first call that fails, with its failure. -/
structure MakesCalls (timer : Timer (StateM τ)) (calls : Nat) (timed : UInt32) : Prop where
  all : ∀ {κ : Type} (label : String) (routine : Routine κ) (state : κ) (t : τ),
    routine.Succeeds state calls →
      ∃ ns t', (timer.drive label routine.counted (0, state)).run t =
        (((calls, routine.after state calls), .ok (some ⟨ns, timed⟩)), t')
  upToFailure : ∀ {κ : Type} (label : String) (routine : Routine κ) (state : κ) (t : τ),
    ∀ call < calls, ∀ failure, routine.FailsFirst state call failure →
      ∃ t', (timer.drive label routine.counted (0, state)).run t =
        (((call + 1, routine.after state (call + 1)), .error failure), t')

theorem makesCalls_fixed (clock : StateM τ Nat) (warmUps executions : UInt32) :
    (fixed clock warmUps executions).MakesCalls (warmUps.toNat + executions.toNat) executions := by
  constructor
  · intro κ label routine state t h
    rcases hstart : clock.run t with ⟨start, t₁⟩
    rcases hstop : clock.run t₁ with ⟨stop, t₂⟩
    refine ⟨stop - start, t₂, ?_⟩
    rw [drive_fixed_of_succeeds (h.counted 0) hstart hstop, Routine.after_counted, Nat.zero_add]
  · intro κ label routine state t call hcall failure h
    obtain ⟨t', hdrive⟩ := drive_fixed_of_failsFirst (h.counted 0) hcall t
    refine ⟨t', ?_⟩
    rw [hdrive, Routine.after_counted, Nat.zero_add]

end Timer

/-! ### What a timer is asked -/

/-- What a timer can be asked. -/
inductive Request where
  | warmsUp
  | warmUp
  | measure (label : String)
  deriving DecidableEq

namespace Request

/-- What a timer is asked about a trial that is done, in order. -/
def course (label : String) (warms : Bool) : List Request :=
  if warms then [.warmsUp, .warmUp, .measure label] else [.warmsUp, .measure label]

variable {τ α : Type}

/-- The same effect, after which the request is on the list. -/
def noted (request : Request) (x : StateM τ α) : StateM (List Request × τ) α :=
  fun t => ((x.run t.2).1, (t.1 ++ [request], (x.run t.2).2))

theorem run_noted {x : StateM τ α} {a : α} {t t' : τ} (hx : x.run t = (a, t'))
    (request : Request) (requests : List Request) :
    (request.noted x).run (requests, t) = (a, (requests ++ [request], t')) := by
  show ((x.run t).1, (requests ++ [request], (x.run t).2)) = _
  rw [hx]

end Request

variable {τ : Type}

/-- The timer that keeps a list of what it is asked. -/
def Timer.traced (timer : Timer (StateM τ)) : Timer (StateM (List Request × τ)) where
  warmsUp := Request.warmsUp.noted timer.warmsUp
  warmUp routine state := Request.warmUp.noted (timer.warmUp routine state)
  measure label routine state := (Request.measure label).noted (timer.measure label routine state)

namespace Trial

variable {timer : Timer (StateM τ)} {trial : Trial} {t t' : τ} {warms : Bool}
  {outcome : Attempt KernelError (Option Measurement)}

/-- The requests of a course come in order, there is one for a warm-up just if the timer warms up,
and none is missing if the course ends well. -/
structure Course.Asks (trial : Trial) (warms : Bool)
    (outcome : Attempt KernelError (Option Measurement)) (requests : List Request) : Prop where
  inOrder : requests <+: Request.course trial.label warms
  warmUp_iff : Request.warmUp ∈ requests ↔ warms = true
  complete : ∀ measurement, outcome = .ok measurement →
    requests = Request.course trial.label warms

/-- A timer that is watched takes the same course. -/
theorem Course.traced (h : Course timer trial t warms outcome t') :
    ∃ requests, Course timer.traced trial ([], t) warms outcome (requests, t') ∧
      Course.Asks trial warms outcome requests := by
  cases h with
  | cold hwarms hmeasured =>
      refine ⟨_, .cold (Request.run_noted hwarms _ _) (Request.run_noted hmeasured _ _), ?_⟩
      exact ⟨List.prefix_rfl, by simp, fun _ _ => rfl⟩
  | failed hwarms hwarmed hfailure =>
      refine ⟨_, .failed (Request.run_noted hwarms _ _) (Request.run_noted hwarmed _ _) hfailure,
        ?_⟩
      refine ⟨⟨[.measure trial.label], rfl⟩, by simp, ?_⟩
      rintro _ ⟨⟩
  | warm hwarms hwarmed hok hmeasured =>
      refine ⟨_, .warm (Request.run_noted hwarms _ _) (Request.run_noted hwarmed _ _) hok
        (Request.run_noted hmeasured _ _), ?_⟩
      exact ⟨List.prefix_rfl, by simp, fun _ _ => rfl⟩

end Trial

/-! ### Prepared trials -/

theorem Kernel.after_routine (k : Kernel Float32) (n : Nat) :
    Routine.after Kernel.run k n = k.after n := by
  induction n with
  | zero => rfl
  | succ n ih => rw [Routine.after, ih, Kernel.after]

theorem Kernel.Prepared.succeeds [Processor] {p : Problem Float32} {k : Kernel Float32}
    (hk : Prepared p k) (calls : Nat) : Routine.Succeeds Kernel.run k calls := by
  intro i _
  obtain ⟨k', hrun, -⟩ := (hk.after i).1.run_eq
  rw [Routine.outcome, Kernel.after_routine, hrun]

namespace Trial

variable {timer : Timer (StateM τ)} {trial : Trial} {t t₁ t₂ : τ} {clock : StateM τ Nat}
  {start stop : Nat}

/-- The course of a trial with the fixed timer, when no call fails. -/
theorem course_fixed {warmUps executions : UInt32}
    (h : Routine.Succeeds Kernel.run trial.kernel (warmUps.toNat + executions.toNat))
    (hstart : clock.run t = (start, t₁)) (hstop : clock.run t₁ = (stop, t₂)) :
    Course (Timer.fixed clock warmUps executions) trial t (0 < warmUps)
      (.ok (some ⟨stop - start, executions⟩)) t₂ := by
  have hasked : (Timer.fixed clock warmUps executions).warmsUp.run t = (decide (0 < warmUps), t) :=
    rfl
  by_cases hwarms : 0 < warmUps
  · rw [decide_eq_true hwarms] at hasked ⊢
    exact .warm hasked (Timer.warmUp_fixed_of_succeeds h.left t) rfl
      (Timer.measure_fixed_of_succeeds h.right hstart hstop)
  · rw [decide_eq_false hwarms] at hasked ⊢
    have hnone : warmUps.toNat = 0 := by
      rw [UInt32.lt_iff_toNat_lt] at hwarms
      exact Nat.eq_zero_of_not_pos hwarms
    -- without warm-up calls the measurement starts from the kernel itself
    rw [hnone, Nat.zero_add] at h
    exact .cold hasked (Timer.measure_fixed_of_succeeds h hstart hstop)

section Prepared

variable [Processor] {kind : Kind} {s : Shape} {options : Options}

/-- However often the kernel of a prepared trial is called, no call fails. -/
theorem succeeds_of_prepare (htrial : prepare kind s options = .ok trial) (calls : Nat) :
    Routine.Succeeds Kernel.run trial.kernel calls := by
  obtain ⟨problem, flops, kernel, hproblem, -, hkernel, rfl⟩ := prepare_eq_ok_iff.mp htrial
  obtain ⟨hprepared, -⟩ := Kernel.Prepared.of_create (Problem.built_of_build hproblem) hkernel
  exact hprepared.succeeds calls

/-- With the fixed timer a prepared trial is always done. -/
theorem execute_fixed (htrial : prepare kind s options = .ok trial) (warmUps executions : UInt32)
    (hstart : clock.run t = (start, t₁)) (hstop : clock.run t₁ = (stop, t₂)) :
    ∃ lines, Records
      (trial.execute (Timer.fixed clock warmUps executions) : ExceptT _ (Recorded τ) _).run t lines
      (.ok (trial.reportThrough (Phase.course (0 < warmUps)) (some ⟨stop - start, executions⟩)))
      t₂ := by
  have hsucceeds := succeeds_of_prepare htrial (warmUps.toNat + executions.toNat)
  exact (course_fixed hsucceeds hstart hstop).execute_records (fresh_of_prepare htrial)

/-- A prepared trial follows its phases, and the fixed timer its numbers of calls.

With the fixed timer, a warm-up and a measurement call a routine as often as the two numbers say; a
call that fails is the last one, and its failure is handed on as it is.  No call of the kernel of a
prepared trial fails.  With any timer, the execution is the course that the timer gives it.  It moves
through the phases in order, so a failure is the timer's own; the timer is asked to warm up just if
it does so, and to measure after that; and the report holds the numbers of the measurement. -/
theorem execute_course (htrial : prepare kind s options = .ok trial) :
    (∀ (clock : StateM τ Nat) (warmUps executions : UInt32),
      (Timer.fixed clock warmUps executions).MakesCalls (warmUps.toNat + executions.toNat)
        executions ∧
      ∀ t start t₁ stop t₂, clock.run t = (start, t₁) → clock.run t₁ = (stop, t₂) →
        ∃ lines, Records (trial.execute (Timer.fixed clock warmUps executions) :
            ExceptT _ (Recorded τ) _).run t lines
          (.ok { kind, shape := s, phases := Phase.course (0 < warmUps),
                 results := some
                  { method := kind.name, shape := s, totalNs := stop - start,
                    averageNs := (stop - start) / max executions.toNat 1,
                    averageMs := Float.ofNat ((stop - start) / max executions.toNat 1) / 1000000.0,
                    executions, flops := trial.flops } }) t₂) ∧
    s.flops = .ok trial.flops ∧
    ∀ (timer : Timer (StateM τ)) (t : τ), ∃ warms outcome t',
      Course timer trial t warms outcome t' ∧
      (∃ lines, Records (trial.execute timer : ExceptT _ (Recorded τ) _).run t lines
        (outcome.map fun measurement =>
          { kind, shape := s, phases := Phase.course warms,
            results := measurement.map fun m =>
              { method := kind.name, shape := s, totalNs := m.totalNs,
                averageNs := m.totalNs / max m.iterations.toNat 1,
                averageMs := Float.ofNat (m.totalNs / max m.iterations.toNat 1) / 1000000.0,
                executions := m.iterations, flops := trial.flops } }) t') ∧
      ∃ requests lines, Course.Asks trial warms outcome requests ∧
        Records (trial.execute timer.traced : ExceptT _ (Recorded (List Request × τ)) _).run ([], t)
          lines (outcome.map (trial.reportThrough (Phase.course warms))) (requests, t') := by
  have hfresh := fresh_of_prepare htrial
  obtain ⟨problem, flops, kernel, -, hflops, -, rfl⟩ := prepare_eq_ok_iff.mp htrial
  refine ⟨?_, hflops, ?_⟩
  · intro clock warmUps executions
    refine ⟨Timer.makesCalls_fixed clock warmUps executions, ?_⟩
    intro t start t₁ stop t₂ hstart hstop
    exact execute_fixed htrial warmUps executions hstart hstop
  · intro timer t
    obtain ⟨warms, outcome, t', hcourse⟩ := exists_course timer _ t
    obtain ⟨requests, htraced, hasks⟩ := hcourse.traced
    obtain ⟨lines, hlines⟩ := htraced.execute_records hfresh
    exact ⟨warms, outcome, t', hcourse, hcourse.execute_records hfresh, requests, lines, hasks,
      hlines⟩

end Prepared

/-- A routine that counts its calls and fails at the fourth. -/
def flaky : Routine Nat := fun calls =>
  (calls + 1, if calls = 3 then .error (.error (.fault "flaky" "worn out")) else .ok ())

/-- A clock that moves on by seven nanoseconds whenever it is read. -/
def sevenClock : StateM Nat Nat := modifyGet fun t => (t, t + 7)

section

attribute [local instance] Processor.vector

theorem execute_course_stepped :
    ∃ trial, prepare .reference Kernel.stepped { scale := 2, fill := .pattern } = .ok trial ∧
      (∃ t', ((Timer.fixed sevenClock 2 5).drive "flaky" flaky.counted (0, 0)).run 100 =
        (((4, 4), .error (.error (.fault "flaky" "worn out"))), t')) ∧
      ∃ lines, Records
        (trial.execute (Timer.fixed sevenClock 2 5) : ExceptT _ (Recorded Nat) _).run 100 lines
        (.ok { kind := .reference, shape := Kernel.stepped,
               phases := [.building, .warmingUp, .timing, .done],
               results := some
                { method := "reference", shape := Kernel.stepped, totalNs := 7, averageNs := 1,
                  averageMs := 0.000001, executions := 5, flops := trial.flops } }) 114 := by
  have hprepared : ∃ trial, prepare .reference Kernel.stepped { scale := 2, fill := .pattern } =
      .ok trial := ⟨_, rfl⟩
  obtain ⟨trial, htrial⟩ := hprepared
  obtain ⟨hcalls, hreport⟩ := (execute_course htrial).1 sevenClock 2 5
  have hfails : flaky.FailsFirst 0 3 (.error (.fault "flaky" "worn out")) := by
    refine ⟨?_, rfl⟩
    intro i hi
    obtain rfl | rfl | rfl : i = 0 ∨ i = 1 ∨ i = 2 := by omega
    all_goals rfl
  exact ⟨trial, htrial, hcalls.upToFailure "flaky" flaky 0 100 3 (by decide) _ hfails,
    hreport 100 100 107 107 114 rfl rfl⟩

end

end Trial

end ConvLab
