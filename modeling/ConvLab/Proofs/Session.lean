import ConvLab.Bench.Session

/-!
# Programs in a recorded session

A benchmark drives a timer and writes a log.  Neither its answers nor what it does to the timer
depend on the log, so what a program does can be said once for every session.

* `Recorded τ` — the programs that drive a timer with states in `τ`;
* `Session.logged` — a session with more lines in its log;
* `Records` — what a program logs, answers and leaves of the timer's state, in any session;
* `Records.bind` and its companions — one rule for each way to put programs together.
-/

namespace ConvLab

/-- A program in a recorded session that drives a timer with states in `τ`. -/
abbrev Recorded (τ : Type) := StateT Session (StateM τ)

namespace Session

/-- The session after more lines have been logged. -/
def logged (s : Session) (lines : List LogLine) : Session :=
  { s with log := s.log ++ lines.toArray }

@[simp] theorem logged_nil (s : Session) : s.logged [] = s := by
  simp [logged]

@[simp] theorem logged_logged (s : Session) (lines lines' : List LogLine) :
    (s.logged lines).logged lines' = s.logged (lines ++ lines') := by
  simp [logged]

end Session

variable {τ α β ε : Type}

/-- A timer goes on from the state that it has reached. -/
theorem run_bind_of_run {x : StateM τ α} {f : α → StateM τ β} {t t' : τ} {a : α}
    (hx : x.run t = (a, t')) : (x >>= f).run t = (f a).run t' := by
  have hrun : (x >>= f).run t = (f (x.run t).1).run (x.run t).2 := rfl
  rw [hrun, hx]

/-- The program logs the lines, answers `a` and takes the timer from `t` to `t'`; nothing else of
the session changes, and nothing of it is read. -/
def Records (x : Recorded τ α) (t : τ) (lines : List LogLine) (a : α) (t' : τ) : Prop :=
  ∀ session, (x.run session).run t = ((a, session.logged lines), t')

namespace Records

variable {t t₁ t₂ : τ} {lines lines₁ lines₂ : List LogLine}

theorem pure (a : α) (t : τ) : Records (Pure.pure a) t [] a t := by
  intro session
  rw [Session.logged_nil]
  rfl

theorem of_lines_eq {x : Recorded τ α} {a : α} (hx : Records x t lines₁ a t₁)
    (hlines : lines₁ = lines₂) : Records x t lines₂ a t₁ :=
  hlines ▸ hx

theorem log (line : LogLine) (t : τ) : Records (Host.log line) t [line] () t := by
  intro session
  show (((), { session with log := session.log.push line }), t) = _
  simp [Session.logged]

/-- What the timer does is not recorded. -/
theorem lift (y : StateM τ α) (t : τ) : Records (liftM y) t [] (y.run t).1 (y.run t).2 := by
  intro session
  rw [Session.logged_nil]
  rfl

theorem bind {x : Recorded τ α} {f : α → Recorded τ β} {a : α} {b : β}
    (hx : Records x t lines₁ a t₁) (hf : Records (f a) t₁ lines₂ b t₂) :
    Records (x >>= f) t (lines₁ ++ lines₂) b t₂ := by
  intro session
  have hrun : ((x >>= f).run session).run t =
      (let r := (x.run session).run t; ((f r.1.1).run r.1.2).run r.2) := rfl
  rw [hrun, hx session, ← Session.logged_logged]
  exact hf (session.logged lines₁)

/-! ### Programs that can fail -/

theorem bind_ok {x : ExceptT ε (Recorded τ) α} {f : α → ExceptT ε (Recorded τ) β} {a : α}
    {b : Except ε β} (hx : Records x.run t lines₁ (.ok a) t₁)
    (hf : Records (f a).run t₁ lines₂ b t₂) :
    Records (x >>= f).run t (lines₁ ++ lines₂) b t₂ := by
  rw [ExceptT.run_bind]
  exact hx.bind hf

theorem bind_error {x : ExceptT ε (Recorded τ) α} {f : α → ExceptT ε (Recorded τ) β} {e : ε}
    (hx : Records x.run t lines (.error e) t₁) : Records (x >>= f).run t lines (.error e) t₁ := by
  rw [ExceptT.run_bind]
  exact of_lines_eq (hx.bind (pure (Except.error e) t₁)) (List.append_nil lines)

theorem pure_ok (a : α) (t : τ) :
    Records (Pure.pure a : ExceptT ε (Recorded τ) α).run t [] (.ok a) t :=
  pure (Except.ok a) t

theorem throw_error (e : ε) (t : τ) :
    Records (throw e : ExceptT ε (Recorded τ) α).run t [] (.error e) t :=
  pure (Except.error e) t

theorem lift_ok {x : Recorded τ α} {a : α} (hx : Records x t lines a t₁) :
    Records (ExceptT.lift x : ExceptT ε (Recorded τ) α).run t lines (.ok a) t₁ := by
  intro session
  have hrun : ((ExceptT.lift x : ExceptT ε (Recorded τ) α).run.run session).run t =
      (let r := (x.run session).run t; ((Except.ok r.1.1, r.1.2), r.2)) := rfl
  rw [hrun, hx session]

/-- Lines that are logged one after another. -/
theorem forM_log (lines : List LogLine) (t : τ) :
    Records (lines.forM Host.log : ExceptT ε (Recorded τ) Unit).run t lines (.ok ()) t := by
  induction lines with
  | nil => exact pure_ok () t
  | cons line lines ih =>
      have hline : Records (Host.log line : ExceptT ε (Recorded τ) Unit).run t [line] (.ok ()) t :=
        lift_ok (log line t)
      exact hline.bind_ok ih

end Records

end ConvLab
