import ConvLab.Attempt

/-!
# Runs of checked computations

A checked computation is opened step by step: a step that gives a value hands it on, and a step
that fails ends the run.

* `bind_eq_ok_iff` — a sequence gives a value just if both of its parts do;
* `mapM_eq_ok` — a walk over a list gives a value if every element does;
* `foldlM_eq_ok` — a loop whose body keeps an invariant and gives a value under it runs to its end;
* the lifting of checked computations into attempts.
-/

namespace ConvLab

variable {ε α β : Type}

@[simp] theorem ok_bind (a : α) (f : α → Except ε β) : (Except.ok a >>= f) = f a := rfl

@[simp] theorem error_bind (e : ε) (f : α → Except ε β) : (Except.error e >>= f) = .error e := rfl

@[simp] theorem map_ok (f : α → β) (a : α) : f <$> (Except.ok a : Except ε α) = .ok (f a) := rfl

@[simp] theorem throw_eq (e : ε) : (throw e : Except ε α) = .error e := rfl

theorem bind_eq_ok_iff {x : Except ε α} {f : α → Except ε β} {b : β} :
    (x >>= f) = .ok b ↔ ∃ a, x = .ok a ∧ f a = .ok b := by
  cases x with
  | error e => simp
  | ok a => simp

theorem bind_eq_error_iff {x : Except ε α} {f : α → Except ε β} {e : ε} :
    (x >>= f) = .error e ↔ x = .error e ∨ ∃ a, x = .ok a ∧ f a = .error e := by
  cases x with
  | error e => simp
  | ok a => simp

theorem map_eq_ok_iff {f : α → β} {x : Except ε α} {b : β} :
    f <$> x = .ok b ↔ ∃ a, x = .ok a ∧ f a = b := by
  cases x with
  | error e =>
      constructor
      · nofun
      · nofun
  | ok a => simp

/-- Errors can be restated without changing which computations give a value. -/
theorem except_mapError_eq_ok_iff {δ : Type} {f : ε → δ} {x : Except ε α} {a : α} :
    x.mapError f = .ok a ↔ x = .ok a := by
  cases x with
  | error e =>
      constructor
      · intro h
        cases h
      · nofun
  | ok b =>
      constructor
      · intro h
        cases h
        rfl
      · intro h
        cases h
        rfl

theorem mapM_eq_ok {f : α → Except ε β} {g : α → β} {xs : List α}
    (h : ∀ x ∈ xs, f x = .ok (g x)) : xs.mapM f = .ok (xs.map g) := by
  induction xs with
  | nil => rfl
  | cons x xs ih =>
      rw [List.mapM_cons, h x List.mem_cons_self, ok_bind,
        ih fun y hy => h y (List.mem_cons_of_mem x hy)]
      rfl

/-- The induction over a loop: the body gives a value and keeps the invariant `P`, so the loop gives
the value of the plain fold, and `P` holds of it. -/
theorem foldlM_eq_ok {f : β → α → Except ε β} {g : β → α → β} (P : β → Prop) {xs : List α}
    (h : ∀ x ∈ xs, ∀ b, P b → f b x = .ok (g b x) ∧ P (g b x)) (b : β) (hb : P b) :
    xs.foldlM f b = .ok (xs.foldl g b) ∧ P (xs.foldl g b) := by
  induction xs generalizing b with
  | nil => exact ⟨rfl, hb⟩
  | cons x xs ih =>
      obtain ⟨hstep, hkeep⟩ := h x List.mem_cons_self b hb
      rw [List.foldlM_cons, hstep, ok_bind, List.foldl_cons]
      exact ih (fun y hy => h y (List.mem_cons_of_mem x hy)) (g b x) hkeep

theorem requireEqual_self (n : Nat) : requireEqual n n = .ok () := if_pos rfl

namespace Attempt

@[simp] theorem liftM_eq (x : Checked α) : (liftM x : Attempt ε α) = ofChecked x := rfl

@[simp] theorem ofChecked_ok (a : α) : (ofChecked (.ok a) : Attempt ε α) = .ok a := rfl

@[simp] theorem ofExcept_ok (a : α) : (ofExcept (.ok a) : Attempt ε α) = .ok a := rfl

@[simp] theorem ofExcept_error (e : ε) :
    (ofExcept (.error e) : Attempt ε α) = .error (.error e) := rfl

theorem ofExcept_eq_ok_iff {x : Except ε α} {a : α} :
    (ofExcept x : Attempt ε α) = .ok a ↔ x = .ok a :=
  except_mapError_eq_ok_iff

theorem ofChecked_eq_ok_iff {x : Checked α} {a : α} :
    (ofChecked x : Attempt ε α) = .ok a ↔ x = .ok a :=
  except_mapError_eq_ok_iff

theorem mapError_eq_ok_iff {δ : Type} {f : ε → δ} {x : Attempt ε α} {a : α} :
    mapError f x = .ok a ↔ x = .ok a :=
  except_mapError_eq_ok_iff

/-! ### Errors and traps

An error and a trap never turn into each other: restating an error keeps the traps, and what is
lifted into an attempt brings one of the two only. -/

theorem ofExcept_ne_trap (x : Except ε α) (trap : Trap) :
    (ofExcept x : Attempt ε α) ≠ .error (.trap trap) := by
  cases x with
  | error e => exact fun h => by cases h
  | ok a => exact fun h => by cases h

theorem ofChecked_ne_error (x : Checked α) (e : ε) :
    (ofChecked x : Attempt ε α) ≠ .error (.error e) := by
  cases x with
  | error trap => exact fun h => by cases h
  | ok a => exact fun h => by cases h

theorem ofChecked_eq_trap_iff {x : Checked α} {trap : Trap} :
    (ofChecked x : Attempt ε α) = .error (.trap trap) ↔ x = .error trap := by
  cases x with
  | error cause =>
      constructor
      · intro h
        cases h
        rfl
      · rintro ⟨⟩
        rfl
  | ok a =>
      constructor
      · intro h
        cases h
      · nofun

theorem mapError_eq_error_iff {δ : Type} {f : ε → δ} {x : Attempt ε α} {e : δ} :
    mapError f x = .error (.error e) ↔ ∃ cause, x = .error (.error cause) ∧ e = f cause := by
  rcases x with (trap | cause) | a
  · constructor
    · intro h
      cases h
    · rintro ⟨_, h, -⟩
      cases h
  · constructor
    · intro h
      cases h
      exact ⟨cause, rfl, rfl⟩
    · rintro ⟨_, h, rfl⟩
      cases h
      rfl
  · constructor
    · intro h
      cases h
    · rintro ⟨_, h, -⟩
      cases h

theorem mapError_eq_trap_iff {δ : Type} {f : ε → δ} {x : Attempt ε α} {trap : Trap} :
    mapError f x = .error (.trap trap) ↔ x = .error (.trap trap) := by
  rcases x with (cause | e) | a
  · constructor
    · intro h
      cases h
      rfl
    · intro h
      cases h
      rfl
  · constructor
    · intro h
      cases h
    · intro h
      cases h
  · constructor
    · intro h
      cases h
    · intro h
      cases h

end Attempt

end ConvLab
