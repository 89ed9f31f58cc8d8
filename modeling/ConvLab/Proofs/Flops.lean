import ConvLab.Proofs.Run

/-!
# Counting operations

The operations of a pass are counted in words, by a product of seven factors.  The checks made on a
problem bound three other products, so a problem can be built whose operations cannot be counted.
The count is then a trap, and with it the preparation of the trial and the run that asks for it.

* `Shape.exactFlops` — the operations of a pass, as an exact number;
* `Shape.flops_eq_ok_iff`, `Shape.exists_flops_eq_error_iff`, `Shape.flops_eq_trap_iff` — the three
  ends of the count;
* `Trial.prepare_of_countable`, `Trial.prepare_of_overflow` — the preparation of a built problem;
* `Suite.runEach_of_trap` — a trap in a preparation ends the run;
* `Problem.flops_ends` — all of them together, for the problems that can be built.
-/

namespace ConvLab

theorem Word.mul_eq_error_iff {a b : Nat} {trap : Trap} :
    Word.mul a b = .error trap ↔ limit ≤ a * b ∧ trap = .multiplyOverflow := by
  rw [mul]
  by_cases h : a * b < limit
  · simp [h, Nat.not_le.mpr h]
  · simp [h, Nat.le_of_not_lt h, eq_comm]

namespace Shape

/-- The operations of one pass, as an exact number: two for each multiply-accumulate. -/
def exactFlops (s : Shape) : Nat :=
  2 * s.batch * s.outChannels * s.extent * s.extent * s.inChannels * s.kernelSize * s.kernelSize

variable {s : Shape}

theorem exactFlops_eq (s : Shape) :
    2 * s.batch * s.outChannels * s.extent * s.extent *
      (s.inChannels * s.kernelSize * s.kernelSize) = s.exactFlops := by
  simp only [exactFlops, Nat.mul_assoc]

/-! ### The ends of the count -/

/-- The factors are positive, so every partial product is at most the whole one. -/
theorem Valid.flops_eq (h : s.Valid) (hword : s.exactFlops < Word.limit) :
    s.flops = .ok s.exactFlops := by
  have htaps : 0 < s.inChannels * s.kernelSize * s.kernelSize :=
    Nat.mul_pos (Nat.mul_pos h.inChannels_pos h.kernelSize_pos) h.kernelSize_pos
  have hmaps : 0 < 2 * s.batch * s.outChannels :=
    Nat.mul_pos (Nat.mul_pos (by decide) h.batch_pos) h.outChannels_pos
  have houtputs : 0 < 2 * s.batch * s.outChannels * s.extent * s.extent :=
    Nat.mul_pos (Nat.mul_pos hmaps s.extent_pos) s.extent_pos
  have hwhole := hword
  rw [← exactFlops_eq] at hwhole
  have houtputs_word : 2 * s.batch * s.outChannels * s.extent * s.extent < Word.limit :=
    Nat.lt_of_le_of_lt (Nat.le_mul_of_pos_right _ htaps) hwhole
  have hrows_word : 2 * s.batch * s.outChannels * s.extent < Word.limit :=
    Nat.lt_of_le_of_lt (Nat.le_mul_of_pos_right _ s.extent_pos) houtputs_word
  have hmaps_word : 2 * s.batch * s.outChannels < Word.limit :=
    Nat.lt_of_le_of_lt (Nat.le_mul_of_pos_right _ s.extent_pos) hrows_word
  have hbatch_word : 2 * s.batch < Word.limit :=
    Nat.lt_of_le_of_lt (Nat.le_mul_of_pos_right _ h.outChannels_pos) hmaps_word
  have htaps_word : s.inChannels * s.kernelSize * s.kernelSize < Word.limit :=
    Nat.lt_of_le_of_lt (Nat.le_mul_of_pos_left _ houtputs) hwhole
  have hline_word : s.inChannels * s.kernelSize < Word.limit :=
    Nat.lt_of_le_of_lt (Nat.le_mul_of_pos_right _ h.kernelSize_pos) htaps_word
  simp [flops, h.outDim_eq, Word.mul_of_lt hline_word, Word.mul_of_lt htaps_word,
    Word.mul_of_lt hbatch_word, Word.mul_of_lt hmaps_word, Word.mul_of_lt hrows_word,
    Word.mul_of_lt houtputs_word, Word.mul_of_lt hwhole, exactFlops_eq]

theorem flops_eq_ok_iff {n : Nat} :
    s.flops = .ok n ↔ s.Valid ∧ s.exactFlops < Word.limit ∧ n = s.exactFlops := by
  constructor
  · intro hn
    simp only [flops, bind_eq_ok_iff, outDim_eq_ok_iff, Attempt.liftM_eq,
      Attempt.ofChecked_eq_ok_iff, Word.mul_eq_ok_iff] at hn
    obtain ⟨_, ⟨hvalid, rfl⟩, _, ⟨-, rfl⟩, _, ⟨-, rfl⟩, _, ⟨-, rfl⟩, _, ⟨-, rfl⟩, _, ⟨-, rfl⟩, _,
      ⟨-, rfl⟩, hword, rfl⟩ := hn
    rw [exactFlops_eq] at hword
    exact ⟨hvalid, hword, exactFlops_eq s⟩
  · rintro ⟨h, hword, rfl⟩
    exact h.flops_eq hword

/-- The count has no errors but those of the output extent. -/
theorem flops_eq_error_iff {e : ShapeError} :
    s.flops = .error (.error e) ↔ s.outDim = .error (.error e) := by
  simp only [flops, bind_eq_error_iff, Attempt.liftM_eq, Attempt.ofChecked_ne_error, and_false,
    exists_false, or_false]

theorem trap_of_flops {trap : Trap} (htrap : s.flops = .error (.trap trap)) :
    trap = .multiplyOverflow := by
  simp only [flops, bind_eq_error_iff, outDim_ne_trap, false_or, Attempt.liftM_eq,
    Attempt.ofChecked_eq_trap_iff, Word.mul_eq_error_iff] at htrap
  obtain ⟨_, -, ⟨-, hline⟩ | ⟨_, -, ⟨-, htaps⟩ | ⟨_, -, ⟨-, hbatch⟩ | ⟨_, -, ⟨-, hmaps⟩ |
    ⟨_, -, ⟨-, hrows⟩ | ⟨_, -, ⟨-, houtputs⟩ | ⟨_, -, -, hwhole⟩⟩⟩⟩⟩⟩⟩ := htrap
  · exact hline
  · exact htaps
  · exact hbatch
  · exact hmaps
  · exact hrows
  · exact houtputs
  · exact hwhole

theorem exists_flops_eq_error_iff : (∃ e, s.flops = .error (.error e)) ↔ ¬ s.Valid := by
  simp only [flops_eq_error_iff]
  constructor
  · rintro ⟨e, he⟩ h
    rw [h.outDim_eq] at he
    cases he
  · intro h
    rcases hout : s.outDim with (trap | e) | n
    · exact absurd hout (s.outDim_ne_trap trap)
    · exact ⟨e, rfl⟩
    · exact absurd (outDim_eq_ok_iff.mp hout).1 h

theorem flops_eq_trap_iff {trap : Trap} :
    s.flops = .error (.trap trap) ↔
      s.Valid ∧ Word.limit ≤ s.exactFlops ∧ trap = .multiplyOverflow := by
  constructor
  · intro htrap
    have h : s.Valid := by
      apply Classical.byContradiction
      intro h
      obtain ⟨e, he⟩ := exists_flops_eq_error_iff.mpr h
      rw [he] at htrap
      cases htrap
    refine ⟨h, ?_, trap_of_flops htrap⟩
    apply Nat.le_of_not_lt
    intro hword
    rw [h.flops_eq hword] at htrap
    cases htrap
  · rintro ⟨h, hlimit, rfl⟩
    rcases hflops : s.flops with (trap | e) | n
    · rw [trap_of_flops hflops]
    · exact absurd h (exists_flops_eq_error_iff.mp ⟨e, hflops⟩)
    · exact absurd (flops_eq_ok_iff.mp hflops).2.1 (Nat.not_lt.mpr hlimit)

end Shape

/-! ### The preparation of a trial -/

namespace Trial

variable [Processor] {kind : Kind} {s : Shape} {options : Options} {p : Problem Float32}

/-- A built problem whose operations can be counted is prepared, or rejected by its kernel. -/
theorem prepare_of_countable (hp : Problem.build s options = .ok p)
    (hword : s.exactFlops < Word.limit) :
    (∃ trial, prepare kind s options = .ok trial) ∨
      ∃ e, prepare kind s options = .error (.error e) ∧ e.isRecoverable = true := by
  have huntrapped : s.Untrapped options :=
    Shape.untrapped_of_roomy (Problem.build_eq_ok_iff.mp hp).2.1
      ((Problem.build_eq_ok_iff.mp hp).1.flops_eq hword)
  rcases hprepare : prepare kind s options with (trap | e) | trial
  · exact absurd hprepare (prepare_ne_trap huntrapped trap)
  · exact .inr ⟨e, rfl, isRecoverable_of_prepare hprepare⟩
  · exact .inl ⟨trial, rfl⟩

/-- The operations are counted before a kernel is asked, so no kernel can reject the problem. -/
theorem prepare_of_overflow (hp : Problem.build s options = .ok p)
    (hlimit : Word.limit ≤ s.exactFlops) (kind : Kind) :
    prepare kind s options = .error (.trap .multiplyOverflow) := by
  have hflops : s.flops = .error (.trap .multiplyOverflow) :=
    Shape.flops_eq_trap_iff.mpr ⟨(Problem.build_eq_ok_iff.mp hp).1.toValid, hlimit, rfl⟩
  rw [prepare, hp, ok_bind, hflops]
  rfl

end Trial

/-! ### The run -/

namespace Suite

variable [Processor] {τ : Type} {options : Options} {c : Kind × Entry} {trap : Trap}

theorem assess_eq_trap {s : Shape} (hshape : c.2.toShape = .ok s)
    (htrap : Trial.prepare c.1 s options = .error (.trap trap)) :
    assess options c = .error (.trap trap) := by
  rw [assess, hshape]
  exact htrap

/-- A trap in the preparation of a configuration is the answer of the run, whatever comes after. -/
theorem runEach_of_trap (htrap : assess options c = .error (.trap trap))
    (timer : Timer (StateM τ)) (rest : List (Kind × Entry)) (summary : Summary) (t : τ) :
    ∃ lines, Records (runEach timer options (c :: rest) summary : Recorded τ _) t lines
      (.error (.trap trap)) t := by
  obtain ⟨lines, hprepare⟩ := prepare_records options c t
  rw [htrap] at hprepare
  have hconfiguration : Records (runConfiguration timer options c.1 c.2 : Recorded τ _) t
      (lines ++ []) (.aborted (.trap trap)) t :=
    Records.bind hprepare (Records.pure _ t)
  exact ⟨_, Records.bind hconfiguration (Records.pure _ t)⟩

end Suite

/-- What becomes of the count for a problem that can be built.  If the exact number is a word, it is
the count, and a preparation gives a trial or an error that concerns its own configuration only.  If
it is no word, the count is a trap, and so are the preparation for either kernel and the run that
comes to such a configuration. -/
theorem Problem.flops_ends [Processor] {s : Shape} {options : Options} {p : Problem Float32}
    (hp : Problem.build s options = .ok p) :
    (s.exactFlops < Word.limit →
      s.flops = .ok s.exactFlops ∧
        ∀ kind, (∃ trial, Trial.prepare kind s options = .ok trial) ∨
          ∃ e, Trial.prepare kind s options = .error (.error e) ∧ e.isRecoverable = true) ∧
      (Word.limit ≤ s.exactFlops →
        s.flops = .error (.trap .multiplyOverflow) ∧
          (∀ kind, Trial.prepare kind s options = .error (.trap .multiplyOverflow)) ∧
          ∀ (kind : Kind) (entry : Entry), entry.toShape = .ok s →
            ∀ {τ : Type} (timer : Timer (StateM τ)) rest summary session t, ∃ session',
              ((Suite.runEach timer options ((kind, entry) :: rest) summary :
                Recorded τ _).run session).run t =
                  ((.error (.trap .multiplyOverflow), session'), t)) := by
  have hvalid : s.Valid := (build_eq_ok_iff.mp hp).1.toValid
  constructor
  · intro hword
    exact ⟨hvalid.flops_eq hword, fun kind => Trial.prepare_of_countable hp hword⟩
  · intro hlimit
    refine ⟨Shape.flops_eq_trap_iff.mpr ⟨hvalid, hlimit, rfl⟩, Trial.prepare_of_overflow hp hlimit,
      ?_⟩
    intro kind entry hentry τ timer rest summary session t
    have htrap : Suite.assess options (kind, entry) = .error (.trap .multiplyOverflow) :=
      Suite.assess_eq_trap hentry (Trial.prepare_of_overflow hp hlimit kind)
    obtain ⟨lines, hrun⟩ := Suite.runEach_of_trap htrap timer rest summary t
    exact ⟨_, hrun session⟩

/-- A single pixel under a kernel of `2 ^ 16` rows, with as many rows of output. -/
def Shape.overlaid : Shape where
  batch := 1
  inDim := 1
  inChannels := 1
  outChannels := 1
  kernelSize := 0x10000
  padding := 0xffff
  stride := 1

theorem Problem.build_overlaid :
    Problem.build Shape.overlaid {} = .ok (Problem.filled Shape.overlaid {}) := by
  have hshape : Shape.overlaid.Buildable :=
    ⟨by constructor <;> decide, by decide, by decide, by decide⟩
  exact build_eq_ok_iff.mpr ⟨hshape, ⟨by decide, by decide, by decide⟩, rfl⟩

section

attribute [local instance] Processor.vector

theorem Problem.flops_ends_overlaid :
    Word.limit ≤ Shape.overlaid.exactFlops ∧
      Trial.prepare .candidate Shape.overlaid {} = .error (.trap .multiplyOverflow) ∧
      ∃ session', ((Suite.runEach (Timer.withheld 0 : Timer (StateM Unit)) {}
        [(.candidate, ⟨1, 1, 1, 1, 0x10000, 0xffff, 1⟩), (.candidate, ⟨1, 2, 1, 1, 1, 0, 1⟩)] {} :
          Recorded Unit _).run {}).run () =
            ((.error (.trap .multiplyOverflow), session'), ()) := by
  have hlimit : Word.limit ≤ Shape.overlaid.exactFlops := by decide
  obtain ⟨-, hprepare, hrun⟩ := (flops_ends build_overlaid).2 hlimit
  exact ⟨hlimit, hprepare .candidate, hrun .candidate _ rfl _ _ _ _ _⟩

/-- The buffers of the overlaid pixel have no more than `2 ^ 32` elements each, and it is built.
Its operations are `2 ^ 65`, and neither their count nor a trial is to be had. -/
theorem Problem.flops_overlaid :
    (∃ p, Problem.build Shape.overlaid {} = .ok p) ∧
      Shape.overlaid.exactFlops = 36893488147419103232 ∧
      Shape.overlaid.flops = .error (.trap .multiplyOverflow) ∧
      Trial.prepare .reference Shape.overlaid {} = .error (.trap .multiplyOverflow) := by
  have hlimit : Word.limit ≤ Shape.overlaid.exactFlops := by decide
  have hvalid : Shape.overlaid.Valid := by
    constructor <;> decide
  exact ⟨⟨_, build_overlaid⟩, by decide, Shape.flops_eq_trap_iff.mpr ⟨hvalid, hlimit, rfl⟩,
    Trial.prepare_of_overflow build_overlaid hlimit .reference⟩

end

end ConvLab
