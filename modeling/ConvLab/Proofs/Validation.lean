import ConvLab.Proofs.Descriptor

/-!
# The ends of a validation

A descriptor is accepted or reported, whatever its numbers are.  The output extents are computed in
the middle of the validation without a check of their own; the checks made before them are just
enough for that.  Once a descriptor is accepted, every size is the exact number, in whatever order
and grouping it is multiplied up, and so is the scratch of every planned operator.

* `Descriptor.validate_ne_trap` — a validation never traps;
* `Descriptor.exists_validate_eq_error_iff` — what is not valid is reported;
* `Descriptor.scratchOf`, `Descriptor.Valid.scratchLen_of_mem` — the scratch of an operator;
* `Descriptor.validate_ends` — the ends of a validation, and what holds after it.
-/

namespace ConvLab

namespace Descriptor

/-! ### Reports -/

/-- The output extents are asked for only where both axes have passed their check. -/
theorem validate_ne_trap (d : Descriptor) (trap : Trap) : d.validate ≠ .error (.trap trap) := by
  intro htrap
  cases hfind : d.positives.find? (·.2 = 0) with
  | some field => simp [validate, hfind] at htrap
  | none =>
      obtain ⟨-, -, -, -, -, hkh, hkw, hsh, hsw⟩ := positives_find?_eq_none_iff.mp hfind
      simp only [validate, hfind, bind_eq_error_iff, Attempt.liftM_eq, Attempt.ofExcept_ne_trap,
        Attempt.ofExcept_eq_ok_iff, Attempt.ofChecked_eq_trap_iff, false_or] at htrap
      obtain ⟨_, hheight, _, hwidth, houtH | ⟨_, -, houtW | ⟨_, -, hsizes⟩⟩⟩ := htrap
      · rw [outH, outExtent_of_axis hkh hsh hheight] at houtH
        cases houtH
      · rw [outW, outExtent_of_axis hkw hsw hwidth] at houtW
        cases houtW
      · obtain ⟨_, -, _, -, _, -, _, -, _, -, _, -, hdone⟩ := hsizes
        cases hdone

/-- A descriptor that is not valid is an error of its own, and there is no other error. -/
theorem exists_validate_eq_error_iff {d : Descriptor} :
    (∃ e, d.validate = .error (.error e)) ↔ ¬ d.Valid := by
  constructor
  · rintro ⟨e, he⟩ h
    rw [h.validate_eq] at he
    cases he
  · intro h
    cases hvalidate : d.validate with
    | ok u => exact absurd (valid_of_validate hvalidate) h
    | error failure =>
        cases failure with
        | trap trap => exact absurd hvalidate (d.validate_ne_trap trap)
        | error e => exact ⟨e, rfl⟩

/-! ### Sizes -/

/-- Scratch elements that an operator needs, as an exact number: the unfolding needs room for the
receptive fields of an image. -/
def scratchOf (d : Descriptor) : Operator → Nat
  | .unfold _ => d.pixels * d.patchSize
  | .gemm _ => 0
  | .postOp _ _ => 0

theorem Valid.scratchLen_of_mem {d : Descriptor} (h : d.Valid) {kernel : DotKernel}
    {op : Operator} (hop : op ∈ d.operators kernel) : op.scratchLen = .ok (d.scratchOf op) := by
  cases op with
  | unfold u =>
      -- the only unfolding of the plan is that of the descriptor
      have hu : u = d.unfolding := by
        rw [operators, sumOperators] at hop
        split at hop
        · simp at hop
        · simpa using hop
      rw [hu]
      exact h.scratchLen_unfolding
  | gemm g => rfl
  | postOp op count => rfl

/-- The ends of a validation.  It never traps: a descriptor is accepted just if its extents and
strides are positive, the kernel fits and the exact sizes are words, and it is reported otherwise.
After it has been accepted no step of any size leaves the word range or divides by zero, and
each gives the exact number. -/
theorem validate_ends (d : Descriptor) :
    (∀ trap, d.validate ≠ .error (.trap trap)) ∧
      (d.validate = .ok () ↔ d.Valid) ∧
      ((∃ e, d.validate = .error (.error e)) ↔ ¬ d.Valid) ∧
      (d.validate = .ok () →
        d.outH = .ok d.outHeight ∧ d.outW = .ok d.outWidth ∧
        d.patchLen = .ok d.patchSize ∧
        d.srcImageLen = .ok d.srcImage ∧ d.dstImageLen = .ok d.dstImage ∧
        d.srcLen = .ok (d.batch * d.srcImage) ∧
        d.weightsLen = .ok (d.outChannels * d.patchSize) ∧
        d.dstLen = .ok (d.batch * d.dstImage) ∧
        ∀ kernel, ∃ ops, Operator.plan d kernel = .ok ops ∧
          ∀ op ∈ ops, op.scratchLen = .ok (d.scratchOf op)) := by
  refine ⟨d.validate_ne_trap, validate_eq_ok_iff, exists_validate_eq_error_iff, ?_⟩
  intro hvalidate
  have h := valid_of_validate hvalidate
  exact ⟨h.outH_eq, h.outW_eq, h.patchLen_eq, h.srcImageLen_eq, h.dstImageLen_eq, h.srcLen_eq,
    h.weightsLen_eq, h.dstLen_eq, fun kernel => ⟨d.operators kernel, h.plan_eq kernel,
      fun _ hop => h.scratchLen_of_mem hop⟩⟩

/-- A descriptor with no room left: the padded height, the weights of a channel and the receptive
fields are all the largest word. -/
def brim : Descriptor where
  batch := 1
  inChannels := 1
  inH := 1
  inW := 1
  outChannels := 1
  kernelH := 0xffffffffffffffff
  kernelW := 1
  padH := 0x7fffffffffffffff
  padW := 0
  strideH := 0xffffffffffffffff
  strideW := 1
  postOps := [.relu]

theorem validate_ends_brim :
    brim.validate = .ok () ∧ brim.outH = .ok 1 ∧ brim.weightsLen = .ok 0xffffffffffffffff ∧
      ∃ ops, Operator.plan brim .avx2Fma = .ok ops ∧
        .unfold brim.unfolding ∈ ops ∧ ∀ op ∈ ops, op.scratchLen = .ok (brim.scratchOf op) := by
  have hvalid : brim.Valid := by
    constructor <;> decide
  have hvalidate := (validate_ends brim).2.1.mpr hvalid
  obtain ⟨houtH, -, -, -, -, -, hweights, -, hplans⟩ := (validate_ends brim).2.2.2 hvalidate
  obtain ⟨ops, hplan, hscratch⟩ := hplans .avx2Fma
  have hops : ops = brim.operators .avx2Fma := by
    rw [hvalid.plan_eq, Except.ok.injEq] at hplan
    exact hplan.symm
  have hunfolding : .unfold brim.unfolding ∈ ops := by
    rw [hops]
    exact List.mem_cons_self
  exact ⟨hvalidate, houtH, hweights, ops, hplan, hunfolding, hscratch⟩

end Descriptor

end ConvLab
