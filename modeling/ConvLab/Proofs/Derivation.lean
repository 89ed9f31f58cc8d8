import ConvLab.Proofs.Building
import Mathlib.Data.Set.Card

/-!
# What a shape implies

The output extent of a shape counts the positions at which the kernel lies inside the padded input.
Whoever makes a problem of the shape gets that extent and buffers of just the implied lengths, and
buffers of other lengths are refused with the first that differs.

* `Shape.IsWindowCount` — the positions of the kernel along an axis;
* `Shape.Valid.isWindowCount_extent` — the floor formula counts them;
* `Shape.outDim_eq_error_iff` — a shape without output fails its validation;
* `Problem.FirstMismatch`, `Problem.ofBuffers_eq_error_iff` — buffers of other lengths;
* `Shape.derivation_exact` — all of them together.
-/

namespace ConvLab

namespace Shape

/-! ### Positions of the kernel -/

/-- At `n` positions the kernel lies inside the padded input; the last of them is `n - 1`. -/
structure IsWindowCount (s : Shape) (n : Nat) : Prop where
  count_eq : {y | y * s.stride + s.kernelSize ≤ s.inDim + 2 * s.padding}.ncard = n
  pos : 1 ≤ n
  last_inside : (n - 1) * s.stride + s.kernelSize ≤ s.inDim + 2 * s.padding
  next_outside : s.inDim + 2 * s.padding < n * s.stride + s.kernelSize

/-- The kernel lies inside the padded input at the positions below the output extent. -/
theorem Valid.inside_iff {s : Shape} (h : s.Valid) (y : Nat) :
    y * s.stride + s.kernelSize ≤ s.inDim + 2 * s.padding ↔ y < s.extent := by
  have hfits := h.kernel_fits
  rw [extent, Nat.lt_succ_iff, Nat.le_div_iff_mul_le h.stride_pos]
  omega

theorem Valid.isWindowCount_extent {s : Shape} (h : s.Valid) : s.IsWindowCount s.extent where
  count_eq := by
    have hpositions : {y | y * s.stride + s.kernelSize ≤ s.inDim + 2 * s.padding} =
        (Finset.range s.extent : Set Nat) := by
      ext y
      rw [Set.mem_ofPred_eq, h.inside_iff, Finset.mem_coe, Finset.mem_range]
    rw [hpositions, Set.ncard_coe_finset, Finset.card_range]
  pos := s.extent_pos
  last_inside := (h.inside_iff _).mpr (Nat.sub_one_lt_of_lt s.extent_pos)
  next_outside := Nat.lt_of_not_le (mt (h.inside_iff _).mp (Nat.lt_irrefl _))

/-- Behind its validation nothing stands in the way of an output extent. -/
theorem outDim_eq_error_iff {s : Shape} {e : ShapeError} :
    s.outDim = .error (.error e) ↔ s.validate = .error e := by
  cases hvalidate : s.validate with
  | ok u =>
      rw [(validate_eq_ok_iff.mp hvalidate).outDim_eq]
      constructor
      · nofun
      · nofun
  | error cause =>
      rw [outDim, hvalidate, Attempt.ofExcept_error, error_bind]
      simp

end Shape

/-! ### Given buffers -/

namespace Problem

variable {α : Type}

/-- The first of source, weights and bias whose length is not the implied one. -/
inductive FirstMismatch (s : Shape) (src weights bias : Nat) : ShapeError → Prop where
  | source (hsrc : src ≠ s.exactSizes.src) :
      FirstMismatch s src weights bias (.lengthMismatch "source" s.exactSizes.src src)
  | weights (hsrc : src = s.exactSizes.src) (hweights : weights ≠ s.exactSizes.weights) :
      FirstMismatch s src weights bias (.lengthMismatch "weights" s.exactSizes.weights weights)
  | bias (hsrc : src = s.exactSizes.src) (hweights : weights = s.exactSizes.weights)
      (hbias : bias ≠ s.exactSizes.bias) :
      FirstMismatch s src weights bias (.lengthMismatch "bias" s.exactSizes.bias bias)

theorem FirstMismatch.mismatch?_eq {s : Shape} {src weights bias : Buffer α} {e : ShapeError}
    (he : FirstMismatch s src.size weights.size bias.size e) :
    mismatch? s.exactSizes src weights bias = some e := by
  cases he with
  | source hsrc => simp [mismatch?, Ne.symm hsrc]
  | weights hsrc hweights => simp [mismatch?, hsrc, Ne.symm hweights]
  | bias hsrc hweights hbias => simp [mismatch?, hsrc, hweights, Ne.symm hbias]

theorem mismatch?_eq_some_iff {s : Shape} {src weights bias : Buffer α} {e : ShapeError} :
    mismatch? s.exactSizes src weights bias = some e ↔
      FirstMismatch s src.size weights.size bias.size e := by
  constructor
  · intro he
    have hfirst : ∃ cause, FirstMismatch s src.size weights.size bias.size cause := by
      by_cases hsrc : src.size = s.exactSizes.src
      · by_cases hweights : weights.size = s.exactSizes.weights
        · have hbias : bias.size ≠ s.exactSizes.bias := by
            intro hbias
            rw [mismatch?_eq_none_iff.mpr ⟨hsrc.symm, hweights.symm, hbias.symm⟩] at he
            cases he
          exact ⟨_, .bias hsrc hweights hbias⟩
        · exact ⟨_, .weights hsrc hweights⟩
      · exact ⟨_, .source hsrc⟩
    obtain ⟨cause, hcause⟩ := hfirst
    rw [hcause.mismatch?_eq, Option.some.injEq] at he
    exact he ▸ hcause
  · exact FirstMismatch.mismatch?_eq

variable [Element α] {s : Shape} {scale : α} {src weights bias : Buffer α}

/-- Where the shape has buffers, the first mismatch is the only error. -/
theorem ofBuffers_eq_error_iff (hshape : s.Buildable) {e : KernelError} :
    ofBuffers s scale src weights bias = .error (.error e) ↔
      ∃ cause, FirstMismatch s src.size weights.size bias.size cause ∧ e = .invalidShape cause := by
  have hsizes : s.sizes.onShape = .ok s.exactSizes := by
    rw [Shape.sizes_eq_ok_iff.mpr ⟨hshape, rfl⟩]
    rfl
  rw [ofBuffers, hsizes, ok_bind]
  cases hmismatch : mismatch? s.exactSizes src weights bias with
  | some cause =>
      constructor
      · intro he
        cases he
        exact ⟨cause, mismatch?_eq_some_iff.mp hmismatch, rfl⟩
      · rintro ⟨cause', hcause', rfl⟩
        rw [hcause'.mismatch?_eq, Option.some.injEq] at hmismatch
        rw [hmismatch]
        rfl
  | none =>
      -- what is left is the allocation of the destination, which traps or succeeds
      constructor
      · intro he
        simp only [Attempt.liftM_eq, bind_eq_error_iff, Attempt.ofChecked_ne_error, false_or] at he
        obtain ⟨dst, -, hdst⟩ := he
        cases hdst
      · rintro ⟨cause, hcause, -⟩
        rw [hcause.mismatch?_eq] at hmismatch
        cases hmismatch

end Problem

namespace Shape

/-- A shape has an output extent just if it is valid, and then it is the number of its windows. -/
theorem outDim_eq_ok_iff_isWindowCount {s : Shape} {n : Nat} :
    s.outDim = .ok n ↔ s.Valid ∧ s.IsWindowCount n := by
  rw [outDim_eq_ok_iff]
  constructor
  · rintro ⟨h, rfl⟩
    exact ⟨h, h.isWindowCount_extent⟩
  · rintro ⟨h, hn⟩
    exact ⟨h, hn.count_eq.symm.trans h.isWindowCount_extent.count_eq⟩

/-- What a shape implies is exact for all parameters.  The validation has no traps and passes just
the valid shapes; the output extent never traps either, fails with the error of the validation and
otherwise is the number of windows.  A problem has that extent and the implied buffer lengths,
however it was made, and given buffers of other lengths are refused with the first that differs. -/
theorem derivation_exact (s : Shape) :
    (∀ trap, s.outDim ≠ .error (.trap trap)) ∧
      (∀ e, s.outDim = .error (.error e) ↔ s.validate = .error e) ∧
      (s.validate = .ok () ↔ s.Valid) ∧
      (∀ n, s.outDim = .ok n ↔ s.Valid ∧ s.IsWindowCount n) ∧
      (∀ p : Problem Float32,
        ((∃ options, Problem.build s options = .ok p) ∨
          ∃ scale src weights bias, Problem.ofBuffers s scale src weights bias = .ok p) →
        s.outDim = .ok p.outDim ∧
          p.memory.src.size = s.batch * s.inChannels * s.inDim * s.inDim ∧
          p.memory.weights.size = s.outChannels * s.inChannels * s.kernelSize * s.kernelSize ∧
          p.memory.bias.size = s.outChannels ∧
          p.memory.dst.size = s.batch * s.outChannels * p.outDim * p.outDim) ∧
      ∀ sizes, s.sizes = .ok sizes → ∀ (scale : Float32) (src weights bias : Buffer Float32) e,
        Problem.ofBuffers s scale src weights bias = .error (.error e) ↔
          ∃ cause, Problem.FirstMismatch s src.size weights.size bias.size cause ∧
            e = .invalidShape cause := by
  refine ⟨s.outDim_ne_trap, fun _ => outDim_eq_error_iff, validate_eq_ok_iff,
    fun _ => outDim_eq_ok_iff_isWindowCount, ?_, ?_⟩
  · intro p hp
    obtain ⟨hbuilt, rfl⟩ := Problem.made_of_shape hp
    rw [hbuilt.outDim_eq]
    exact ⟨hbuilt.shape.outDim_eq, hbuilt.src_size, hbuilt.weights_size, hbuilt.bias_size,
      hbuilt.dst_size⟩
  · intro sizes hsizes scale src weights bias e
    exact Problem.ofBuffers_eq_error_iff (sizes_eq_ok_iff.mp hsizes).1

/-- A pixel in so wide a border that the padded input is the largest word, and strides that take the
kernel across it in three steps. -/
def brink : Shape where
  batch := 1
  inDim := 1
  inChannels := 1
  outChannels := 2
  kernelSize := 2
  padding := 0x7fffffffffffffff
  stride := 0x4000000000000000

theorem derivation_exact_brink :
    ∃ p, Problem.build brink {} = .ok p ∧ p.outDim = 4 ∧ p.memory.dst.size = 32 ∧
      brink.IsWindowCount 4 ∧
      Problem.ofBuffers brink (1 : Float32) (.tabulate 1 fun _ => 0) (.tabulate 7 fun _ => 0)
        (.tabulate 5 fun _ => 0) =
          .error (.error (.invalidShape (.lengthMismatch "weights" 8 7))) := by
  have hshape : brink.Buildable := ⟨by constructor <;> decide, by decide, by decide, by decide⟩
  have hp : Problem.build brink {} = .ok (Problem.filled brink {}) :=
    Problem.build_eq_ok_iff.mpr ⟨hshape, ⟨by decide, by decide, by decide⟩, rfl⟩
  obtain ⟨-, -, -, hextent, hmade, hrefused⟩ := derivation_exact brink
  obtain ⟨houtDim, -, -, -, hdst⟩ := hmade _ (.inl ⟨{}, hp⟩)
  refine ⟨_, hp, rfl, hdst, ((hextent _).mp houtDim).2, ?_⟩
  exact (hrefused _ (sizes_eq_ok_iff.mpr ⟨hshape, rfl⟩) _ _ _ _ _).mpr
    ⟨_, .weights rfl (by decide), rfl⟩

end Shape

end ConvLab
