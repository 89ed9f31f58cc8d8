import ConvLab.Problem
import ConvLab.Proofs.Descriptor

/-!
# The sizes of a problem

The checks made on a shape leave exact sizes: the output extent of the floor formula, and buffers
that have just as many elements as the products of the extents say.

* `Shape.Valid`, `Shape.outDim_eq_ok_iff` — the shapes with an output;
* `Shape.Buildable`, `Shape.sizes_eq_ok_iff` — the shapes with buffers;
* `Problem.Built` — the sizes of a problem, however it was made;
* `Problem.built_of_build`, `Problem.built_of_ofBuffers` — the two ways to make one.
-/

namespace ConvLab

namespace Shape

/-! ### Shapes -/

/-- Height and width of the output, as an exact number. -/
def extent (s : Shape) : Nat := (s.inDim + 2 * s.padding - s.kernelSize) / s.stride + 1

/-- The extents are positive and the kernel fits the padded input, which is a word. -/
structure Valid (s : Shape) : Prop where
  batch_pos : 0 < s.batch
  inDim_pos : 0 < s.inDim
  inChannels_pos : 0 < s.inChannels
  outChannels_pos : 0 < s.outChannels
  kernelSize_pos : 0 < s.kernelSize
  stride_pos : 0 < s.stride
  padded_word : s.padding * 2 + s.inDim < Word.limit
  kernel_fits : s.kernelSize ≤ s.padding * 2 + s.inDim

theorem paddedExtent_eq_ok_iff {s : Shape} {n : Nat} :
    s.paddedExtent = .ok n ↔
      s.padding * 2 + s.inDim < Word.limit ∧ n = s.padding * 2 + s.inDim := by
  rw [← Word.padded?_eq_some_iff, paddedExtent]
  cases Word.padded? s.inDim s.padding with
  | none => simp
  | some n => simp

theorem validate_eq_ok_iff {s : Shape} {u : Unit} : s.validate = .ok u ↔ s.Valid := by
  have hpositives : s.positives.find? (·.2 = 0) = none ↔
      0 < s.batch ∧ 0 < s.inDim ∧ 0 < s.inChannels ∧ 0 < s.outChannels ∧ 0 < s.kernelSize ∧
        0 < s.stride := by
    simp [positives, List.find?_eq_none, Nat.pos_iff_ne_zero]
  rw [validate]
  cases hfind : s.positives.find? (·.2 = 0) with
  | some parameter =>
      constructor
      · intro hv
        cases hv
      · intro h
        rw [hpositives.mpr ⟨h.batch_pos, h.inDim_pos, h.inChannels_pos, h.outChannels_pos,
          h.kernelSize_pos, h.stride_pos⟩] at hfind
        cases hfind
  | none =>
      obtain ⟨hn, hih, hic, hoc, hk, hs⟩ := hpositives.mp hfind
      simp only [bind_eq_ok_iff, paddedExtent_eq_ok_iff]
      constructor
      · rintro ⟨n, ⟨hword, rfl⟩, hv⟩
        split at hv
        · cases hv
        · rename_i hle
          exact ⟨hn, hih, hic, hoc, hk, hs, hword, Nat.le_of_not_lt hle⟩
      · intro h
        exact ⟨_, ⟨h.padded_word, rfl⟩, if_neg (Nat.not_lt_of_le h.kernel_fits)⟩

theorem Valid.outDim_eq {s : Shape} (h : s.Valid) : s.outDim = .ok s.extent := by
  have hvalid : s.validate = .ok () := validate_eq_ok_iff.mpr h
  have hpadded : s.paddedExtent = .ok (s.padding * 2 + s.inDim) :=
    paddedExtent_eq_ok_iff.mpr ⟨h.padded_word, rfl⟩
  have hsum : s.padding * 2 + s.inDim = s.inDim + 2 * s.padding := by omega
  have hword := h.padded_word
  have hfits := h.kernel_fits
  have hkernel := h.kernelSize_pos
  have hstride := h.stride_pos
  have hsteps := Nat.div_le_self (s.inDim + 2 * s.padding - s.kernelSize) s.stride
  have hspan : Word.sub (s.padding * 2 + s.inDim) s.kernelSize =
      .ok (s.inDim + 2 * s.padding - s.kernelSize) := by
    rw [Word.sub_of_le hfits, hsum]
  have hdiv : Word.div (s.inDim + 2 * s.padding - s.kernelSize) s.stride = _ :=
    Word.div_of_ne (by omega)
  have hadd : Word.add ((s.inDim + 2 * s.padding - s.kernelSize) / s.stride) 1 = .ok s.extent :=
    Word.add_of_lt (by omega)
  simp [outDim, hvalid, hpadded, hspan, hdiv, hadd]

/-- A shape has an output extent just if it is valid, and then the exact one. -/
theorem outDim_eq_ok_iff {s : Shape} {n : Nat} : s.outDim = .ok n ↔ s.Valid ∧ n = s.extent := by
  constructor
  · intro hn
    have h : s.Valid := by
      simp only [outDim, bind_eq_ok_iff, Attempt.ofExcept_eq_ok_iff] at hn
      obtain ⟨_, hvalid, -⟩ := hn
      exact validate_eq_ok_iff.mp hvalid
    rw [h.outDim_eq, Except.ok.injEq] at hn
    exact ⟨h, hn.symm⟩
  · rintro ⟨h, rfl⟩
    exact h.outDim_eq

/-! ### Buffer lengths -/

def exactSizes (s : Shape) : Sizes where
  outDim := s.extent
  src := s.batch * s.inChannels * s.inDim * s.inDim
  weights := s.outChannels * s.inChannels * s.kernelSize * s.kernelSize
  bias := s.outChannels
  dst := s.batch * s.outChannels * s.extent * s.extent

/-- A valid shape whose buffer lengths are words. -/
structure Buildable (s : Shape) : Prop extends Valid s where
  src_word : s.exactSizes.src < Word.limit
  weights_word : s.exactSizes.weights < Word.limit
  dst_word : s.exactSizes.dst < Word.limit

theorem elementCount_eq_ok_iff {buffer : String} {a b c d n : Nat} (ha : 0 < a) (hb : 0 < b)
    (hc : 0 < c) (hd : 0 < d) :
    elementCount buffer [a, b, c, d] = .ok n ↔ a * b * c * d < Word.limit ∧ n = a * b * c * d := by
  have hproduct : Word.product? [a, b, c, d] = some n ↔ _ :=
    Word.product?_eq_some_iff (by simp [ha, hb, hc, hd])
  simp only [List.foldl_cons, List.foldl_nil, Nat.one_mul] at hproduct
  rw [← hproduct, elementCount]
  cases Word.product? [a, b, c, d] with
  | none => simp
  | some n => simp

theorem extent_pos (s : Shape) : 0 < s.extent := Nat.succ_pos _

/-- A shape implies buffer lengths just if it is buildable, and then the exact ones. -/
theorem sizes_eq_ok_iff {s : Shape} {sizes : Sizes} :
    s.sizes = .ok sizes ↔ s.Buildable ∧ sizes = s.exactSizes := by
  simp only [Shape.sizes, bind_eq_ok_iff, outDim_eq_ok_iff, Attempt.ofExcept_eq_ok_iff]
  constructor
  · rintro ⟨n, ⟨h, rfl⟩, src, hsrc, weights, hweights, dst, hdst, hsizes⟩
    rw [elementCount_eq_ok_iff h.batch_pos h.inChannels_pos h.inDim_pos h.inDim_pos] at hsrc
    rw [elementCount_eq_ok_iff h.outChannels_pos h.inChannels_pos h.kernelSize_pos
      h.kernelSize_pos] at hweights
    rw [elementCount_eq_ok_iff h.batch_pos h.outChannels_pos s.extent_pos s.extent_pos] at hdst
    obtain ⟨hsrc_word, rfl⟩ := hsrc
    obtain ⟨hweights_word, rfl⟩ := hweights
    obtain ⟨hdst_word, rfl⟩ := hdst
    cases hsizes
    exact ⟨⟨h, hsrc_word, hweights_word, hdst_word⟩, rfl⟩
  · rintro ⟨h, rfl⟩
    refine ⟨s.extent, ⟨h.toValid, rfl⟩, s.exactSizes.src, ?_, s.exactSizes.weights, ?_,
      s.exactSizes.dst, ?_, rfl⟩
    · exact (elementCount_eq_ok_iff h.batch_pos h.inChannels_pos h.inDim_pos h.inDim_pos).mpr
        ⟨h.src_word, rfl⟩
    · exact (elementCount_eq_ok_iff h.outChannels_pos h.inChannels_pos h.kernelSize_pos
        h.kernelSize_pos).mpr ⟨h.weights_word, rfl⟩
    · exact (elementCount_eq_ok_iff h.batch_pos h.outChannels_pos s.extent_pos s.extent_pos).mpr
        ⟨h.dst_word, rfl⟩

end Shape

/-! ### Problems -/

theorem Buffer.allocate_eq_ok_iff {α : Type} {n : Nat} {f : Nat → α} {b : Buffer α} :
    allocate n f = .ok b ↔ n < capacity ∧ b = tabulate n f := by
  rw [allocate]
  split
  · rename_i hn
    simp [hn, eq_comm]
  · rename_i hn
    simp [hn]

namespace Problem

variable {α : Type}

/-- The buffers of a problem have the exact lengths that its shape implies. -/
structure Built (p : Problem α) : Prop where
  shape : p.shape.Buildable
  outDim_eq : p.outDim = p.shape.extent
  src_size : p.memory.src.size = p.shape.exactSizes.src
  weights_size : p.memory.weights.size = p.shape.exactSizes.weights
  bias_size : p.memory.bias.size = p.shape.exactSizes.bias
  dst_size : p.memory.dst.size = p.shape.exactSizes.dst

theorem built_of_build {s : Shape} {options : Options} {p : Problem Float32}
    (hp : build s options = .ok p) : p.Built := by
  simp only [build, bind_eq_ok_iff, Attempt.onShape, Attempt.mapError_eq_ok_iff,
    Shape.sizes_eq_ok_iff, Attempt.liftM_eq, Attempt.ofChecked_eq_ok_iff,
    Buffer.allocate_eq_ok_iff] at hp
  obtain ⟨sizes, ⟨hshape, rfl⟩, src, ⟨-, rfl⟩, weights, ⟨-, rfl⟩, bias, ⟨-, rfl⟩, dst, ⟨-, rfl⟩,
    hp⟩ := hp
  cases hp
  exact ⟨hshape, rfl, rfl, rfl, rfl, rfl⟩

theorem mismatch?_eq_none_iff {sizes : Sizes} {src weights bias : Buffer α} :
    mismatch? sizes src weights bias = none ↔
      sizes.src = src.size ∧ sizes.weights = weights.size ∧ sizes.bias = bias.size := by
  simp [mismatch?, List.find?_eq_none]

variable [Element α]

/-- Given buffers make a problem just if they have the implied lengths and there is room for the
destination. -/
theorem ofBuffers_eq_ok_iff {s : Shape} {scale : α} {src weights bias : Buffer α}
    {p : Problem α} :
    ofBuffers s scale src weights bias = .ok p ↔
      s.Buildable ∧ src.size = s.exactSizes.src ∧ weights.size = s.exactSizes.weights ∧
        bias.size = s.exactSizes.bias ∧ s.exactSizes.dst < Buffer.capacity ∧
        p = { shape := s, outDim := s.extent, scale, memory := {
          src, weights, bias, dst := .tabulate s.exactSizes.dst fun _ => Element.zero } } := by
  simp only [ofBuffers, bind_eq_ok_iff, Attempt.onShape, Attempt.mapError_eq_ok_iff,
    Shape.sizes_eq_ok_iff]
  constructor
  · rintro ⟨sizes, ⟨hshape, rfl⟩, hp⟩
    cases hmismatch : mismatch? s.exactSizes src weights bias with
    | some e =>
        simp [hmismatch] at hp
    | none =>
        obtain ⟨hsrc, hweights, hbias⟩ := mismatch?_eq_none_iff.mp hmismatch
        simp only [hmismatch, Attempt.liftM_eq, bind_eq_ok_iff, Attempt.ofChecked_eq_ok_iff,
          Buffer.allocate_eq_ok_iff] at hp
        obtain ⟨dst, ⟨hroom, rfl⟩, hp⟩ := hp
        cases hp
        exact ⟨hshape, hsrc.symm, hweights.symm, hbias.symm, hroom, rfl⟩
  · rintro ⟨hshape, hsrc, hweights, hbias, hroom, rfl⟩
    have hmismatch : mismatch? s.exactSizes src weights bias = none :=
      mismatch?_eq_none_iff.mpr ⟨hsrc.symm, hweights.symm, hbias.symm⟩
    refine ⟨s.exactSizes, ⟨hshape, rfl⟩, ?_⟩
    simp only [hmismatch, Buffer.allocate, if_pos hroom]
    rfl

theorem built_of_ofBuffers {s : Shape} {scale : α} {src weights bias : Buffer α}
    {p : Problem α} (hp : ofBuffers s scale src weights bias = .ok p) : p.Built := by
  obtain ⟨hshape, hsrc, hweights, hbias, -, rfl⟩ := ofBuffers_eq_ok_iff.mp hp
  exact ⟨hshape, rfl, hsrc, hweights, hbias, rfl⟩

end Problem

end ConvLab
