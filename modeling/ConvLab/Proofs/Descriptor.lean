import ConvLab.Primitive.Basic
import ConvLab.Proofs.Checked

/-!
# Valid descriptors

A descriptor is valid if its extents are positive, the kernel fits, and its sizes as natural
numbers are words.  Validation accepts just the valid ones, and on them every size is the exact
product, whatever the order in which it is multiplied up.

* `Descriptor.Valid`, `Descriptor.validate_eq_ok_iff` — what validation accepts;
* `Descriptor.Valid.outH_eq` and its companions — the exact sizes;
* `Descriptor.operators`, `Descriptor.Valid.plan_eq` — the planned operators;
* `Primitive.create_eq_ok_iff` — the primitives that can be created.
-/

namespace ConvLab

/-! ### Products of positive extents -/

namespace Word

theorem mul?_eq_some_iff {a b c : Nat} : mul? a b = some c ↔ a * b < limit ∧ c = a * b := by
  unfold mul?
  split
  · simp_all [eq_comm]
  · simp
    omega

theorem le_foldl_mul {extents : List Nat} (hpos : ∀ n ∈ extents, 0 < n) (acc : Nat) :
    acc ≤ extents.foldl (· * ·) acc := by
  induction extents generalizing acc with
  | nil => exact Nat.le_refl acc
  | cons n ns ih =>
      have hn : 0 < n := hpos n List.mem_cons_self
      exact Nat.le_trans (Nat.le_mul_of_pos_right acc hn)
        (ih (fun m hm => hpos m (List.mem_cons_of_mem n hm)) (acc * n))

/-- With positive extents no partial product exceeds the whole one. -/
theorem foldlM_mul?_eq_some_iff {extents : List Nat} (hpos : ∀ n ∈ extents, 0 < n) {acc p : Nat}
    (hacc : acc < limit) : extents.foldlM mul? acc = some p ↔
      extents.foldl (· * ·) acc < limit ∧ p = extents.foldl (· * ·) acc := by
  induction extents generalizing acc with
  | nil => simp [hacc, eq_comm]
  | cons n ns ih =>
      have hns : ∀ m ∈ ns, 0 < m := fun m hm => hpos m (List.mem_cons_of_mem n hm)
      rw [List.foldlM_cons, List.foldl_cons]
      rcases Nat.lt_or_ge (acc * n) limit with hlt | hge
      · rw [mul?_eq_some_iff.mpr ⟨hlt, rfl⟩]
        exact ih hns hlt
      · have hle : acc * n ≤ ns.foldl (· * ·) (acc * n) := le_foldl_mul hns (acc * n)
        rw [mul?, if_neg (by omega)]
        simp
        omega

theorem product?_eq_some_iff {extents : List Nat} (hpos : ∀ n ∈ extents, 0 < n) {p : Nat} :
    product? extents = some p ↔
      extents.foldl (· * ·) 1 < limit ∧ p = extents.foldl (· * ·) 1 :=
  foldlM_mul?_eq_some_iff hpos (by decide)

theorem padded?_eq_some_iff {extent padding p : Nat} :
    padded? extent padding = some p ↔
      padding * 2 + extent < limit ∧ p = padding * 2 + extent := by
  unfold padded? mul? add?
  rcases Nat.lt_or_ge (padding * 2) limit with hlt | hge
  · rw [if_pos hlt]
    simp only [Option.bind_eq_bind, Option.bind_some]
    split
    · simp_all [eq_comm]
    · simp
      omega
  · rw [if_neg (by omega)]
    simp
    omega

end Word

namespace Descriptor

/-! ### Exact sizes -/

def outHeight (d : Descriptor) : Nat := (d.inH + 2 * d.padH - d.kernelH) / d.strideH + 1

def outWidth (d : Descriptor) : Nat := (d.inW + 2 * d.padW - d.kernelW) / d.strideW + 1

def pixels (d : Descriptor) : Nat := d.outHeight * d.outWidth

def patchSize (d : Descriptor) : Nat := d.inChannels * d.kernelH * d.kernelW

def srcImage (d : Descriptor) : Nat := d.inChannels * d.inH * d.inW

def dstImage (d : Descriptor) : Nat := d.outChannels * d.outHeight * d.outWidth

/-- Elements that the receptive fields of an image take up in the scratch. -/
def scratchSize (d : Descriptor) : Nat := if d.isPointwise then 0 else d.pixels * d.patchSize

/-- The extents are positive, the kernel fits, and every size is a word. -/
structure Valid (d : Descriptor) : Prop where
  batch_pos : 0 < d.batch
  inChannels_pos : 0 < d.inChannels
  inH_pos : 0 < d.inH
  inW_pos : 0 < d.inW
  outChannels_pos : 0 < d.outChannels
  kernelH_pos : 0 < d.kernelH
  kernelW_pos : 0 < d.kernelW
  strideH_pos : 0 < d.strideH
  strideW_pos : 0 < d.strideW
  paddedH_word : d.padH * 2 + d.inH < Word.limit
  paddedW_word : d.padW * 2 + d.inW < Word.limit
  kernelH_fits : d.kernelH ≤ d.padH * 2 + d.inH
  kernelW_fits : d.kernelW ≤ d.padW * 2 + d.inW
  pixels_word : d.pixels < Word.limit
  patch_word : d.patchSize < Word.limit
  workspace_word : d.pixels * d.patchSize < Word.limit
  source_word : d.batch * d.srcImage < Word.limit
  weights_word : d.outChannels * d.patchSize < Word.limit
  destination_word : d.batch * d.dstImage < Word.limit

theorem outExtent_eq {input padding kernel stride : Nat} (hkernel : 0 < kernel)
    (hstride : 0 < stride) (hword : padding * 2 + input < Word.limit)
    (hfits : kernel ≤ padding * 2 + input) :
    outExtent input padding kernel stride = .ok ((input + 2 * padding - kernel) / stride + 1) := by
  have hsteps : (input + 2 * padding - kernel) / stride ≤ input + 2 * padding - kernel :=
    Nat.div_le_self _ _
  rw [outExtent, Word.mul_of_lt (by omega), ok_bind, Word.add_of_lt (by omega), ok_bind,
    Word.sub_of_le (by omega), ok_bind, Word.div_of_ne (by omega), ok_bind,
    Word.add_of_lt (by omega)]

theorem outHeight_pos (d : Descriptor) : 0 < d.outHeight := Nat.succ_pos _

theorem outWidth_pos (d : Descriptor) : 0 < d.outWidth := Nat.succ_pos _

theorem pixels_pos (d : Descriptor) : 0 < d.pixels := Nat.mul_pos d.outHeight_pos d.outWidth_pos

theorem dstImage_eq (d : Descriptor) : d.dstImage = d.outChannels * d.pixels :=
  Nat.mul_assoc _ _ _

namespace Valid

variable {d : Descriptor} (h : d.Valid)

include h

theorem patchSize_pos : 0 < d.patchSize :=
  Nat.mul_pos (Nat.mul_pos h.inChannels_pos h.kernelH_pos) h.kernelW_pos

theorem srcImage_pos : 0 < d.srcImage :=
  Nat.mul_pos (Nat.mul_pos h.inChannels_pos h.inH_pos) h.inW_pos

theorem dstImage_pos : 0 < d.dstImage :=
  Nat.mul_pos (Nat.mul_pos h.outChannels_pos d.outHeight_pos) d.outWidth_pos

theorem srcImage_word : d.srcImage < Word.limit :=
  Nat.lt_of_le_of_lt (Nat.le_mul_of_pos_left _ h.batch_pos) h.source_word

theorem dstImage_word : d.dstImage < Word.limit :=
  Nat.lt_of_le_of_lt (Nat.le_mul_of_pos_left _ h.batch_pos) h.destination_word

theorem outChannels_word : d.outChannels < Word.limit :=
  Nat.lt_of_le_of_lt (Nat.le_mul_of_pos_right _ h.patchSize_pos) h.weights_word

theorem outH_eq : d.outH = .ok d.outHeight :=
  outExtent_eq h.kernelH_pos h.strideH_pos h.paddedH_word h.kernelH_fits

theorem outW_eq : d.outW = .ok d.outWidth :=
  outExtent_eq h.kernelW_pos h.strideW_pos h.paddedW_word h.kernelW_fits

theorem outPixels_eq : d.outPixels = .ok d.pixels := by
  rw [outPixels, h.outH_eq, ok_bind, h.outW_eq, ok_bind, Word.mul_of_lt h.pixels_word]
  rfl

theorem patchLen_eq : d.patchLen = .ok d.patchSize := by
  have hpart : d.inChannels * d.kernelH ≤ d.patchSize := Nat.le_mul_of_pos_right _ h.kernelW_pos
  have hword := h.patch_word
  rw [patchLen, Word.mul_of_lt (by omega), ok_bind, Word.mul_of_lt h.patch_word]
  rfl

theorem srcImageLen_eq : d.srcImageLen = .ok d.srcImage := by
  have hpart : d.inChannels * d.inH ≤ d.srcImage := Nat.le_mul_of_pos_right _ h.inW_pos
  have hword := h.srcImage_word
  rw [srcImageLen, Word.mul_of_lt (by omega), ok_bind, Word.mul_of_lt h.srcImage_word]
  rfl

theorem dstImageLen_eq : d.dstImageLen = .ok d.dstImage := by
  have hpart : d.outChannels * d.outHeight ≤ d.dstImage :=
    Nat.le_mul_of_pos_right _ d.outWidth_pos
  have hword := h.dstImage_word
  rw [dstImageLen, h.outH_eq, ok_bind, Word.mul_of_lt (by omega), ok_bind, h.outW_eq, ok_bind,
    Word.mul_of_lt h.dstImage_word]
  rfl

theorem srcLen_eq : d.srcLen = .ok (d.batch * d.srcImage) := by
  rw [srcLen, h.srcImageLen_eq, ok_bind, Word.mul_of_lt h.source_word]

theorem weightsLen_eq : d.weightsLen = .ok (d.outChannels * d.patchSize) := by
  rw [weightsLen, h.patchLen_eq, ok_bind, Word.mul_of_lt h.weights_word]

theorem dstLen_eq : d.dstLen = .ok (d.batch * d.dstImage) := by
  rw [dstLen, h.dstImageLen_eq, ok_bind, Word.mul_of_lt h.destination_word]

end Valid

/-! ### Validation -/

theorem positives_find?_eq_none_iff {d : Descriptor} :
    d.positives.find? (·.2 = 0) = none ↔
      0 < d.batch ∧ 0 < d.inChannels ∧ 0 < d.inH ∧ 0 < d.inW ∧ 0 < d.outChannels ∧
        0 < d.kernelH ∧ 0 < d.kernelW ∧ 0 < d.strideH ∧ 0 < d.strideW := by
  simp [positives, List.find?_eq_none, Nat.pos_iff_ne_zero]

theorem validateAxis_eq_ok_iff {axis : String} {input kernel padding : Nat} {u : Unit} :
    validateAxis axis input kernel padding = .ok u ↔
      padding * 2 + input < Word.limit ∧ kernel ≤ padding * 2 + input := by
  unfold validateAxis
  cases hp : Word.padded? input padding with
  | none =>
      have hword : ¬ padding * 2 + input < Word.limit := by
        intro hlt
        rw [Word.padded?_eq_some_iff.mpr ⟨hlt, rfl⟩] at hp
        cases hp
      simp [hword]
  | some padded =>
      obtain ⟨hword, rfl⟩ := Word.padded?_eq_some_iff.mp hp
      simp [hword]

/-- An axis that has passed its check has an output extent. -/
theorem outExtent_of_axis {axis : String} {input kernel padding stride : Nat} {u : Unit}
    (hkernel : 0 < kernel) (hstride : 0 < stride)
    (haxis : validateAxis axis input kernel padding = .ok u) :
    outExtent input padding kernel stride = .ok ((input + 2 * padding - kernel) / stride + 1) := by
  obtain ⟨hword, hfits⟩ := validateAxis_eq_ok_iff.mp haxis
  exact outExtent_eq hkernel hstride hword hfits

theorem size_eq_ok_iff {what : String} {extents : List Nat} (hpos : ∀ n ∈ extents, 0 < n)
    {p : Nat} : size what extents = .ok p ↔
      extents.foldl (· * ·) 1 < Word.limit ∧ p = extents.foldl (· * ·) 1 := by
  rw [← Word.product?_eq_some_iff hpos, size]
  cases Word.product? extents with
  | none => simp
  | some n => simp

/-- A valid descriptor passes every check, in the order in which they are made. -/
theorem Valid.validate_eq {d : Descriptor} (h : d.Valid) : d.validate = .ok () := by
  have hfind : d.positives.find? (·.2 = 0) = none :=
    positives_find?_eq_none_iff.mpr ⟨h.batch_pos, h.inChannels_pos, h.inH_pos, h.inW_pos,
      h.outChannels_pos, h.kernelH_pos, h.kernelW_pos, h.strideH_pos, h.strideW_pos⟩
  have hheight : validateAxis "height" d.inH d.kernelH d.padH = .ok () :=
    validateAxis_eq_ok_iff.mpr ⟨h.paddedH_word, h.kernelH_fits⟩
  have hwidth : validateAxis "width" d.inW d.kernelW d.padW = .ok () :=
    validateAxis_eq_ok_iff.mpr ⟨h.paddedW_word, h.kernelW_fits⟩
  have hplane : size "output plane" [d.outHeight, d.outWidth] = .ok d.pixels := by
    rw [size_eq_ok_iff (by simp [outHeight_pos, outWidth_pos])]
    simpa [pixels] using h.pixels_word
  have hpatch : size "patch" [d.inChannels, d.kernelH, d.kernelW] = .ok d.patchSize := by
    rw [size_eq_ok_iff (by simp [h.inChannels_pos, h.kernelH_pos, h.kernelW_pos])]
    simpa [patchSize] using h.patch_word
  have hworkspace : size "im2col workspace" [d.pixels, d.patchSize] =
      .ok (d.pixels * d.patchSize) := by
    rw [size_eq_ok_iff (by simp [pixels_pos, h.patchSize_pos])]
    simpa using h.workspace_word
  have hsource : size "source" [d.batch, d.inChannels, d.inH, d.inW] =
      .ok (d.batch * d.srcImage) := by
    rw [size_eq_ok_iff (by simp [h.batch_pos, h.inChannels_pos, h.inH_pos, h.inW_pos])]
    simpa [srcImage, Nat.mul_assoc] using h.source_word
  have hweights : size "weights" [d.outChannels, d.patchSize] =
      .ok (d.outChannels * d.patchSize) := by
    rw [size_eq_ok_iff (by simp [h.outChannels_pos, h.patchSize_pos])]
    simpa using h.weights_word
  have hdestination : size "destination" [d.batch, d.outChannels, d.pixels] =
      .ok (d.batch * d.dstImage) := by
    rw [size_eq_ok_iff (by simp [h.batch_pos, h.outChannels_pos, pixels_pos])]
    simpa [dstImage_eq, Nat.mul_assoc] using h.destination_word
  simp [validate, hfind, hheight, hwidth, h.outH_eq, h.outW_eq, hplane, hpatch, hworkspace,
    hsource, hweights, hdestination]

/-- What the checks establish when none of them fails. -/
theorem valid_of_validate {d : Descriptor} (hv : d.validate = .ok ()) : d.Valid := by
  cases hfind : d.positives.find? (·.2 = 0) with
  | some field => simp [validate, hfind] at hv
  | none =>
      obtain ⟨hn, hic, hih, hiw, hoc, hkh, hkw, hsh, hsw⟩ := positives_find?_eq_none_iff.mp hfind
      simp only [validate, hfind, bind_eq_ok_iff, Attempt.liftM_eq, Attempt.ofExcept_eq_ok_iff,
        Attempt.ofChecked_eq_ok_iff, validateAxis_eq_ok_iff] at hv
      obtain ⟨_, ⟨hhword, hhfits⟩, _, ⟨hwword, hwfits⟩, height, hheight, width, hwidth, hv⟩ := hv
      have hout : height = d.outHeight ∧ width = d.outWidth := by
        rw [outH, outExtent_eq hkh hsh hhword hhfits, Except.ok.injEq] at hheight
        rw [outW, outExtent_eq hkw hsw hwword hwfits, Except.ok.injEq] at hwidth
        exact ⟨hheight.symm, hwidth.symm⟩
      obtain ⟨rfl, rfl⟩ := hout
      obtain ⟨plane, hplane, patch, hpatch, _, hworkspace, _, hsource, _, hweights, _,
        hdestination, -⟩ := hv
      rw [size_eq_ok_iff (by simp [outHeight_pos, outWidth_pos])] at hplane
      rw [size_eq_ok_iff (by simp [hic, hkh, hkw])] at hpatch
      rw [size_eq_ok_iff (by simp [hn, hic, hih, hiw])] at hsource
      have hplane' : plane = d.pixels := by simpa [pixels] using hplane.2
      have hpatch' : patch = d.patchSize := by simpa [patchSize] using hpatch.2
      have hpatch_pos : 0 < d.patchSize := Nat.mul_pos (Nat.mul_pos hic hkh) hkw
      subst hplane' hpatch'
      rw [size_eq_ok_iff (by simp [pixels_pos, hpatch_pos])] at hworkspace
      rw [size_eq_ok_iff (by simp [hoc, hpatch_pos])] at hweights
      rw [size_eq_ok_iff (by simp [hn, hoc, pixels_pos])] at hdestination
      exact
        { batch_pos := hn, inChannels_pos := hic, inH_pos := hih, inW_pos := hiw
          outChannels_pos := hoc, kernelH_pos := hkh, kernelW_pos := hkw
          strideH_pos := hsh, strideW_pos := hsw
          paddedH_word := hhword, paddedW_word := hwword
          kernelH_fits := hhfits, kernelW_fits := hwfits
          pixels_word := by simpa [pixels] using hplane.1
          patch_word := by simpa [patchSize] using hpatch.1
          workspace_word := by simpa using hworkspace.1
          source_word := by simpa [srcImage, Nat.mul_assoc] using hsource.1
          weights_word := by simpa using hweights.1
          destination_word := by simpa [dstImage_eq, Nat.mul_assoc] using hdestination.1 }

/-- Validation accepts just the valid descriptors. -/
theorem validate_eq_ok_iff {d : Descriptor} : d.validate = .ok () ↔ d.Valid :=
  ⟨valid_of_validate, Valid.validate_eq⟩

/-! ### Plans -/

def unfolding (d : Descriptor) : Unfolding where
  inChannels := d.inChannels
  inH := d.inH
  inW := d.inW
  kernelH := d.kernelH
  kernelW := d.kernelW
  padH := d.padH
  padW := d.padW
  strideH := d.strideH
  strideW := d.strideW
  outH := d.outHeight
  outW := d.outWidth

def product (d : Descriptor) (kernel : DotKernel) (columns : Columns) : Gemm where
  columns
  outChannels := d.outChannels
  patchLen := d.patchSize
  pixels := d.pixels
  kernel

def sumOperators (d : Descriptor) (kernel : DotKernel) : List Operator :=
  if d.isPointwise then [.gemm (d.product kernel .source)]
  else [.unfold d.unfolding, .gemm (d.product kernel .scratch)]

def operators (d : Descriptor) (kernel : DotKernel) : List Operator :=
  d.sumOperators kernel ++ d.postOps.map fun op => .postOp op d.dstImage

/-- The scratch elements that each of them needs. -/
def scratchLens (d : Descriptor) : List Nat :=
  (if d.isPointwise then [0] else [d.pixels * d.patchSize, 0]) ++ d.postOps.map fun _ => 0

namespace Valid

variable {d : Descriptor} (h : d.Valid)

include h

theorem unfolding_eq : Unfolding.ofDescriptor d = .ok d.unfolding := by
  rw [Unfolding.ofDescriptor, h.outH_eq, ok_bind, h.outW_eq, ok_bind]
  rfl

theorem product_eq (kernel : DotKernel) (columns : Columns) :
    Gemm.ofDescriptor d columns kernel = .ok (d.product kernel columns) := by
  rw [Gemm.ofDescriptor, h.patchLen_eq, ok_bind, h.outPixels_eq, ok_bind]
  rfl

theorem plan_eq (kernel : DotKernel) : Operator.plan d kernel = .ok (d.operators kernel) := by
  have hpost : (d.postOps.mapM fun op => (do return .postOp op (← d.dstImageLen))) =
      (.ok (d.postOps.map fun op => .postOp op d.dstImage) : Checked (List Operator)) := by
    apply mapM_eq_ok
    intro op _
    rw [h.dstImageLen_eq, ok_bind]
    rfl
  rw [Operator.plan, hpost, operators, sumOperators]
  split
  · rw [h.product_eq, ok_bind]
    rfl
  · rw [h.unfolding_eq, ok_bind, h.product_eq, ok_bind]
    rfl

theorem patchLen_unfolding : d.unfolding.patchLen = .ok d.patchSize := h.patchLen_eq

theorem scratchLen_unfolding : d.unfolding.scratchLen = .ok (d.pixels * d.patchSize) := by
  have hpixels : Word.mul d.unfolding.outH d.unfolding.outW = .ok d.pixels :=
    Word.mul_of_lt h.pixels_word
  rw [Unfolding.scratchLen, hpixels, ok_bind, h.patchLen_unfolding, ok_bind,
    Word.mul_of_lt h.workspace_word]

/-- Only the unfolding needs scratch. -/
theorem scratchLens_eq (kernel : DotKernel) :
    (d.operators kernel).mapM Operator.scratchLen = .ok d.scratchLens := by
  have hpost : ((d.postOps.map fun op => Operator.postOp op d.dstImage).mapM
      Operator.scratchLen) = .ok (d.postOps.map fun _ => 0) := by
    rw [List.mapM_map]
    exact mapM_eq_ok fun op _ => rfl
  rw [operators, sumOperators, scratchLens, List.mapM_append, hpost]
  split
  · rfl
  · simp only [List.mapM_cons, List.mapM_nil, Operator.scratchLen, h.scratchLen_unfolding,
      ok_bind]
    rfl

end Valid

theorem foldl_max_scratchLens (d : Descriptor) : d.scratchLens.foldl max 0 = d.scratchSize := by
  have hzeros : ∀ (ops : List PostOp) (n : Nat), (ops.map fun _ => 0).foldl max n = n := by
    intro ops n
    induction ops with
    | nil => rfl
    | cons op ops ih => simpa using ih
  rw [scratchLens, scratchSize, List.foldl_append, hzeros]
  split
  · rfl
  · simp

end Descriptor

/-! ### Primitives -/

/-- A processor whose registers hold sixteen elements. -/
@[reducible]
def Processor.vector : Processor where
  avx512f := true
  avx2 := true
  fma := true

/-- The primitive of a valid descriptor, with its scratch cleared. -/
def Descriptor.primitive {α : Type} [Processor] [Element α] (d : Descriptor) : Primitive α where
  desc := d
  operators := d.operators .detect
  scratch := .tabulate d.scratchSize fun _ => Element.zero

variable {α : Type} [Processor] [Element α] {d : Descriptor}

theorem Descriptor.Valid.create_eq (h : d.Valid) :
    (Primitive.create d : Attempt PrimitiveError (Primitive α)) =
      if Primitive.maxScratch < d.scratchSize then
        .error (.error (.workspaceTooLarge d.scratchSize Primitive.maxScratch))
      else .ok d.primitive := by
  simp only [Primitive.create, h.validate_eq, h.plan_eq, h.scratchLens_eq,
    Descriptor.foldl_max_scratchLens, ok_bind, Attempt.liftM_eq, Attempt.ofChecked_ok]
  split
  · rfl
  · rename_i hle
    have hcap : d.scratchSize < Buffer.capacity :=
      Nat.lt_of_le_of_lt (Nat.le_of_not_lt hle) (by decide)
    rw [Buffer.allocate, if_pos hcap]
    rfl

/-- A primitive is created just for the valid descriptors whose scratch is not too large. -/
theorem Primitive.create_eq_ok_iff {p : Primitive α} :
    Primitive.create d = .ok p ↔
      d.Valid ∧ d.scratchSize ≤ maxScratch ∧ p = d.primitive := by
  constructor
  · intro hp
    have h : d.Valid := by
      rw [Primitive.create, bind_eq_ok_iff] at hp
      obtain ⟨_, hv, -⟩ := hp
      exact Descriptor.valid_of_validate hv
    rw [h.create_eq] at hp
    split at hp
    · cases hp
    · rename_i hle
      cases hp
      exact ⟨h, Nat.le_of_not_lt hle, rfl⟩
  · rintro ⟨h, hle, rfl⟩
    rw [h.create_eq, if_neg (Nat.not_lt.mpr hle)]

end ConvLab
