import ConvLab.Proofs.Kernel

/-!
# The shapes that a kernel takes

A kernel is created over a problem whose sizes have been checked before.  The checks are made a
second time, in another order and with other products, and all of them pass again; the only one that
can fail is new, the size of the unfolded input.

* `Kind.Accepts` — the shapes that a kernel takes;
* `Kind.obstacle` — what a kernel says of the others;
* `Reference.create_of_accepts`, `Reference.create_of_not_accepts` — the reference;
* `Candidate.create_of_not_accepts` — the candidate;
* `Kind.create_ends` — a kernel of any kind over a problem however it was made.
-/

namespace ConvLab

variable {α : Type}

namespace Shape

/-- Elements of the unfolded input of one image. -/
def workspace (s : Shape) : Nat :=
  s.extent * s.extent * s.inChannels * s.kernelSize * s.kernelSize

/-- The kernel covers a single pixel and moves over the input itself. -/
def IsPointwise (s : Shape) : Prop := s.kernelSize = 1 ∧ s.padding = 0 ∧ s.stride = 1

def workspaceError (s : Shape) : PrimitiveError :=
  if s.workspace < Word.limit then .workspaceTooLarge s.workspace Primitive.maxScratch
  else .sizeOverflow "im2col workspace"

/-- A pointwise convolution keeps the extents of its input. -/
theorem IsPointwise.extent_eq {s : Shape} (h : s.IsPointwise) (hshape : s.Valid) :
    s.extent = s.inDim := by
  obtain ⟨hkernel, hpadding, hstride⟩ := h
  have hpos := hshape.inDim_pos
  rw [extent, hkernel, hpadding, hstride, Nat.div_one]
  omega

/-- The unfolded input of a pointwise shape is one image of the source. -/
theorem IsPointwise.workspace_le {s : Shape} (h : s.IsPointwise) (hshape : s.Valid) :
    s.workspace ≤ s.exactSizes.src := by
  have himage : s.workspace = s.inChannels * s.inDim * s.inDim := by
    rw [workspace, h.extent_eq hshape, h.1, Nat.mul_one, Nat.mul_one, Nat.mul_comm, Nat.mul_assoc]
  rw [himage, exactSizes, Nat.mul_assoc s.batch, Nat.mul_assoc s.batch]
  exact Nat.le_mul_of_pos_left _ hshape.batch_pos

end Shape

/-- The shapes that a kernel takes. -/
def Kind.Accepts : Kind → Shape → Prop
  | .reference, s => s.IsPointwise ∨ s.workspace ≤ Primitive.maxScratch
  | .candidate, s => s.padding = 0 ∧ s.stride = 1

/-- What a kernel says of a shape that it does not take. -/
def Kind.obstacle : Kind → Shape → String
  | .reference, s => s.workspaceError.message
  | .candidate, s =>
      if s.padding ≠ 0 then "padding is not supported" else "only unit stride is supported"

/-- The extents that a kernel on a shape computes with. -/
def Shape.kernelExtent (s : Shape) : KernelExtent where
  outH := s.extent
  outW := s.extent
  inChannels := s.inChannels
  outChannels := s.outChannels
  kernelH := s.kernelSize
  kernelW := s.kernelSize

/-! ### Descriptors -/

@[simp] theorem Descriptor.desc_primitive [Processor] [Element α] (d : Descriptor) :
    (d.primitive : Primitive α).desc = d := rfl

/-- Where every earlier check passes, the size of the unfolded input is the one that is reported. -/
theorem Descriptor.validate_of_workspace {d : Descriptor}
    (hpositive : d.positives.find? (·.2 = 0) = none)
    (hheight : validateAxis "height" d.inH d.kernelH d.padH = .ok ())
    (hwidth : validateAxis "width" d.inW d.kernelW d.padW = .ok ())
    (hpixels : d.pixels < Word.limit) (hpatch : d.patchSize < Word.limit)
    (hworkspace : Word.limit ≤ d.pixels * d.patchSize) :
    d.validate = .error (.error (.sizeOverflow "im2col workspace")) := by
  obtain ⟨-, hic, -, -, -, hkh, hkw, hsh, hsw⟩ := positives_find?_eq_none_iff.mp hpositive
  have houtH : d.outH = .ok d.outHeight := outExtent_of_axis hkh hsh hheight
  have houtW : d.outW = .ok d.outWidth := outExtent_of_axis hkw hsw hwidth
  have hplane : size "output plane" [d.outHeight, d.outWidth] = .ok d.pixels := by
    rw [size_eq_ok_iff (by simp [outHeight_pos, outWidth_pos])]
    simpa [pixels] using hpixels
  have hfield : size "patch" [d.inChannels, d.kernelH, d.kernelW] = .ok d.patchSize := by
    rw [size_eq_ok_iff (by simp [hic, hkh, hkw])]
    simpa [patchSize] using hpatch
  have hunfolded : size "im2col workspace" [d.pixels, d.patchSize] =
      .error (.sizeOverflow "im2col workspace") := by
    have hproduct : Word.product? [d.pixels, d.patchSize] = none := by
      simp [Word.product?, Word.mul?, hpixels, Nat.not_lt.mpr hworkspace]
    rw [size, hproduct]
  simp [validate, hpositive, hheight, hwidth, houtH, houtW, hplane, hfield, hunfolded]

/-! ### The reference -/

namespace Reference

variable {p : Problem α}

theorem isPointwise_descriptor : (descriptor p).isPointwise = true ↔ p.shape.IsPointwise := by
  simp only [Descriptor.isPointwise_iff, descriptor, Shape.IsPointwise]
  constructor
  · rintro ⟨hkernel, -, hstride, -, hpadding, -⟩
    exact ⟨hkernel, hpadding, hstride⟩
  · rintro ⟨hkernel, hpadding, hstride⟩
    exact ⟨hkernel, hkernel, hstride, hstride, hpadding, hpadding⟩

theorem workspace_descriptor :
    (descriptor p).pixels * (descriptor p).patchSize = p.shape.workspace := by
  simp only [Descriptor.pixels, Descriptor.patchSize, Shape.workspace, ← Nat.mul_assoc]
  rfl

/-- The descriptor counts the buffers of its problem, in products of another order. -/
theorem sizes_descriptor (p : Problem α) :
    (descriptor p).batch * (descriptor p).srcImage = p.shape.exactSizes.src ∧
      (descriptor p).outChannels * (descriptor p).patchSize = p.shape.exactSizes.weights ∧
      (descriptor p).batch * (descriptor p).dstImage = p.shape.exactSizes.dst := by
  simp only [Descriptor.srcImage, Descriptor.patchSize, Descriptor.dstImage, Shape.exactSizes,
    ← Nat.mul_assoc]
  exact ⟨rfl, rfl, rfl⟩

theorem positives_descriptor (hp : p.Built) :
    (descriptor p).positives.find? (·.2 = 0) = none :=
  Descriptor.positives_find?_eq_none_iff.mpr
    ⟨hp.shape.batch_pos, hp.shape.inChannels_pos, hp.shape.inDim_pos, hp.shape.inDim_pos,
      hp.shape.outChannels_pos, hp.shape.kernelSize_pos, hp.shape.kernelSize_pos,
      hp.shape.stride_pos, hp.shape.stride_pos⟩

/-- A plane of the output is part of the destination. -/
theorem pixels_descriptor_word (hp : p.Built) : (descriptor p).pixels < Word.limit := by
  have hmaps : 0 < p.shape.batch * p.shape.outChannels :=
    Nat.mul_pos hp.shape.batch_pos hp.shape.outChannels_pos
  have hdst : p.shape.exactSizes.dst =
      p.shape.batch * p.shape.outChannels * (descriptor p).pixels := Nat.mul_assoc _ _ _
  have hword := hp.shape.dst_word
  rw [hdst] at hword
  exact Nat.lt_of_le_of_lt (Nat.le_mul_of_pos_left _ hmaps) hword

/-- The taps of an output channel are part of the weights. -/
theorem patchSize_descriptor_word (hp : p.Built) : (descriptor p).patchSize < Word.limit := by
  have hword := hp.shape.weights_word
  rw [← (sizes_descriptor p).2.1] at hword
  exact Nat.lt_of_le_of_lt (Nat.le_mul_of_pos_left _ hp.shape.outChannels_pos) hword

/-- The descriptor of a problem is valid if the unfolded input is a word. -/
theorem descriptor_valid (hp : p.Built) (hworkspace : p.shape.workspace < Word.limit) :
    (descriptor p).Valid := by
  obtain ⟨hsrc, hweights, hdst⟩ := sizes_descriptor p
  exact
    { batch_pos := hp.shape.batch_pos
      inChannels_pos := hp.shape.inChannels_pos
      inH_pos := hp.shape.inDim_pos
      inW_pos := hp.shape.inDim_pos
      outChannels_pos := hp.shape.outChannels_pos
      kernelH_pos := hp.shape.kernelSize_pos
      kernelW_pos := hp.shape.kernelSize_pos
      strideH_pos := hp.shape.stride_pos
      strideW_pos := hp.shape.stride_pos
      paddedH_word := hp.shape.padded_word
      paddedW_word := hp.shape.padded_word
      kernelH_fits := hp.shape.kernel_fits
      kernelW_fits := hp.shape.kernel_fits
      pixels_word := pixels_descriptor_word hp
      patch_word := patchSize_descriptor_word hp
      workspace_word := by rw [workspace_descriptor]; exact hworkspace
      source_word := by rw [hsrc]; exact hp.shape.src_word
      weights_word := by rw [hweights]; exact hp.shape.weights_word
      destination_word := by rw [hdst]; exact hp.shape.dst_word }

/-- A descriptor whose unfolded input is no word is refused for that reason. -/
theorem validate_descriptor (hp : p.Built) (hworkspace : Word.limit ≤ p.shape.workspace) :
    (descriptor p).validate = .error (.error (.sizeOverflow "im2col workspace")) := by
  have hfits := hp.shape.kernel_fits
  refine Descriptor.validate_of_workspace (positives_descriptor hp)
    (Descriptor.validateAxis_eq_ok_iff.mpr ⟨hp.shape.padded_word, hfits⟩)
    (Descriptor.validateAxis_eq_ok_iff.mpr ⟨hp.shape.padded_word, hfits⟩)
    (pixels_descriptor_word hp) (patchSize_descriptor_word hp) ?_
  rw [workspace_descriptor]
  exact hworkspace

/-- The scratch is small enough just for the shapes that the reference takes. -/
theorem scratchSize_le_iff :
    (descriptor p).scratchSize ≤ Primitive.maxScratch ↔ Kind.reference.Accepts p.shape := by
  rw [Descriptor.scratchSize, workspace_descriptor]
  split
  · rename_i hpointwise
    exact ⟨fun _ => .inl (isPointwise_descriptor.mp hpointwise), fun _ => Nat.zero_le _⟩
  · rename_i hpointwise
    constructor
    · exact .inr
    · intro haccepts
      exact haccepts.resolve_left (mt isPointwise_descriptor.mpr hpointwise)

theorem scratchSize_of_not_accepts (haccepts : ¬ Kind.reference.Accepts p.shape) :
    (descriptor p).scratchSize = p.shape.workspace := by
  have hpointwise : ¬ (descriptor p).isPointwise = true := by
    intro hpointwise
    exact haccepts (.inl (isPointwise_descriptor.mp hpointwise))
  rw [Descriptor.scratchSize, if_neg hpointwise, workspace_descriptor]

variable [Processor] [Element α]

/-- The buffers of a problem always pass the comparison with its descriptor. -/
theorem bind_primitive (hp : p.Built) (h : (descriptor p).Valid) {primitive : Primitive α}
    (hcreate : Primitive.create (descriptor p) = .ok primitive) :
    primitive.bind p.memory = .ok () := by
  obtain ⟨hsrc, hweights, hdst⟩ := sizes_descriptor p
  refine ((Primitive.Carries.of_create hcreate).bind_iff h).mpr ⟨?_, ?_, hp.bias_size, ?_⟩
  · rw [hp.src_size, hsrc]
  · rw [hp.weights_size, hweights]
  · rw [hp.dst_size, hdst]

/-- An accepted problem has a kernel, which computes with the extents of the shape. -/
theorem create_of_accepts (hp : p.Built) (haccepts : Kind.reference.Accepts p.shape) :
    ∃ k, create p = .ok k ∧ Kernel.extent (.reference k) = .ok p.shape.kernelExtent := by
  have hword : p.shape.workspace < Word.limit := by
    rcases haccepts with hpointwise | hle
    · exact Nat.lt_of_le_of_lt (hpointwise.workspace_le hp.shape.toValid) hp.shape.src_word
    · exact Nat.lt_of_le_of_lt hle (by decide)
  have h : (descriptor p).Valid := descriptor_valid hp hword
  have hcreate : Primitive.create (descriptor p) = .ok ((descriptor p).primitive : Primitive α) :=
    Primitive.create_eq_ok_iff.mpr ⟨h, scratchSize_le_iff.mpr haccepts, rfl⟩
  refine ⟨{ problem := p, primitive := (descriptor p).primitive },
    create_eq_ok_iff.mpr ⟨_, hcreate, bind_primitive hp h hcreate, rfl⟩, ?_⟩
  simp only [Kernel.extent, Descriptor.desc_primitive, h.outH_eq, h.outW_eq, ok_bind]
  rfl

/-- The unfolded input is the only reason to refuse a problem. -/
theorem primitive_create_of_not_accepts (hp : p.Built)
    (haccepts : ¬ Kind.reference.Accepts p.shape) :
    (Primitive.create (descriptor p) : Attempt PrimitiveError (Primitive α)) =
      .error (.error p.shape.workspaceError) := by
  rw [Shape.workspaceError]
  split
  · rename_i hword
    have hscratch : Primitive.maxScratch < (descriptor p).scratchSize :=
      Nat.lt_of_not_le (mt scratchSize_le_iff.mp haccepts)
    rw [(descriptor_valid hp hword).create_eq, if_pos hscratch,
      scratchSize_of_not_accepts haccepts]
  · rename_i hword
    rw [Primitive.create, validate_descriptor hp (Nat.le_of_not_lt hword), error_bind]

theorem create_of_not_accepts (hp : p.Built) (haccepts : ¬ Kind.reference.Accepts p.shape) :
    create p =
      .error (.error (.rejected Kind.reference.name (Kind.reference.obstacle p.shape))) := by
  rw [create, primitive_create_of_not_accepts hp haccepts]
  rfl

end Reference

/-! ### The candidate -/

namespace Candidate

variable {p : Problem α}

theorem violation?_of_not_accepts (haccepts : ¬ Kind.candidate.Accepts p.shape) :
    violation? p = some (Kind.candidate.obstacle p.shape) := by
  rw [violation?_eq, Kind.obstacle]
  by_cases hpadding : p.shape.padding = 0
  · have hstride : p.shape.stride ≠ 1 := fun hstride => haccepts ⟨hpadding, hstride⟩
    simp [hpadding, hstride]
  · simp [hpadding]

theorem create_of_not_accepts (haccepts : ¬ Kind.candidate.Accepts p.shape) :
    create p =
      .error (.error (.rejected Kind.candidate.name (Kind.candidate.obstacle p.shape))) := by
  rw [create, violation?_of_not_accepts haccepts]
  rfl

theorem create_of_accepts (hp : p.Built) (haccepts : Kind.candidate.Accepts p.shape) :
    ∃ k, create p = .ok k ∧ Kernel.extent (.candidate k) = .ok p.shape.kernelExtent := by
  refine ⟨{ problem := p }, (create_eq_ok_iff hp).mpr ⟨haccepts.1, haccepts.2, rfl⟩, ?_⟩
  simp only [Kernel.extent, hp.outDim_eq]
  rfl

end Candidate

/-! ### Both kernels -/

namespace Kind

variable [Processor] [Element α] {p : Problem α}

/-- A problem that was built is taken or rejected; nothing else can happen. -/
theorem create_of_built (kind : Kind) (hp : p.Built) :
    (kind.Accepts p.shape ∧ ∃ k, kind.create p = .ok k ∧ k.extent = .ok p.shape.kernelExtent) ∨
      (¬ kind.Accepts p.shape ∧
        kind.create p = .error (.error (.rejected kind.name (kind.obstacle p.shape)))) := by
  by_cases haccepts : kind.Accepts p.shape
  · refine .inl ⟨haccepts, ?_⟩
    cases kind with
    | reference =>
        obtain ⟨k, hk, hextent⟩ := Reference.create_of_accepts hp haccepts
        exact ⟨.reference k, by rw [create, hk, map_ok], hextent⟩
    | candidate =>
        obtain ⟨k, hk, hextent⟩ := Candidate.create_of_accepts hp haccepts
        exact ⟨.candidate k, by rw [create, hk, map_ok], hextent⟩
  · refine .inr ⟨haccepts, ?_⟩
    cases kind with
    | reference =>
        rw [create, Reference.create_of_not_accepts hp haccepts]
        rfl
    | candidate =>
        rw [create, Candidate.create_of_not_accepts haccepts]
        rfl

/-- The only failure over a problem that was built is a rejection. -/
theorem eq_rejected_of_create {kind : Kind} (hp : p.Built) {failure : Failure KernelError}
    (hcreate : kind.create p = .error failure) :
    failure = .error (.rejected kind.name (kind.obstacle p.shape)) := by
  rcases kind.create_of_built hp with ⟨-, k, hk, -⟩ | ⟨-, hrejected⟩
  · rw [hk] at hcreate
    cases hcreate
  · rw [hrejected] at hcreate
    cases hcreate
    rfl

theorem exists_create_eq_ok_iff (kind : Kind) (hp : p.Built) :
    (∃ k, kind.create p = .ok k) ↔ kind.Accepts p.shape := by
  rcases kind.create_of_built hp with ⟨haccepts, k, hk, -⟩ | ⟨haccepts, hrejected⟩
  · exact ⟨fun _ => haccepts, fun _ => ⟨k, hk⟩⟩
  · constructor
    · rintro ⟨k, hk⟩
      rw [hrejected] at hk
      cases hk
    · intro h
      exact absurd h haccepts

/-- The exact conditions under which a kernel takes a problem, however the problem was made.  The
reference asks that the shape be pointwise or its unfolded input small, the candidate that there be
no padding and unit stride.  A kernel computes with the extents of the shape, and a problem without
a kernel is rejected: there is no other error, and no trap. -/
theorem create_ends {s : Shape} {p : Problem Float32}
    (hp : (∃ options, Problem.build s options = .ok p) ∨
      ∃ scale src weights bias, Problem.ofBuffers s scale src weights bias = .ok p) :
    ((∃ k, Kind.reference.create p = .ok k) ↔
      (s.kernelSize = 1 ∧ s.padding = 0 ∧ s.stride = 1) ∨
        s.extent * s.extent * s.inChannels * s.kernelSize * s.kernelSize ≤ 67108864) ∧
      ((∃ k, Kind.candidate.create p = .ok k) ↔ s.padding = 0 ∧ s.stride = 1) ∧
      ∀ kind : Kind,
        (∃ k, kind.create p = .ok k ∧ k.extent = .ok s.kernelExtent) ∨
          kind.create p = .error (.error (.rejected kind.name (kind.obstacle s))) := by
  obtain ⟨hbuilt, rfl⟩ := Problem.made_of_shape hp
  refine ⟨exists_create_eq_ok_iff .reference hbuilt, exists_create_eq_ok_iff .candidate hbuilt, ?_⟩
  intro kind
  rcases kind.create_of_built hbuilt with ⟨-, hcreated⟩ | ⟨-, hrejected⟩
  · exact .inl hcreated
  · exact .inr hrejected

end Kind

/-- A pointwise shape whose unfolded input would be larger than any scratch. -/
def Shape.broad : Shape where
  batch := 1
  inDim := 8193
  inChannels := 1
  outChannels := 1
  kernelSize := 1
  padding := 0
  stride := 1

section

attribute [local instance] Processor.vector

theorem Kind.create_ends_broad :
    ∃ p k, Problem.build Shape.broad {} = .ok p ∧ Kind.reference.create p = .ok k ∧
      67108864 < Shape.broad.workspace := by
  have hshape : Shape.broad.Buildable := ⟨by constructor <;> decide, by decide, by decide, by decide⟩
  have hp : Problem.build Shape.broad {} = .ok (Problem.filled Shape.broad {}) :=
    Problem.build_eq_ok_iff.mpr ⟨hshape, ⟨by decide, by decide, by decide⟩, rfl⟩
  obtain ⟨k, hk⟩ := (create_ends (.inl ⟨_, hp⟩)).1.mpr (.inl (by decide))
  exact ⟨_, k, hp, hk, by decide⟩

end

end ConvLab
