import ConvLab.Proofs.Image

/-!
# Executions

An execution writes the images of the batch in order and stops at the first one that its buffers
do not hold.  What it leaves in the destination is therefore known from the sizes of the buffers
alone: complete results up to that image, and behind them what was there before.

* `Descriptor.completeImages` — the images that the buffers hold;
* `Descriptor.Written` — a destination with the results of the first images;
* `Descriptor.Valid.runImages_eq` — the loop over the images;
* `Primitive.Carries` — a primitive of a descriptor, whatever its scratch holds;
* `Primitive.Carries.execute_eq` — what an execution does;
* `Primitive.Carries.execute_bound` — what it does with bound buffers;
* `Primitive.Carries.executeAll` — executions change the contents of the scratch and nothing else.
-/

namespace ConvLab

variable {α : Type}

namespace Descriptor

/-! ### Complete images -/

/-- The images of the batch that buffers of these sizes hold, counted from the first. -/
def completeImages (d : Descriptor) (src weights bias dst : Nat) : Nat :=
  if weights < d.outChannels * d.patchSize ∨ bias < d.outChannels then 0
  else min d.batch (min (src / d.srcImage) (dst / d.dstImage))

theorem completeImages_le (d : Descriptor) (src weights bias dst : Nat) :
    d.completeImages src weights bias dst ≤ d.batch := by
  unfold completeImages
  split
  · exact Nat.zero_le _
  · exact Nat.min_le_left _ _

theorem Valid.fits_iff {d : Descriptor} (h : d.Valid) {s : Stage α} (himage : s.image < d.batch) :
    d.Fits s ↔
      s.image < d.completeImages s.src.size s.weights.size s.bias.size s.dst.size := by
  have hsrc : s.image < s.src.size / d.srcImage ↔
      s.image * d.srcImage + d.srcImage ≤ s.src.size := by
    rw [Nat.lt_iff_add_one_le, Nat.le_div_iff_mul_le h.srcImage_pos, Nat.succ_mul]
  have hdst : s.image < s.dst.size / d.dstImage ↔
      s.image * d.dstImage + d.dstImage ≤ s.dst.size := by
    rw [Nat.lt_iff_add_one_le, Nat.le_div_iff_mul_le h.dstImage_pos, Nat.succ_mul]
  constructor
  · intro hfits
    have hweights := hfits.weights
    have hbias := hfits.bias
    rw [completeImages, if_neg (by omega), Nat.lt_min, Nat.lt_min]
    exact ⟨himage, hsrc.mpr hfits.src, hdst.mpr hfits.dst⟩
  · intro hlt
    unfold completeImages at hlt
    split at hlt
    · omega
    · rw [Nat.lt_min, Nat.lt_min] at hlt
      exact ⟨by omega, by omega, hsrc.mp hlt.2.1, hdst.mp hlt.2.2⟩

theorem Valid.completeImages_exact {d : Descriptor} (h : d.Valid) :
    d.completeImages (d.batch * d.srcImage) (d.outChannels * d.patchSize) d.outChannels
      (d.batch * d.dstImage) = d.batch := by
  rw [completeImages, if_neg (by omega), Nat.mul_div_cancel _ h.srcImage_pos,
    Nat.mul_div_cancel _ h.dstImage_pos, Nat.min_self, Nat.min_self]

/-! ### Destinations -/

/-- The place of an output element, by its image and its place in it. -/
theorem place_eq (d : Descriptor) (b o y x : Nat) :
    ((b * d.outChannels + o) * d.outHeight + y) * d.outWidth + x =
      b * d.dstImage + ((o * d.outHeight + y) * d.outWidth + x) := by
  simp only [dstImage, Nat.add_mul, Nat.mul_assoc, Nat.add_assoc]

variable [Element α]

/-- The destination `new` holds the results of the first `count` images; the rest of it is as it
was in `old`. -/
structure Written (d : Descriptor) (kernel : DotKernel) (src weights bias : Array α)
    (count : Nat) (old new : Array α) : Prop where
  size_eq : new.size = old.size
  result : ∀ image < count, Cells.window new (image * d.dstImage) d.dstImage =
    d.planes (d.outputAt kernel (d.imageOf src image) weights bias)
  rest : ∀ i, count * d.dstImage ≤ i → new[i]? = old[i]?

def output (d : Descriptor) (kernel : DotKernel) (src weights bias : Array α) : List α :=
  (List.range d.batch).flatMap fun b => d.planes (d.outputAt kernel (d.imageOf src b) weights bias)

theorem getElem?_output (d : Descriptor) (kernel : DotKernel) (src weights bias : Array α)
    {b o y x : Nat}
    (hb : b < d.batch) (ho : o < d.outChannels) (hy : y < d.outHeight) (hx : x < d.outWidth) :
    (d.output kernel src weights bias)[
        ((b * d.outChannels + o) * d.outHeight + y) * d.outWidth + x]? =
      some (d.outputAt kernel (d.imageOf src b) weights bias o y x) := by
  rw [place_eq, output, getElem?_blocks (fun _ _ => d.length_planes _) hb
    (index_lt (index_lt ho hy) hx), d.getElem?_planes _ ho hy hx]

namespace Written

variable {d : Descriptor} {kernel : DotKernel} {src weights bias old new : Array α} {count : Nat}

theorem zero (d : Descriptor) (kernel : DotKernel) (src weights bias old : Array α) :
    d.Written kernel src weights bias 0 old old where
  size_eq := rfl
  result _ himage := absurd himage (Nat.not_lt_zero _)
  rest _ _ := rfl

/-- One more image is written: the earlier ones stay. -/
theorem step (hw : d.Written kernel src weights bias count old new)
    (hroom : count * d.dstImage + d.dstImage ≤ old.size) :
    d.Written kernel src weights bias (count + 1) old
      (Cells.splice new (count * d.dstImage)
        (d.planes (d.outputAt kernel (d.imageOf src count) weights bias))) := by
  have hlen := d.length_planes (d.outputAt kernel (d.imageOf src count) weights bias)
  have hsize := hw.size_eq
  have hfits : count * d.dstImage +
      (d.planes (d.outputAt kernel (d.imageOf src count) weights bias)).length ≤ new.size := by
    omega
  refine ⟨(Cells.size_splice hfits).trans hsize, ?_, ?_⟩
  · intro image himage
    rcases Nat.lt_or_ge image count with hlt | hge
    · have hstop := block_stop_le d.dstImage hlt
      rw [← hw.result image hlt]
      apply List.ext_getElem?
      intro i
      rw [Cells.getElem?_window, Cells.getElem?_window, Cells.getElem?_splice hfits]
      split
      · rw [if_neg (by omega)]
      · rfl
    · have hcount : image = count := by omega
      subst hcount
      exact Cells.window_splice hlen (by omega)
  · intro i hi
    rw [Nat.succ_mul] at hi
    rw [Cells.getElem?_splice hfits, if_neg (by omega), hw.rest i (by omega)]

/-- A written element, by its coordinates. -/
theorem getElem?_eq (hw : d.Written kernel src weights bias count old new) {b o y x : Nat}
    (hb : b < count) (ho : o < d.outChannels) (hy : y < d.outHeight) (hx : x < d.outWidth) :
    new[((b * d.outChannels + o) * d.outHeight + y) * d.outWidth + x]? =
      some (d.outputAt kernel (d.imageOf src b) weights bias o y x) := by
  have hlt : (o * d.outHeight + y) * d.outWidth + x < d.dstImage :=
    index_lt (index_lt ho hy) hx
  have hwindow := Cells.getElem?_window new (b * d.dstImage) d.dstImage
    ((o * d.outHeight + y) * d.outWidth + x)
  rw [if_pos hlt, hw.result b hb, d.getElem?_planes _ ho hy hx] at hwindow
  rw [place_eq, hwindow]

/-- A destination of just the right size in which every image has been written. -/
theorem eq_output (hw : d.Written kernel src weights bias d.batch old new)
    (hold : old.size = d.batch * d.dstImage) :
    new = (d.output kernel src weights bias).toArray := by
  have hlen : ∀ b < d.batch, (d.planes (d.outputAt kernel (d.imageOf src b) weights bias)).length =
      d.dstImage := fun _ _ => d.length_planes _
  have hsize := hw.size_eq
  apply Array.ext_getElem?
  intro i
  have hlist : (d.output kernel src weights bias).toArray[i]? =
      (d.output kernel src weights bias)[i]? := List.getElem?_toArray
  rw [hlist]
  rcases Nat.lt_or_ge i (d.batch * d.dstImage) with hi | hi
  · have hpos : 0 < d.dstImage := Nat.pos_of_lt_mul_left hi
    have himage : i / d.dstImage < d.batch := (Nat.div_lt_iff_lt_mul hpos).mpr hi
    have hplace : i % d.dstImage < d.dstImage := Nat.mod_lt i hpos
    have hblock := getElem?_blocks hlen himage hplace
    rw [← hw.result _ himage, Cells.getElem?_window, if_pos hplace, Nat.div_add_mod'] at hblock
    exact hblock.symm
  · rw [Array.getElem?_eq_none (by omega), output,
      List.getElem?_eq_none (by rw [length_blocks hlen]; exact hi)]

end Written

/-! ### The loop over the images -/

namespace Valid

variable {d : Descriptor} {kernel : DotKernel} (h : d.Valid)

include h

/-- The images from `image` on, when those before it have been written: the loop comes to the end
of the batch if the buffers hold every image, and stops with a report where they do not. -/
theorem runImages_eq {count image complete : Nat} {s : Stage α} {old : Array α}
    (hcomplete : d.completeImages s.src.size s.weights.size s.bias.size old.size = complete)
    (hcount : image + count = d.batch) (himage : image ≤ complete)
    (hscratch : d.scratchSize ≤ s.scratch.size)
    (hwritten : d.Written kernel s.src s.weights s.bias image old s.dst) :
    ∃ s' : Stage α, s'.scratch.size = s.scratch.size ∧
      d.Written kernel s.src s.weights s.bias complete old s'.dst ∧
      (complete = d.batch ∧ Primitive.runImages (d.operators kernel) count image s = (s', .ok ()) ∨
        complete < d.batch ∧ ∃ operator reason,
          Primitive.runImages (d.operators kernel) count image s =
            (s', .error (.error (.operatorFailed operator reason)))) := by
  induction count generalizing image s with
  | zero =>
      have hle : complete ≤ d.batch := hcomplete ▸ d.completeImages_le ..
      have hall : image = complete := by omega
      refine ⟨s, rfl, hall ▸ hwritten, .inl ⟨by omega, ?_⟩⟩
      rw [Primitive.runImages]
  | succ count ih =>
      have hbatch : ({ s with image } : Stage α).image < d.batch := by
        change image < d.batch
        omega
      have hfits : d.Fits { s with image } ↔ image < complete := by
        rw [h.fits_iff hbatch, hwritten.size_eq, hcomplete]
      rcases Nat.lt_or_ge image complete with hlt | hge
      · have hready := hfits.mpr hlt
        have hroom := hready.dst
        rw [hwritten.size_eq] at hroom
        obtain ⟨scratch, hsize, hrun⟩ := h.run_eq_ok hbatch hready hscratch
        rw [Primitive.runImages, hrun]
        -- the next round starts with this image written and the same room in the scratch
        obtain ⟨s', hsize', hwritten', hresult⟩ := ih (s := { s with
          image
          scratch
          dst := Cells.splice s.dst (image * d.dstImage)
            (d.planes (d.outputAt kernel (d.imageOf s.src image) s.weights s.bias)) })
          hcomplete (by omega) hlt (hsize ▸ hscratch) (hwritten.step hroom)
        exact ⟨s', hsize'.trans hsize, hwritten', hresult⟩
      · have hlast : image = complete := Nat.le_antisymm himage hge
        have hshort : ¬ d.Fits { s with image } := by
          rw [hfits]
          exact Nat.not_lt_of_le hge
        obtain ⟨scratch, hsize, operator, reason, hrun⟩ := h.run_eq_error hbatch hshort hscratch
        refine ⟨{ s with image, scratch }, hsize, hlast ▸ hwritten,
          .inr ⟨by omega, operator, reason, ?_⟩⟩
        rw [Primitive.runImages, hrun]

end Valid

end Descriptor

namespace Primitive

variable [Element α]

/-! ### Executions of a primitive -/

/-- A primitive that carries out a descriptor.  Nothing is said about the contents of its
scratch. -/
structure Carries (p : Primitive α) (d : Descriptor) (kernel : DotKernel) : Prop where
  desc_eq : p.desc = d
  operators_eq : p.operators = d.operators kernel
  scratch_size : p.scratch.size = d.scratchSize

/-- The primitive after executions with the given memories, whether they succeeded or not. -/
def executeAll (p : Primitive α) (history : List (Memory α)) : Primitive α :=
  history.foldl (fun p m => (p.execute m).1.1) p

namespace Carries

variable {p : Primitive α} {d : Descriptor} {kernel : DotKernel}

theorem of_create [Processor] (hp : create d = .ok p) : p.Carries d .detect := by
  obtain ⟨-, -, rfl⟩ := create_eq_ok_iff.mp hp
  exact ⟨rfl, rfl, rfl⟩

omit [Element α] in
theorem with_scratch (hp : p.Carries d kernel) {scratch : Buffer α}
    (hsize : scratch.size = p.scratch.size) : Carries { p with scratch } d kernel :=
  ⟨hp.desc_eq, hp.operators_eq, hsize.trans hp.scratch_size⟩

omit [Element α] in
/-- Bound buffers have exactly the sizes of the descriptor. -/
theorem bind_iff (hp : p.Carries d kernel) (h : d.Valid) {m : Memory α} :
    p.bind m = .ok () ↔
      m.src.size = d.batch * d.srcImage ∧ m.weights.size = d.outChannels * d.patchSize ∧
        m.bias.size = d.outChannels ∧ m.dst.size = d.batch * d.dstImage := by
  simp only [Primitive.bind, hp.desc_eq, h.srcLen_eq, h.weightsLen_eq, h.dstLen_eq,
    Descriptor.biasLen, Attempt.liftM_eq, Attempt.ofChecked_ok, ok_bind]
  split
  · rename_i hfind
    constructor
    · intro hbound
      cases hbound
    · rintro ⟨hsrc, hweights, hbias, hdst⟩
      simp [hsrc, hweights, hbias, hdst] at hfind
  · rename_i hfind
    exact ⟨fun _ => by simpa using hfind, fun _ => rfl⟩

/-- An execution writes the images that the buffers hold, and reports a failure just if one of the
batch is missing. -/
theorem execute_eq (hp : p.Carries d kernel) (h : d.Valid) {m : Memory α} {complete : Nat}
    (hcomplete :
      d.completeImages m.src.size m.weights.size m.bias.size m.dst.size = complete) :
    ∃ scratch dst : Buffer α, scratch.size = p.scratch.size ∧
      d.Written kernel m.src.toArray m.weights.toArray m.bias.toArray complete
        m.dst.toArray dst.toArray ∧
      (complete = d.batch ∧ p.execute m = (({ p with scratch }, { m with dst }), .ok ()) ∨
        complete < d.batch ∧ ∃ operator reason,
          p.execute m = (({ p with scratch }, { m with dst }),
            .error (.error (.operatorFailed operator reason)))) := by
  have hscratch : d.scratchSize ≤ p.scratch.toArray.size :=
    Nat.le_of_eq (hp.scratch_size.symm.trans p.scratch.size_toArray.symm)
  simp only [← Buffer.size_toArray] at hcomplete
  obtain ⟨s', hsize, hwritten, hresult⟩ := h.runImages_eq
    (s := ⟨0, m.src.toArray, m.weights.toArray, m.bias.toArray, p.scratch.toArray,
      m.dst.toArray⟩)
    hcomplete (Nat.zero_add d.batch) (Nat.zero_le complete) hscratch
    (.zero d kernel m.src.toArray m.weights.toArray m.bias.toArray m.dst.toArray)
  rw [Buffer.size_toArray] at hsize
  refine ⟨.ofArray s'.scratch, .ofArray s'.dst, hsize, hwritten, ?_⟩
  rw [execute, hp.operators_eq, hp.desc_eq]
  obtain ⟨hall, hrun⟩ | ⟨hmissing, operator, reason, hrun⟩ := hresult
  · exact .inl ⟨hall, by rw [hrun]⟩
  · exact .inr ⟨hmissing, operator, reason, by rw [hrun]⟩

/-- With bound buffers an execution succeeds and writes the whole batch. -/
theorem execute_bound (hp : p.Carries d kernel) (h : d.Valid) {m : Memory α}
    (hbind : p.bind m = .ok ()) :
    ∃ scratch dst : Buffer α, scratch.size = p.scratch.size ∧
      d.Written kernel m.src.toArray m.weights.toArray m.bias.toArray d.batch
        m.dst.toArray dst.toArray ∧
      p.execute m = (({ p with scratch }, { m with dst }), .ok ()) := by
  obtain ⟨hsrc, hweights, hbias, hdst⟩ := (hp.bind_iff h).mp hbind
  have hcomplete :
      d.completeImages m.src.size m.weights.size m.bias.size m.dst.size = d.batch := by
    rw [hsrc, hweights, hbias, hdst, h.completeImages_exact]
  obtain ⟨scratch, dst, hscratch, hwritten, ⟨-, hrun⟩ | ⟨hmissing, -⟩⟩ :=
    hp.execute_eq h hcomplete
  · exact ⟨scratch, dst, hscratch, hwritten, hrun⟩
  · exact absurd hmissing (Nat.lt_irrefl d.batch)

theorem executeAll (hp : p.Carries d kernel) (h : d.Valid) (history : List (Memory α)) :
    (p.executeAll history).Carries d kernel := by
  induction history generalizing p with
  | nil => exact hp
  | cons m history ih =>
      obtain ⟨scratch, dst, hsize, -, hresult⟩ := hp.execute_eq h (m := m) rfl
      have hnext : (p.execute m).1.1 = { p with scratch } := by
        obtain ⟨-, hrun⟩ | ⟨-, operator, reason, hrun⟩ := hresult
        · rw [hrun]
        · rw [hrun]
      have hkept : (p.execute m).1.1.Carries d kernel := hnext ▸ hp.with_scratch hsize
      exact ih hkept

end Carries

end Primitive

end ConvLab
