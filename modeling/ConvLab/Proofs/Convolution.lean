import ConvLab.Proofs.Execution
import ConvLab.Scalar.Single

/-!
# What a primitive computes

The padded, strided convolution, given coordinate by coordinate on the flat buffers, and the two
theorems that relate an execution to it.

* `Descriptor.Covers` — the elements under the kernel at an output pixel, zeros outside the image;
* `Descriptor.IsOutput` — an output element, operation for operation;
* `Primitive.execute_isOutput` — with bound buffers every element of the destination is one,
  whatever the scratch and the destination held before;
* `Primitive.execute_imagewise` — with buffers of any sizes the images that they hold are written
  as by themselves, and nothing else is touched.
-/

namespace ConvLab

variable {α : Type} [Element α]

namespace Descriptor

variable (d : Descriptor)

/-! ### The convolution -/

/-- The list holds what the kernel covers at the pixel in row `y`, column `x` of output image `b`:
elements of the source, and zeros where the kernel reaches into the padding. -/
structure Covers (src : Array α) (b y x : Nat) (patch : List α) : Prop where
  length_eq : patch.length = d.patchSize
  getElem?_eq : ∀ c < d.inChannels, ∀ ky < d.kernelH, ∀ kx < d.kernelW,
    patch[(c * d.kernelH + ky) * d.kernelW + kx]? =
      if d.padH ≤ y * d.strideH + ky ∧ y * d.strideH + ky - d.padH < d.inH ∧
          d.padW ≤ x * d.strideW + kx ∧ x * d.strideW + kx - d.padW < d.inW then
        src[((b * d.inChannels + c) * d.inH + (y * d.strideH + ky - d.padH)) * d.inW +
          (x * d.strideW + kx - d.padW)]?
      else some Element.zero

omit [Element α] in
/-- The list holds the channels of the source at the pixel in row `y`, column `x` of image `b`. -/
structure Channels (src : Array α) (b y x : Nat) (pixel : List α) : Prop where
  length_eq : pixel.length = d.inChannels
  getElem?_eq : ∀ c < d.inChannels,
    pixel[c]? = src[((b * d.inChannels + c) * d.inH + y) * d.inW + x]?

omit [Element α] in
/-- The list holds the weights of output channel `o`. -/
structure Weights (weights : Array α) (o : Nat) (row : List α) : Prop where
  length_eq : row.length = d.patchSize
  getElem?_eq : ∀ i < d.patchSize, row[i]? = weights[o * d.patchSize + i]?

/-- The value is the sum behind an output element: a dot product added to the bias or, for a
pointwise convolution, the products added to the bias one by one. -/
def IsSum (kernel : DotKernel) (src weights bias : Array α) (b o y x : Nat) (value : α) : Prop :=
  ∃ first row, bias[o]? = some first ∧ d.Weights weights o row ∧
    if d.isPointwise then
      ∃ pixel, d.Channels src b y x pixel ∧ value =
        (row.zip pixel).foldl (fun sum (weight, x) => Element.mulAdd weight x sum) first
    else
      ∃ patch, d.Covers src b y x patch ∧ value = Element.add first (dot kernel row patch)

/-- The value is the output element of channel `o`, row `y`, column `x` of image `b`: the sum behind
it, then the larger of it and zero for every post-operation. -/
def IsOutput (kernel : DotKernel) (src weights bias : Array α) (b o y x : Nat) (value : α) : Prop :=
  ∃ sum, d.IsSum kernel src weights bias b o y x sum ∧
    value = d.postOps.foldl (fun value _ => Element.max value Element.zero) sum

variable {d} {kernel : DotKernel} {src weights bias : Array α} {b o y x : Nat}

theorem applyAll_eq (ops : List PostOp) (sum : α) :
    PostOp.applyAll ops sum =
      ops.foldl (fun value _ => Element.max value Element.zero) sum := by
  induction ops generalizing sum with
  | nil => rfl
  | cons op ops ih =>
      cases op
      exact ih (Element.max sum Element.zero)

theorem receptiveField_covers (hsrc : b * d.srcImage + d.srcImage ≤ src.size) :
    d.Covers src b y x (d.receptiveField (d.imageOf src b) y x) where
  length_eq := d.length_receptiveField _ y x
  getElem?_eq c hc ky hky kx hkx := by
    rw [d.getElem?_receptiveField _ y x hc hky hkx, tap]
    generalize y * d.strideH + ky = row
    generalize x * d.strideW + kx = column
    split
    · rename_i hinside
      have hrow : row - d.padH < d.inH := by omega
      have hcolumn : column - d.padW < d.inW := by omega
      rw [if_pos (by omega), d.getElem?_eq_imageOf hsrc hc hrow hcolumn]
    · rw [if_neg (by omega)]

omit [Element α] in
theorem window_weights (ho : o < d.outChannels)
    (hweights : d.outChannels * d.patchSize ≤ weights.size) :
    d.Weights weights o (Cells.window weights (o * d.patchSize) d.patchSize) where
  length_eq := by
    have hstop := block_stop_le d.patchSize ho
    exact Cells.length_window (by omega)
  getElem?_eq i hi := by
    rw [Cells.getElem?_window, if_pos hi]

/-- The output elements of the images are those of the convolution. -/
theorem Valid.isOutput_outputAt (h : d.Valid)
    (hsrc : b * d.srcImage + d.srcImage ≤ src.size)
    (hweights : d.outChannels * d.patchSize ≤ weights.size) (hbias : d.outChannels ≤ bias.size)
    (ho : o < d.outChannels) (hy : y < d.outHeight) (hx : x < d.outWidth) :
    d.IsOutput kernel src weights bias b o y x
      (d.outputAt kernel (d.imageOf src b) weights bias o y x) := by
  refine ⟨_, ?_, applyAll_eq _ _⟩
  refine ⟨bias.getD o Element.zero, _, getElem?_eq_getD (by omega) _,
    window_weights ho hweights, ?_⟩
  cases hp : d.isPointwise with
  | false =>
      refine ⟨_, receptiveField_covers hsrc, rfl⟩
  | true =>
      obtain ⟨hpatch, hheight, hwidth⟩ := h.pointwise_extents hp
      rw [hheight] at hy
      rw [hwidth] at hx
      refine ⟨d.channelsAt (d.imageOf src b) y x, ⟨by simp [channelsAt], ?_⟩, rfl⟩
      intro c hc
      rw [channelsAt, getElem?_range_map _ hc, d.getElem?_eq_imageOf hsrc hc hy hx]

theorem Written.isOutput {count : Nat} {old new : Array α}
    (hw : d.Written kernel src weights bias count old new) (h : d.Valid) (hb : b < count)
    (hsrc : b * d.srcImage + d.srcImage ≤ src.size)
    (hweights : d.outChannels * d.patchSize ≤ weights.size) (hbias : d.outChannels ≤ bias.size)
    (ho : o < d.outChannels) (hy : y < d.outHeight) (hx : x < d.outWidth) :
    ∃ value, new[((b * d.outChannels + o) * d.outHeight + y) * d.outWidth + x]? = some value ∧
      d.IsOutput kernel src weights bias b o y x value :=
  ⟨_, hw.getElem?_eq hb ho hy hx, h.isOutput_outputAt hsrc hweights hbias ho hy hx⟩

/-! ### One image by itself -/

omit [Element α] in
theorem getD_front {xs : Array α} {i n : Nat} (hi : i < n) (e : α) :
    (xs.extract 0 n).getD i e = xs.getD i e := by
  rw [Array.getD_eq_getD_getElem?, Array.getD_eq_getD_getElem?, Array.getElem?_extract,
    Nat.zero_add]
  split
  · rfl
  · rw [Array.getElem?_eq_none (by omega)]

/-- Weights and biases that the descriptor does not ask for play no part. -/
theorem planes_outputAt_front (image : Array α) :
    d.planes (d.outputAt kernel image (weights.extract 0 (d.outChannels * d.patchSize))
        (bias.extract 0 d.outChannels)) =
      d.planes (d.outputAt kernel image weights bias) := by
  apply planes_congr
  intro o ho y _ x _
  have hstop := block_stop_le d.patchSize ho
  simp only [outputAt, pixelSum, fieldSum, getD_front ho, Cells.window_front hstop]

omit [Element α] in
/-- An image cut out of the source is the first one of the part. -/
theorem imageOf_extract (d : Descriptor) (src : Array α) (b : Nat) :
    d.imageOf (src.extract (b * d.srcImage) ((b + 1) * d.srcImage)) 0 = d.imageOf src b := by
  rw [imageOf, imageOf, Nat.zero_mul, Nat.zero_add, Nat.succ_mul, Array.extract_extract]
  congr 1
  omega

omit [Element α] in
/-- A batch of one image is as valid as a larger one. -/
theorem Valid.single (h : d.Valid) : Valid { d with batch := 1 } :=
  { h with
    batch_pos := Nat.one_pos
    source_word := by
      change 1 * d.srcImage < _
      rw [Nat.one_mul]
      exact h.srcImage_word
    destination_word := by
      change 1 * d.dstImage < _
      rw [Nat.one_mul]
      exact h.dstImage_word }

omit [Element α] in
/-- The part of a memory that belongs to one image: its source, as many weights and biases as the
descriptor asks for, and a destination of its own. -/
def imageMemory (d : Descriptor) (m : Memory α) (b : Nat) (dst : Buffer α) : Memory α where
  src := .ofArray (m.src.toArray.extract (b * d.srcImage) ((b + 1) * d.srcImage))
  weights := .ofArray (m.weights.toArray.extract 0 (d.outChannels * d.patchSize))
  bias := .ofArray (m.bias.toArray.extract 0 d.outChannels)
  dst

end Descriptor

namespace Primitive

variable {d : Descriptor} {kernel : DotKernel} {p : Primitive α}

omit [Element α] in
/-- The part of a memory that belongs to an image is bound to a primitive for single images. -/
theorem Carries.bind_imageMemory (hp : p.Carries { d with batch := 1 } kernel) (h : d.Valid)
    {m : Memory α} {b : Nat} {prior : Buffer α}
    (hweights : d.outChannels * d.patchSize ≤ m.weights.size)
    (hbias : d.outChannels ≤ m.bias.size)
    (hsrc : b * d.srcImage + d.srcImage ≤ m.src.size) (hprior : prior.size = d.dstImage) :
    p.bind (d.imageMemory m b prior) = .ok () := by
  refine (hp.bind_iff h.single).mpr ⟨?_, ?_, ?_, ?_⟩
  · change _ = 1 * d.srcImage
    rw [Descriptor.imageMemory, Buffer.size_ofArray, Array.size_extract, Buffer.size_toArray,
      Nat.succ_mul]
    omega
  · change _ = d.outChannels * d.patchSize
    rw [Descriptor.imageMemory, Buffer.size_ofArray, Array.size_extract, Buffer.size_toArray]
    omega
  · change _ = d.outChannels
    rw [Descriptor.imageMemory, Buffer.size_ofArray, Array.size_extract, Buffer.size_toArray]
    omega
  · change prior.size = 1 * d.dstImage
    rw [Nat.one_mul, hprior]

/-- A primitive for single images, bound to the part of one image, computes that image. -/
theorem Carries.execute_single (hp : p.Carries { d with batch := 1 } kernel) (h : d.Valid)
    {m : Memory α} {b : Nat} {prior : Buffer α}
    (hbind : p.bind (d.imageMemory m b prior) = .ok ()) (hprior : prior.size = d.dstImage) :
    ∃ r, p.execute (d.imageMemory m b prior) = (r, .ok ()) ∧
      r.2.dst.toArray.toList = d.planes
        (d.outputAt kernel (d.imageOf m.src.toArray b) m.weights.toArray m.bias.toArray) := by
  obtain ⟨scratch, dst, -, hwritten, hrun⟩ := hp.execute_bound h.single hbind
  refine ⟨_, hrun, ?_⟩
  have hsize : dst.toArray.size = d.dstImage :=
    hwritten.size_eq.trans (prior.size_toArray.trans hprior)
  have hresult : Cells.window dst.toArray (0 * d.dstImage) d.dstImage =
      d.planes (d.outputAt kernel
        (d.imageOf (m.src.toArray.extract (b * d.srcImage) ((b + 1) * d.srcImage)) 0)
        (m.weights.toArray.extract 0 (d.outChannels * d.patchSize))
        (m.bias.toArray.extract 0 d.outChannels)) := hwritten.result 0 Nat.one_pos
  rwa [d.imageOf_extract, Descriptor.planes_outputAt_front, Nat.zero_mul,
    Cells.window_whole hsize] at hresult

omit [Element α] in
/-- The buffers hold every image before the complete ones end. -/
theorem fits_of_complete (h : d.Valid) {m : Memory α} {complete b : Nat}
    (hcomplete : d.completeImages m.src.size m.weights.size m.bias.size m.dst.size = complete)
    (hb : b < complete) :
    d.Fits ⟨b, m.src.toArray, m.weights.toArray, m.bias.toArray, #[], m.dst.toArray⟩ := by
  have hle : complete ≤ d.batch := hcomplete ▸ d.completeImages_le ..
  refine (h.fits_iff (Nat.lt_of_lt_of_le hb hle)).mpr ?_
  simp only [Buffer.size_toArray]
  exact Nat.lt_of_lt_of_eq hb hcomplete.symm

/-- An execution, with its answer told apart by whether the batch is complete. -/
theorem Carries.execute_answer (hp : p.Carries d kernel) (h : d.Valid) {m : Memory α}
    {complete : Nat}
    (hcomplete : d.completeImages m.src.size m.weights.size m.bias.size m.dst.size = complete) :
    ∃ q dst result, p.execute m = ((q, { m with dst }), result) ∧
      d.Written kernel m.src.toArray m.weights.toArray m.bias.toArray complete
        m.dst.toArray dst.toArray ∧
      (result = .ok () ↔ complete = d.batch) ∧
      (complete ≠ d.batch →
        ∃ operator reason, result = .error (.error (.operatorFailed operator reason))) := by
  obtain ⟨scratch, dst, -, hwritten, hresult⟩ := hp.execute_eq h hcomplete
  obtain ⟨hall, hrun⟩ | ⟨hmissing, operator, reason, hrun⟩ := hresult
  · exact ⟨_, dst, _, hrun, hwritten, ⟨fun _ => hall, fun _ => rfl⟩,
      fun hne => absurd hall hne⟩
  · have hne := Nat.ne_of_lt hmissing
    exact ⟨_, dst, _, hrun, hwritten,
      ⟨(fun hok => nomatch hok), fun hall => absurd hall hne⟩, fun _ => ⟨operator, reason, rfl⟩⟩

/-! ### Executions and the convolution -/

/-- A primitive computes the convolution, whatever happened before: with bound buffers it succeeds
after any executions and with anything in its scratch, and every element of the destination is the
output element of its coordinates. -/
theorem execute_isOutput [Processor] (hcreate : create d = .ok p) (history : List (Memory α))
    {scratch : Buffer α} (hscratch : scratch.size = (p.executeAll history).scratch.size)
    {m : Memory α} (hbind : p.bind m = .ok ()) :
    d.outH = .ok d.outHeight ∧ d.outW = .ok d.outWidth ∧
      ∃ q dst, execute { p.executeAll history with scratch } m = ((q, { m with dst }), .ok ()) ∧
        dst.size = m.dst.size ∧
        ∀ b < d.batch, ∀ o < d.outChannels, ∀ y < d.outHeight, ∀ x < d.outWidth, ∃ value,
          dst.toArray[((b * d.outChannels + o) * d.outHeight + y) * d.outWidth + x]? =
            some value ∧
          d.IsOutput .detect m.src.toArray m.weights.toArray m.bias.toArray b o y x value := by
  obtain ⟨h, -, -⟩ := create_eq_ok_iff.mp hcreate
  have hp := Carries.of_create hcreate
  obtain ⟨hsrc, hweights, hbias, hdst⟩ := (hp.bind_iff h).mp hbind
  have hp' := (hp.executeAll h history).with_scratch hscratch
  obtain ⟨scratch', dst, -, hwritten, hrun⟩ :=
    hp'.execute_bound h ((hp'.bind_iff h).mpr ⟨hsrc, hweights, hbias, hdst⟩)
  simp only [← Buffer.size_toArray] at hsrc hweights hbias
  refine ⟨h.outH_eq, h.outW_eq, _, dst, hrun, by simpa using hwritten.size_eq, ?_⟩
  intro b hb o ho y hy x hx
  have hstop := block_stop_le d.srcImage hb
  exact hwritten.isOutput h hb (by omega) (by omega) (by omega) ho hy hx

/-- A descriptor of two rectangular images whose padding is wider than the kernel. -/
def wide : Descriptor where
  batch := 2
  inChannels := 1
  inH := 2
  inW := 3
  outChannels := 2
  kernelH := 1
  kernelW := 2
  padH := 0
  padW := 3
  strideH := 1
  strideW := 2
  postOps := [.relu, .relu]

/-- Buffers for two images, with a destination of the given size. -/
def ramp (dst : Nat) : Memory Float32 where
  src := .ofArray #[1, 2, 3, 4, 5, 6, 7, 8, 9, 10, 11, 12]
  weights := .ofArray #[-1, 1, 2, 1]
  bias := .ofArray #[0.5, -7]
  dst := .tabulate dst fun _ => 7

theorem create_wide [Processor] : create wide = .ok (wide.primitive : Primitive Float32) :=
  create_eq_ok_iff.mpr ⟨Descriptor.valid_of_validate (by rfl), by decide, rfl⟩

section

attribute [local instance] Processor.vector

/-- A primitive that failed for want of room in the destination, with old elements in its
scratch. -/
def used : Primitive Float32 :=
  { wide.primitive.executeAll [ramp 20] with scratch := .tabulate 16 fun _ => 3 }

/-- An earlier failure and a dirty scratch leave no trace in the next execution.  Where the second
channel falls below zero, it is rectified. -/
theorem execute_isOutput_wide :
    wide.primitive.bind (ramp 32) = .ok () ∧
      ∃ q dst, used.execute (ramp 32) = ((q, { ramp 32 with dst }), .ok ()) ∧
      dst.toArray = #[
        0.5, 1.5, 1.5, 0.5, 0.5, 4.5, 1.5, 0.5, 0, 0, 0, 0, 0, 0, 9, 0,
        0.5, 7.5, 1.5, 0.5, 0.5, 10.5, 1.5, 0.5, 0, 0, 18, 0, 0, 3, 27, 0] ∧
      ∀ b < 2, ∀ o < 2, ∀ y < 2, ∀ x < 4, ∃ value,
        dst.toArray[((b * 2 + o) * 2 + y) * 4 + x]? = some value ∧
        wide.IsOutput .avx512Fma (ramp 32).src.toArray (ramp 32).weights.toArray
          (ramp 32).bias.toArray b o y x value := by
  obtain ⟨h, -, -⟩ := create_eq_ok_iff.mp create_wide
  have hp := Carries.of_create create_wide
  have hbind : wide.primitive.bind (ramp 32) = .ok () :=
    (hp.bind_iff h).mpr ⟨rfl, rfl, rfl, rfl⟩
  have hscratch : (Buffer.tabulate 16 fun _ => (3 : Float32)).size =
      (wide.primitive.executeAll [ramp 20]).scratch.size :=
    (hp.executeAll h [ramp 20]).scratch_size.symm
  obtain ⟨-, -, q, dst, hrun, -, houtput⟩ :=
    execute_isOutput create_wide [ramp 20] hscratch hbind
  have hused : used.execute (ramp 32) = ((q, { ramp 32 with dst }), .ok ()) := hrun
  have hdst : dst.toArray = (used.execute (ramp 32)).1.2.dst.toArray := by rw [hused]
  exact ⟨hbind, q, dst, hused, hdst.trans (by decide +kernel), houtput⟩

end

/-- A failed execution is atomic image by image.  With buffers of any sizes an execution never
traps; it succeeds just if the buffers hold every image of the batch, and otherwise an operator
reports the failure.  The images that the buffers hold get the complete result, the same as from a
primitive for single images that is bound to the image alone, and behind them the destination is
as it was. -/
theorem execute_imagewise [Processor] (hcreate : create d = .ok p) (history : List (Memory α))
    {scratch : Buffer α} (hscratch : scratch.size = (p.executeAll history).scratch.size)
    (m : Memory α) {complete : Nat}
    (hcomplete : complete =
      if m.weights.size < d.outChannels * d.patchSize ∨ m.bias.size < d.biasLen then 0
      else min d.batch (min (m.src.size / d.srcImage) (m.dst.size / d.dstImage))) :
    d.srcImageLen = .ok d.srcImage ∧ d.dstImageLen = .ok d.dstImage ∧
    d.weightsLen = .ok (d.outChannels * d.patchSize) ∧
    d.outH = .ok d.outHeight ∧ d.outW = .ok d.outWidth ∧
    ∃ q dst result,
      execute { p.executeAll history with scratch } m = ((q, { m with dst }), result) ∧
      (result = .ok () ↔ complete = d.batch) ∧
      (complete ≠ d.batch →
        ∃ operator reason, result = .error (.error (.operatorFailed operator reason))) ∧
      dst.size = m.dst.size ∧
      (∀ i, complete * d.dstImage ≤ i → dst.toArray[i]? = m.dst.toArray[i]?) ∧
      (∀ b < complete, ∀ o < d.outChannels, ∀ y < d.outHeight, ∀ x < d.outWidth, ∃ value,
        dst.toArray[((b * d.outChannels + o) * d.outHeight + y) * d.outWidth + x]? =
          some value ∧
        d.IsOutput .detect m.src.toArray m.weights.toArray m.bias.toArray b o y x value) ∧
      ∃ single : Primitive α, create { d with batch := 1 } = .ok single ∧
        ∀ b < complete, ∀ prior : Buffer α, prior.size = d.dstImage →
          single.bind (d.imageMemory m b prior) = .ok () ∧
          ∃ r, single.execute (d.imageMemory m b prior) = (r, .ok ()) ∧
            r.2.dst.toArray =
              dst.toArray.extract (b * d.dstImage) ((b + 1) * d.dstImage) := by
  obtain ⟨h, hmax, -⟩ := create_eq_ok_iff.mp hcreate
  have hp := (Carries.of_create hcreate).executeAll h history
  have hsingle : create { d with batch := 1 } =
      .ok (Descriptor.primitive { d with batch := 1 } : Primitive α) :=
    create_eq_ok_iff.mpr ⟨h.single, hmax, rfl⟩
  obtain ⟨q, dst, result, hrun, hwritten, hok, herror⟩ :=
    (hp.with_scratch hscratch).execute_answer h hcomplete.symm
  refine ⟨h.srcImageLen_eq, h.dstImageLen_eq, h.weightsLen_eq, h.outH_eq, h.outW_eq, q, dst,
    result, hrun, hok, herror, by simpa using hwritten.size_eq, hwritten.rest, ?_, _, hsingle, ?_⟩
  · intro b hb o ho y hy x hx
    have hb' := fits_of_complete h hcomplete.symm hb
    exact hwritten.isOutput h hb hb'.src hb'.weights hb'.bias ho hy hx
  · intro b hb prior hprior
    have hb' := fits_of_complete h hcomplete.symm hb
    have hp' := Carries.of_create hsingle
    have hbind := hp'.bind_imageMemory h (by simpa using hb'.weights) (by simpa using hb'.bias)
      (by simpa using hb'.src) hprior
    obtain ⟨r, hrun, hlist⟩ := hp'.execute_single h hbind hprior
    refine ⟨hbind, r, hrun, ?_⟩
    rw [← hwritten.result b hb, Cells.window, ← Nat.succ_mul] at hlist
    exact Array.toList_inj.mp hlist

section

attribute [local instance] Processor.vector

/-- A destination with room for one image and a part of the next. -/
theorem execute_imagewise_wide :
    ∃ q dst operator reason,
      wide.primitive.execute (ramp 20) = ((q, { ramp 20 with dst }),
        .error (.error (.operatorFailed operator reason))) ∧
      dst.toArray = #[
        0.5, 1.5, 1.5, 0.5, 0.5, 4.5, 1.5, 0.5, 0, 0, 0, 0, 0, 0, 9, 0, 7, 7, 7, 7] ∧
      ∀ o < 2, ∀ y < 2, ∀ x < 4, ∃ value,
        dst.toArray[((0 * 2 + o) * 2 + y) * 4 + x]? = some value ∧
        wide.IsOutput .avx512Fma (ramp 20).src.toArray (ramp 20).weights.toArray
          (ramp 20).bias.toArray 0 o y x value := by
  have hcomplete : 1 =
      if (ramp 20).weights.size < wide.outChannels * wide.patchSize ∨
        (ramp 20).bias.size < wide.biasLen then 0
      else min wide.batch (min ((ramp 20).src.size / wide.srcImage)
        ((ramp 20).dst.size / wide.dstImage)) := by decide
  obtain ⟨-, -, -, -, -, q, dst, result, hrun, -, herror, -, -, houtput, -⟩ :=
    execute_imagewise create_wide [] rfl (ramp 20) hcomplete
  obtain ⟨operator, reason, rfl⟩ := herror (by decide)
  have hfailed : wide.primitive.execute (ramp 20) = ((q, { ramp 20 with dst }),
      .error (.error (.operatorFailed operator reason))) := hrun
  have hdst : dst.toArray = (wide.primitive.execute (ramp 20)).1.2.dst.toArray := by rw [hfailed]
  exact ⟨q, dst, operator, reason, hfailed, hdst.trans (by decide +kernel), houtput 0 Nat.one_pos⟩

end

end Primitive

end ConvLab
