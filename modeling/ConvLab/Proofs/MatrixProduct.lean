import ConvLab.Proofs.ReceptiveField

/-!
# Matrix products of an image

The product of the weights with the columns of an image writes one output plane for each output
channel, over whatever the destination held.  From the scratch it adds a dot product with the
receptive field of each pixel to the bias; from the source it starts with the bias and adds the
planes one after the other.

* `Descriptor.fieldSum`, `Descriptor.pixelSum` — an output element before the post-operations;
* `Descriptor.planes` — an output image, given by channel, row and column;
* `Gemm.rowOfPlanes_eq` — adding whole planes is adding at each pixel;
* `Gemm.apply_scratch_eq`, `Gemm.apply_source_eq` — the destination after the product;
* `Gemm.apply_eq_error` — with a buffer too short it writes nothing.
-/

namespace ConvLab

variable {α : Type}

theorem Cells.window_front {xs : Array α} {n start count : Nat} (h : start + count ≤ n) :
    window (xs.extract 0 n) start count = window xs start count := by
  apply List.ext_getElem?
  intro i
  rw [getElem?_window, getElem?_window]
  split
  · rw [Array.getElem?_extract, Nat.zero_add]
    split
    · rfl
    · rw [Array.getElem?_eq_none (by omega)]
  · rfl

variable [Element α]

namespace Descriptor

variable (d : Descriptor)

/-- The bias plus the dot product of the weights with the receptive field. -/
def fieldSum (kernel : DotKernel) (image weights bias : Array α) (o y x : Nat) : α :=
  Element.add (bias.getD o Element.zero)
    (dot kernel (Cells.window weights (o * d.patchSize) d.patchSize) (d.receptiveField image y x))

def channelsAt (image : Array α) (y x : Nat) : List α :=
  (List.range d.inChannels).map fun c => image.getD ((c * d.inH + y) * d.inW + x) Element.zero

/-- The bias plus the products of one pixel, channel after channel. -/
def pixelSum (image weights bias : Array α) (o y x : Nat) : α :=
  ((Cells.window weights (o * d.patchSize) d.patchSize).zip (d.channelsAt image y x)).foldl
    (fun sum (weight, value) => Element.mulAdd weight value sum) (bias.getD o Element.zero)

/-- An output image given by channel, row and column, plane by plane. -/
def planes (f : Nat → Nat → Nat → α) : List α :=
  (List.range d.outChannels).flatMap fun o => (List.range d.pixels).map fun pixel =>
    f o (pixel / d.outWidth) (pixel % d.outWidth)

omit [Element α] in
theorem length_planes (f : Nat → Nat → Nat → α) : (d.planes f).length = d.dstImage := by
  rw [planes, length_blocks fun _ _ => (by simp : _ = d.pixels), dstImage_eq]

omit [Element α] in
theorem getElem?_planes (f : Nat → Nat → Nat → α) {o y x : Nat} (ho : o < d.outChannels)
    (hy : y < d.outHeight) (hx : x < d.outWidth) :
    (d.planes f)[(o * d.outHeight + y) * d.outWidth + x]? = some (f o y x) := by
  have hplace : (o * d.outHeight + y) * d.outWidth + x =
      o * d.pixels + (y * d.outWidth + x) := by
    rw [pixels, Nat.add_mul, Nat.mul_assoc, Nat.add_assoc]
  have hpixel : y * d.outWidth + x < d.pixels := index_lt hy hx
  rw [hplace, planes, getElem?_blocks (fun _ _ => by simp) ho hpixel, getElem?_range_map _ hpixel,
    index_div hx, index_mod hx]

omit [Element α] in
theorem planes_congr {d : Descriptor} {f g : Nat → Nat → Nat → α}
    (hfg : ∀ o < d.outChannels, ∀ y < d.outHeight, ∀ x < d.outWidth, f o y x = g o y x) :
    d.planes f = d.planes g := by
  rw [planes, planes, List.flatMap_def, List.flatMap_def]
  congr 1
  apply List.map_congr_left
  intro o ho
  apply List.map_congr_left
  intro pixel hpixel
  exact hfg o (List.mem_range.mp ho) _
    ((Nat.div_lt_iff_lt_mul d.outWidth_pos).mpr (List.mem_range.mp hpixel)) _
    (Nat.mod_lt pixel d.outWidth_pos)

theorem isPointwise_iff {d : Descriptor} :
    d.isPointwise = true ↔ d.kernelH = 1 ∧ d.kernelW = 1 ∧ d.strideH = 1 ∧ d.strideW = 1 ∧
      d.padH = 0 ∧ d.padW = 0 := by
  simp [isPointwise]

/-- A pointwise convolution reads each pixel at its own place. -/
theorem Valid.pointwise_extents {d : Descriptor} (h : d.Valid) (hp : d.isPointwise) :
    d.patchSize = d.inChannels ∧ d.outHeight = d.inH ∧ d.outWidth = d.inW := by
  obtain ⟨hkh, hkw, hsh, hsw, hph, hpw⟩ := isPointwise_iff.mp hp
  have hinH := h.inH_pos
  have hinW := h.inW_pos
  refine ⟨?_, ?_, ?_⟩
  · rw [patchSize, hkh, hkw, Nat.mul_one, Nat.mul_one]
  · rw [outHeight, hkh, hsh, hph, Nat.div_one]
    omega
  · rw [outWidth, hkw, hsw, hpw, Nat.div_one]
    omega

/-- The sum of a pixel as a fold over the channels. -/
theorem pixelSum_eq_foldl {d : Descriptor} {image weights bias : Array α} {o y x : Nat}
    (hpatch : d.patchSize = d.inChannels) (ho : o < d.outChannels)
    (hweights : d.outChannels * d.patchSize ≤ weights.size) :
    d.pixelSum image weights bias o y x = (List.range d.inChannels).foldl (fun sum c =>
      Element.mulAdd (weights.getD (o * d.inChannels + c) Element.zero)
        (image.getD ((c * d.inH + y) * d.inW + x) Element.zero) sum)
      (bias.getD o Element.zero) := by
  have hstop := block_stop_le d.patchSize ho
  rw [pixelSum, Cells.window_eq_map (by omega) Element.zero, channelsAt, hpatch, List.zip_map',
    List.foldl_map]

theorem Valid.pointwise_srcImage {d : Descriptor} (h : d.Valid) (hp : d.isPointwise) :
    d.patchSize * d.pixels = d.srcImage := by
  obtain ⟨hpatch, hheight, hwidth⟩ := h.pointwise_extents hp
  rw [hpatch, pixels, hheight, hwidth, srcImage, Nat.mul_assoc]

end Descriptor

namespace Gemm

/-! ### Rows -/

theorem rowOfPatches_eq {kernel : DotKernel} {n : Nat} {f : Nat → List α}
    {row weights : List α} {bias : α} (hrow : row.length = n) :
    rowOfPatches kernel ((List.range n).map f) row weights bias =
      (List.range n).map fun i => Element.add bias (dot kernel weights (f i)) := by
  rw [rowOfPatches, Cells.update_eq_zipWith (by simp [hrow])]
  apply eq_range_map (by simp [hrow])
  intro i hi
  rw [List.getElem?_zipWith, List.getElem?_eq_getElem (by omega), getElem?_range_map f hi]

/-- Adding the planes one after the other is, at each pixel, a fold over the planes. -/
theorem rowOfPlanes_eq {n : Nat} {planes : List (List α)} {row weights : List α} {bias : α}
    (hrow : row.length = n) (hplanes : ∀ plane ∈ planes, plane.length = n) :
    rowOfPlanes planes row weights bias =
      (List.range n).map fun i => (weights.zip planes).foldl
        (fun sum step => Element.mulAdd step.1 (step.2.getD i Element.zero) sum) bias := by
  have hstart : List.replicate row.length bias = (List.range n).map fun _ => bias := by
    rw [hrow, List.map_const', List.length_range]
  rw [rowOfPlanes, hstart]
  exact Cells.foldl_update (g := fun weight out value => Element.mulAdd weight value out)
    (fun step hstep => hplanes step.2 (List.of_mem_zip hstep).2) Element.zero fun _ => bias

/-! ### The product of an image -/

variable {d : Descriptor} {kernel : DotKernel}

/-- The three row sequences of a product, read off together: one output row for each channel. -/
theorem outputs_eq {weights bias old : Array α} (hold : old.size = d.dstImage)
    (hbias : d.outChannels ≤ bias.size)
    {rewrite : List α → List α → α → List α} {target : Nat → List α}
    (hrow : ∀ o < d.outChannels, ∀ row : List α, row.length = d.pixels →
      rewrite row (Cells.window weights (o * d.patchSize) d.patchSize)
        (bias.getD o Element.zero) = target o) :
    (((((List.range d.outChannels).map fun o => Cells.window old (o * d.pixels) d.pixels).zip
        ((List.range d.outChannels).map fun o =>
          Cells.window (weights.extract 0 (d.outChannels * d.patchSize)) (o * d.patchSize)
            d.patchSize)).zip (bias.extract 0 d.outChannels).toList).flatMap
      fun ((row, weights), bias) => rewrite row weights bias) =
      (List.range d.outChannels).flatMap target := by
  have hbiases : (bias.extract 0 d.outChannels).toList =
      (List.range d.outChannels).map fun o => bias.getD o Element.zero := by
    have hfront : Cells.window bias 0 d.outChannels = _ :=
      Cells.window_eq_map (by omega) Element.zero
    simpa [Cells.window] using hfront
  rw [hbiases, List.zip_map', List.zip_map', List.flatMap_map]
  rw [List.flatMap_def, List.flatMap_def]
  congr 1
  apply List.map_congr_left
  intro o ho
  have ho' := List.mem_range.mp ho
  have hstop := block_stop_le d.patchSize ho'
  have hrows := block_stop_le d.pixels ho'
  rw [← d.dstImage_eq] at hrows
  change rewrite _ _ _ = target o
  rw [Cells.window_front hstop]
  exact hrow o ho' _ (Cells.length_window (by omega))

variable (h : d.Valid)

include h

theorem weightCount_eq (columns : Columns) :
    Word.mul (d.product kernel columns).outChannels (d.product kernel columns).patchLen =
      .ok (d.outChannels * d.patchSize) :=
  Word.mul_of_lt h.weights_word

theorem outputCount_eq (columns : Columns) :
    Word.mul (d.product kernel columns).outChannels (d.product kernel columns).pixels =
      .ok d.dstImage := by
  rw [d.dstImage_eq]
  exact Word.mul_of_lt (d.dstImage_eq ▸ h.dstImage_word)

/-- The product of an image whose columns are given: each output row is rewritten as a whole, and
nothing else of the destination changes. -/
theorem apply_eq {columns : Columns} {s : Stage α} {cells : Array α}
    {rewrite : List α → List α → α → List α} {target : Nat → List α}
    (himage : s.image < d.batch) (hweights : d.outChannels * d.patchSize ≤ s.weights.size)
    (hbias : d.outChannels ≤ s.bias.size)
    (hdst : s.image * d.dstImage + d.dstImage ≤ s.dst.size)
    (hcells : (d.product kernel columns).columnsOf s = .ok cells)
    (hrule : (d.product kernel columns).rowRule cells = .ok rewrite)
    (hrow : ∀ o < d.outChannels, ∀ row : List α, row.length = d.pixels →
      rewrite row (Cells.window s.weights (o * d.patchSize) d.patchSize)
        (s.bias.getD o Element.zero) = target o) :
    (d.product kernel columns).apply s = .ok { s with
      dst := Cells.splice s.dst (s.image * d.dstImage)
        ((List.range d.outChannels).flatMap target) } := by
  have hstop := block_stop_le d.dstImage himage
  have hword := h.destination_word
  have hold : (s.dst.extract (s.image * d.dstImage)
      (s.image * d.dstImage + d.dstImage)).size = d.dstImage := by
    rw [Array.size_extract]
    omega
  have hfront : (s.weights.extract 0 (d.outChannels * d.patchSize)).size =
      d.outChannels * d.patchSize := by
    rw [Array.size_extract]
    omega
  have hw : imageSlice name s.weights 0 (d.outChannels * d.patchSize) = _ :=
    frontSlice_eq_ok h.weights_word hweights
  have hb : imageSlice name s.bias 0 (d.product kernel columns).outChannels = _ :=
    frontSlice_eq_ok h.outChannels_word hbias
  have hstart : imageStart name s.dst.size s.image d.dstImage = _ :=
    imageStart_eq_ok (by omega) hdst
  have hrows : Cells.chunks _ (d.product kernel columns).pixels = _ :=
    Cells.chunks_eq d.pixels_pos (hold.trans d.dstImage_eq)
  have hweightRows : Cells.chunks _ (d.product kernel columns).patchLen = _ :=
    Cells.chunks_eq h.patchSize_pos hfront
  simp only [apply, Attempt.liftM_eq, weightCount_eq h, outputCount_eq h, hw, hb, hstart, hcells,
    hrows, hweightRows, hrule, Attempt.ofChecked_ok, ok_bind]
  rw [← outputs_eq hold hbias hrow]
  rfl

omit h in
theorem rowRule_scratch {cells : Array α} {patches : List (List α)}
    (hchunks : Cells.chunks cells d.patchSize = .ok patches) :
    (d.product kernel .scratch).rowRule cells = .ok (rowOfPatches kernel patches) := by
  change (do return rowOfPatches kernel (← Cells.chunks cells d.patchSize)) = _
  rw [hchunks, ok_bind]
  rfl

omit h in
theorem rowRule_source {cells : Array α} {planes : List (List α)}
    (hchunks : Cells.chunks cells d.pixels = .ok planes) :
    (d.product kernel .source).rowRule cells = .ok (rowOfPlanes planes) := by
  change (do return rowOfPlanes (← Cells.chunks cells d.pixels)) = _
  rw [hchunks, ok_bind]
  rfl

/-- The product with the receptive fields in the scratch. -/
theorem apply_scratch_eq {s : Stage α} {image : Array α}
    (himage : s.image < d.batch) (hweights : d.outChannels * d.patchSize ≤ s.weights.size)
    (hbias : d.outChannels ≤ s.bias.size)
    (hdst : s.image * d.dstImage + d.dstImage ≤ s.dst.size)
    (hscratch : d.pixels * d.patchSize ≤ s.scratch.size)
    (hfields : ∀ pixel < d.pixels, Cells.window s.scratch (pixel * d.patchSize) d.patchSize =
      d.receptiveField image (pixel / d.outWidth) (pixel % d.outWidth)) :
    (d.product kernel .scratch).apply s = .ok { s with
      dst := Cells.splice s.dst (s.image * d.dstImage)
        (d.planes (d.fieldSum kernel image s.weights s.bias)) } := by
  have hcells : (d.product kernel .scratch).columnsOf s =
      .ok (s.scratch.extract 0 (d.pixels * d.patchSize)) := by
    change (do imageSlice name s.scratch 0 (← liftM (Word.mul d.pixels d.patchSize))) = _
    rw [Word.mul_of_lt h.workspace_word, Attempt.liftM_eq, Attempt.ofChecked_ok, ok_bind,
      frontSlice_eq_ok h.workspace_word hscratch]
  have hfront : (s.scratch.extract 0 (d.pixels * d.patchSize)).size =
      d.pixels * d.patchSize := by
    rw [Array.size_extract]
    omega
  have hpatches : Cells.chunks (s.scratch.extract 0 (d.pixels * d.patchSize)) d.patchSize =
      .ok ((List.range d.pixels).map fun pixel =>
        d.receptiveField image (pixel / d.outWidth) (pixel % d.outWidth)) := by
    rw [Cells.chunks_eq h.patchSize_pos hfront, Except.ok.injEq]
    apply List.map_congr_left
    intro pixel hpixel
    have hpixel' := List.mem_range.mp hpixel
    rw [Cells.window_front (block_stop_le _ hpixel'), hfields pixel hpixel']
  apply apply_eq h himage hweights hbias hdst hcells (rowRule_scratch hpatches)
  intro o _ row hlength
  rw [rowOfPatches_eq hlength]
  rfl

omit h in
/-- A channel plane of a pointwise convolution, read at a pixel. -/
theorem plane_getD {image : Array α} (hpixels : d.pixels = d.inH * d.inW)
    (hwidth : d.outWidth = d.inW) {channel pixel : Nat} (hpixel : pixel < d.pixels) :
    (Cells.window image (channel * d.pixels) d.pixels).getD pixel Element.zero =
      image.getD ((channel * d.inH + pixel / d.outWidth) * d.inW + pixel % d.outWidth)
        Element.zero := by
  have hplace : (channel * d.inH + pixel / d.outWidth) * d.inW + pixel % d.outWidth =
      channel * d.pixels + pixel := by
    rw [hpixels, hwidth, Nat.add_mul, Nat.mul_assoc, Nat.add_assoc, Nat.div_add_mod']
  rw [hplace, Cells.window_getD hpixel]

/-- The pointwise product with the planes of the source image. -/
theorem apply_source_eq (hp : d.isPointwise = true) {s : Stage α} (himage : s.image < d.batch)
    (hweights : d.outChannels * d.patchSize ≤ s.weights.size)
    (hbias : d.outChannels ≤ s.bias.size)
    (hdst : s.image * d.dstImage + d.dstImage ≤ s.dst.size)
    (hsrc : s.image * d.srcImage + d.srcImage ≤ s.src.size) :
    (d.product kernel .source).apply s = .ok { s with
      dst := Cells.splice s.dst (s.image * d.dstImage)
        (d.planes (d.pixelSum (d.imageOf s.src s.image) s.weights s.bias)) } := by
  obtain ⟨hpatch, hheight, hwidth⟩ := h.pointwise_extents hp
  have hpixels : d.pixels = d.inH * d.inW := by rw [Descriptor.pixels, hheight, hwidth]
  have hsize := h.pointwise_srcImage hp
  have hstop := block_stop_le d.srcImage himage
  have hword := h.source_word
  have hcells : (d.product kernel .source).columnsOf s = .ok (d.imageOf s.src s.image) := by
    change (do imageSlice name s.src s.image (← liftM (Word.mul d.patchSize d.pixels))) = _
    rw [Word.mul_of_lt (hsize ▸ h.srcImage_word), Attempt.liftM_eq, Attempt.ofChecked_ok, ok_bind,
      hsize, imageSlice_eq_ok (by omega) hsrc]
    rfl
  have hlength := d.size_imageOf hsrc
  have hplanes := Cells.chunks_eq d.pixels_pos (hlength.trans hsize.symm)
  apply apply_eq h himage hweights hbias hdst hcells (rowRule_source hplanes)
  intro o ho row hrow
  have hplane : ∀ plane ∈ (List.range d.patchSize).map fun c =>
      Cells.window (d.imageOf s.src s.image) (c * d.pixels) d.pixels,
      plane.length = d.pixels := by
    intro plane hplane
    obtain ⟨c, hc, rfl⟩ := List.mem_map.mp hplane
    apply Cells.length_window
    rw [hlength, ← hsize]
    exact block_stop_le _ (List.mem_range.mp hc)
  rw [rowOfPlanes_eq hrow hplane]
  apply List.map_congr_left
  intro pixel hpixel
  rw [Descriptor.pixelSum, Descriptor.channelsAt, hpatch, List.zip_map_right, List.zip_map_right,
    List.foldl_map, List.foldl_map]
  simp only [Prod.map_fst, Prod.map_snd, id_eq,
    plane_getD hpixels hwidth (List.mem_range.mp hpixel)]

/-- With one of its buffers too short the product writes nothing. -/
theorem apply_eq_error {columns : Columns} {s : Stage α} (himage : s.image < d.batch)
    (hshort : s.weights.size < d.outChannels * d.patchSize ∨ s.bias.size < d.outChannels ∨
      s.dst.size < s.image * d.dstImage + d.dstImage ∨
      ∃ reason, (d.product kernel columns).columnsOf s =
        .error (.error (.operatorFailed name reason))) :
    ∃ reason, (d.product kernel columns).apply s =
      .error (.error (.operatorFailed name reason)) := by
  have hstop := block_stop_le d.dstImage himage
  have hword := h.destination_word
  simp only [apply, Attempt.liftM_eq, weightCount_eq h, outputCount_eq h, Attempt.ofChecked_ok,
    ok_bind]
  -- the buffers are looked at in the order weights, bias, destination, columns
  by_cases hweights : s.weights.size < d.outChannels * d.patchSize
  · obtain ⟨reason, hslice⟩ := frontSlice_eq_error name h.weights_word hweights
    exact ⟨reason, by rw [hslice, error_bind]⟩
  rw [frontSlice_eq_ok h.weights_word (Nat.le_of_not_lt hweights), ok_bind]
  by_cases hbias : s.bias.size < d.outChannels
  · obtain ⟨reason, hslice⟩ := frontSlice_eq_error name h.outChannels_word hbias
    refine ⟨reason, ?_⟩
    change (imageSlice name s.bias 0 d.outChannels >>= _) = _
    rw [hslice, error_bind]
  have hslice : imageSlice name s.bias 0 (d.product kernel columns).outChannels = _ :=
    frontSlice_eq_ok h.outChannels_word (Nat.le_of_not_lt hbias)
  rw [hslice, ok_bind]
  by_cases hdst : s.dst.size < s.image * d.dstImage + d.dstImage
  · obtain ⟨reason, hstart⟩ := imageStart_eq_error name (by omega) hdst
    exact ⟨reason, by rw [hstart, error_bind]⟩
  rw [imageStart_eq_ok (by omega) (Nat.le_of_not_lt hdst), ok_bind]
  obtain hshort | hshort | hshort | ⟨reason, hcolumns⟩ := hshort
  · exact absurd hshort hweights
  · exact absurd hshort hbias
  · exact absurd hshort hdst
  · exact ⟨reason, by rw [hcolumns, error_bind]⟩

omit [Element α] in
/-- The pointwise product of an image that the source does not hold has no columns. -/
theorem columnsOf_source_eq_error (hp : d.isPointwise = true) {s : Stage α}
    (himage : s.image < d.batch) (hshort : s.src.size < s.image * d.srcImage + d.srcImage) :
    ∃ reason, (d.product kernel .source).columnsOf s =
      .error (.error (.operatorFailed name reason)) := by
  have hstop := block_stop_le d.srcImage himage
  have hword := h.source_word
  obtain ⟨reason, hslice⟩ := imageSlice_eq_error name (by omega) hshort
  refine ⟨reason, ?_⟩
  change (do imageSlice name s.src s.image (← liftM (Word.mul d.patchSize d.pixels))) = _
  rw [Word.mul_of_lt (h.pointwise_srcImage hp ▸ h.srcImage_word), Attempt.liftM_eq,
    Attempt.ofChecked_ok, ok_bind, h.pointwise_srcImage hp, hslice]

end Gemm

end ConvLab
