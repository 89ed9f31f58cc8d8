import ConvLab.Proofs.Cells
import ConvLab.Proofs.Descriptor

/-!
# Receptive fields

The unfolding writes one row of the scratch for each output pixel.  The row is the receptive field
of the pixel: channel by channel and tap by tap the element of the image under the tap, and zero
where the tap lies in the padding.  Every coordinate stays a word, since an output pixel never
reaches beyond the padded input.

* `Descriptor.tap`, `Descriptor.receptiveField` — the elements behind an output pixel;
* `Descriptor.getElem?_receptiveField` — the element under each tap;
* `Unfolding.patch_eq` — the unfolding of one pixel computes its receptive field;
* `Unfolding.apply_eq` — the scratch after the unfolding of an image.
-/

namespace ConvLab

variable {α : Type}

/-! ### Images in a buffer -/

theorem imageStart_eq_ok {operator : String} {size image count : Nat}
    (hword : image * count + count < Word.limit) (hfits : image * count + count ≤ size) :
    imageStart operator size image count = .ok (image * count) := by
  have hstart : Word.mul image count = .ok (image * count) := Word.mul_of_lt (by omega)
  simp only [imageStart, imageBounds, hstart, Word.add_of_lt hword, Attempt.liftM_eq, ok_bind]
  change (if image * count + count ≤ size then _ else _) = _
  rw [if_pos hfits]
  rfl

theorem imageStart_eq_error (operator : String) {size image count : Nat}
    (hword : image * count + count < Word.limit) (hshort : size < image * count + count) :
    ∃ reason, imageStart operator size image count =
      .error (.error (.operatorFailed operator reason)) := by
  have hstart : Word.mul image count = .ok (image * count) := Word.mul_of_lt (by omega)
  simp only [imageStart, imageBounds, hstart, Word.add_of_lt hword, Attempt.liftM_eq, ok_bind]
  change ∃ reason, (if image * count + count ≤ size then _ else _) = _
  rw [if_neg (by omega)]
  exact ⟨_, rfl⟩

theorem imageSlice_eq_ok {operator : String} {xs : Array α} {image count : Nat}
    (hword : image * count + count < Word.limit) (hfits : image * count + count ≤ xs.size) :
    imageSlice operator xs image count =
      .ok (xs.extract (image * count) (image * count + count)) := by
  rw [imageSlice, imageStart_eq_ok hword hfits, ok_bind]
  rfl

theorem imageSlice_eq_error (operator : String) {xs : Array α} {image count : Nat}
    (hword : image * count + count < Word.limit) (hshort : xs.size < image * count + count) :
    ∃ reason, imageSlice operator xs image count =
      .error (.error (.operatorFailed operator reason)) := by
  obtain ⟨reason, hstart⟩ := imageStart_eq_error operator hword hshort
  refine ⟨reason, ?_⟩
  rw [imageSlice, hstart, error_bind]

theorem frontSlice_eq_ok {operator : String} {xs : Array α} {count : Nat}
    (hword : count < Word.limit) (hfits : count ≤ xs.size) :
    imageSlice operator xs 0 count = .ok (xs.extract 0 count) := by
  have hslice : imageSlice operator xs 0 count =
      .ok (xs.extract (0 * count) (0 * count + count)) :=
    imageSlice_eq_ok (by omega) (by omega)
  rwa [Nat.zero_mul, Nat.zero_add] at hslice

theorem frontSlice_eq_error (operator : String) {xs : Array α} {count : Nat}
    (hword : count < Word.limit) (hshort : xs.size < count) :
    ∃ reason, imageSlice operator xs 0 count =
      .error (.error (.operatorFailed operator reason)) :=
  imageSlice_eq_error operator (by omega) (by omega)

namespace Descriptor

variable [Element α] (d : Descriptor)

def imageOf (src : Array α) (image : Nat) : Array α :=
  src.extract (image * d.srcImage) (image * d.srcImage + d.srcImage)

/-- The element of a channel at a padded coordinate: zero in the padding. -/
def tap (image : Array α) (channel row column : Nat) : α :=
  if d.padH ≤ row ∧ row < d.padH + d.inH ∧ d.padW ≤ column ∧ column < d.padW + d.inW then
    image.getD ((channel * d.inH + (row - d.padH)) * d.inW + (column - d.padW)) Element.zero
  else Element.zero

/-- The part of a receptive field that lies in one channel, row by row. -/
def fieldOf (image : Array α) (y x channel : Nat) : List α :=
  (List.range d.kernelH).flatMap fun ky => (List.range d.kernelW).map fun kx =>
    d.tap image channel (y * d.strideH + ky) (x * d.strideW + kx)

/-- The elements behind the output pixel in row `y`, column `x`, channel by channel. -/
def receptiveField (image : Array α) (y x : Nat) : List α :=
  (List.range d.inChannels).flatMap (d.fieldOf image y x)

/-- The receptive fields of all pixels, one after the other. -/
def fields (image : Array α) : List α :=
  (List.range d.pixels).flatMap fun pixel =>
    d.receptiveField image (pixel / d.outWidth) (pixel % d.outWidth)

theorem length_fieldOf (image : Array α) (y x channel : Nat) :
    (d.fieldOf image y x channel).length = d.kernelH * d.kernelW :=
  length_blocks fun ky _ => by simp

theorem length_receptiveField (image : Array α) (y x : Nat) :
    (d.receptiveField image y x).length = d.patchSize := by
  rw [receptiveField, length_blocks fun c _ => d.length_fieldOf image y x c, patchSize,
    Nat.mul_assoc]

theorem getElem?_receptiveField (image : Array α) (y x : Nat) {channel ky kx : Nat}
    (hc : channel < d.inChannels) (hky : ky < d.kernelH) (hkx : kx < d.kernelW) :
    (d.receptiveField image y x)[(channel * d.kernelH + ky) * d.kernelW + kx]? =
      some (d.tap image channel (y * d.strideH + ky) (x * d.strideW + kx)) := by
  have hplace : (channel * d.kernelH + ky) * d.kernelW + kx =
      channel * (d.kernelH * d.kernelW) + (ky * d.kernelW + kx) := by
    rw [Nat.add_mul, Nat.mul_assoc, Nat.add_assoc]
  rw [hplace, receptiveField,
    getElem?_blocks (fun c _ => d.length_fieldOf image y x c) hc (index_lt hky hkx), fieldOf,
    getElem?_blocks (fun ky _ => by simp) hky hkx, getElem?_range_map _ hkx]

theorem length_fields (image : Array α) : (d.fields image).length = d.pixels * d.patchSize :=
  length_blocks fun _ _ => d.length_receptiveField image _ _

omit [Element α] in
theorem size_imageOf {src : Array α} {image : Nat}
    (h : image * d.srcImage + d.srcImage ≤ src.size) : (d.imageOf src image).size = d.srcImage := by
  rw [imageOf, Array.size_extract]
  omega

omit [Element α] in
/-- A place inside an image, read in the whole source. -/
theorem getElem?_imageOf (src : Array α) (b : Nat) {c row column : Nat} (hc : c < d.inChannels)
    (hrow : row < d.inH) (hcolumn : column < d.inW) :
    (d.imageOf src b)[(c * d.inH + row) * d.inW + column]? =
      src[((b * d.inChannels + c) * d.inH + row) * d.inW + column]? := by
  have hplace : ((b * d.inChannels + c) * d.inH + row) * d.inW + column =
      b * d.srcImage + ((c * d.inH + row) * d.inW + column) := by
    simp only [srcImage, Nat.add_mul, Nat.mul_assoc, Nat.add_assoc]
  have hlt : (c * d.inH + row) * d.inW + column < d.srcImage :=
    index_lt (index_lt hc hrow) hcolumn
  have hwindow := Cells.getElem?_window src (b * d.srcImage) d.srcImage
    ((c * d.inH + row) * d.inW + column)
  rw [if_pos hlt, Cells.window, Array.getElem?_toList] at hwindow
  rw [hplace, ← hwindow, imageOf]

omit [Element α] in
/-- An element of the source, found in its image. -/
theorem getElem?_eq_imageOf {src : Array α} {b c row column : Nat}
    (hsrc : b * d.srcImage + d.srcImage ≤ src.size) (hc : c < d.inChannels) (hrow : row < d.inH)
    (hcolumn : column < d.inW) (e : α) :
    src[((b * d.inChannels + c) * d.inH + row) * d.inW + column]? =
      some ((d.imageOf src b).getD ((c * d.inH + row) * d.inW + column) e) := by
  have hsize := d.size_imageOf hsrc
  rw [← d.getElem?_imageOf src b hc hrow hcolumn]
  exact getElem?_eq_getD (hsize ▸ index_lt (index_lt hc hrow) hcolumn) e

/-! ### Coordinates -/

/-- No tap of an output position lies beyond the padded input. -/
theorem position_lt {input padding kernel stride position tap : Nat}
    (hfits : kernel ≤ padding * 2 + input)
    (hposition : position < (input + 2 * padding - kernel) / stride + 1) (htap : tap < kernel) :
    position * stride + tap < padding * 2 + input := by
  have hspan : position * stride ≤ input + 2 * padding - kernel :=
    Nat.le_trans (Nat.mul_le_mul_right stride (Nat.le_of_lt_succ hposition))
      (Nat.div_mul_le_self _ _)
  omega

end Descriptor

namespace Unfolding

theorem tapCoordinate_eq {position stride tap : Nat}
    (hword : position * stride + tap < Word.limit) :
    tapCoordinate position stride tap = .ok (position * stride + tap) := by
  rw [tapCoordinate, Word.mul_of_lt (by omega), ok_bind, Word.add_of_lt hword]

theorem inside?_eq_some {coordinate padding extent : Nat} (h : padding ≤ coordinate)
    (h' : coordinate < padding + extent) :
    inside? coordinate padding extent = some (coordinate - padding) :=
  if_pos ⟨h, by omega⟩

theorem inside?_eq_none {coordinate padding extent : Nat}
    (h : ¬ (padding ≤ coordinate ∧ coordinate < padding + extent)) :
    inside? coordinate padding extent = none :=
  if_neg (by omega)

variable [Element α] {d : Descriptor} (h : d.Valid)

include h

/-- The unfolding reads one tap: in bounds and without leaving the word range. -/
theorem tapValue_eq {image plane : Array α} {channel oy ox ky kx : Nat}
    (hplane : plane.size = d.inH * d.inW)
    (hread : ∀ i < d.inH * d.inW, plane.getD i Element.zero =
      image.getD (channel * (d.inH * d.inW) + i) Element.zero)
    (hoy : oy < d.outHeight) (hox : ox < d.outWidth) (hky : ky < d.kernelH)
    (hkx : kx < d.kernelW) :
    d.unfolding.tapValue plane oy ox ky kx =
      .ok (d.tap image channel (oy * d.strideH + ky) (ox * d.strideW + kx)) := by
  have hrow := Descriptor.position_lt h.kernelH_fits hoy hky
  have hcolumn := Descriptor.position_lt h.kernelW_fits hox hkx
  have hiy := tapCoordinate_eq (Nat.lt_trans hrow h.paddedH_word)
  have hix := tapCoordinate_eq (Nat.lt_trans hcolumn h.paddedW_word)
  generalize oy * d.strideH + ky = row at *
  generalize ox * d.strideW + kx = column at *
  simp only [tapValue, Descriptor.unfolding, hiy, hix, ok_bind]
  -- the two axes decide separately whether the tap lies in the padding
  by_cases hy : d.padH ≤ row ∧ row < d.padH + d.inH
  · by_cases hx : d.padW ≤ column ∧ column < d.padW + d.inW
    · have hplace : (row - d.padH) * d.inW + (column - d.padW) < d.inH * d.inW :=
        index_lt (by omega) (by omega)
      have hword : d.inH * d.inW < Word.limit := by
        have hle : d.inH * d.inW ≤ d.srcImage := by
          rw [Descriptor.srcImage, Nat.mul_assoc]
          exact Nat.le_mul_of_pos_left _ h.inChannels_pos
        exact Nat.lt_of_le_of_lt hle h.srcImage_word
      rw [inside?_eq_some hy.1 hy.2, inside?_eq_some hx.1 hx.2]
      simp only []
      rw [Word.mul_of_lt (by omega), ok_bind, Word.add_of_lt (by omega), ok_bind,
        Cells.read_eq (by omega) Element.zero, hread _ hplace, Descriptor.tap,
        if_pos ⟨hy.1, hy.2, hx.1, hx.2⟩, Nat.add_mul, Nat.mul_assoc, Nat.add_assoc]
    · rw [inside?_eq_some hy.1 hy.2, inside?_eq_none hx, Descriptor.tap,
        if_neg fun hin => hx hin.2.2]
      rfl
  · rw [inside?_eq_none hy, Descriptor.tap, if_neg fun hin => hy ⟨hin.1, hin.2.1⟩]
    rfl

theorem planePatch_eq {image plane : Array α} {channel oy ox : Nat}
    (hplane : plane.size = d.inH * d.inW)
    (hread : ∀ i < d.inH * d.inW, plane.getD i Element.zero =
      image.getD (channel * (d.inH * d.inW) + i) Element.zero)
    (hoy : oy < d.outHeight) (hox : ox < d.outWidth) :
    d.unfolding.planePatch oy ox plane = .ok (d.fieldOf image oy ox channel) := by
  have hrows : ((List.range d.unfolding.kernelH).mapM fun ky =>
      (List.range d.unfolding.kernelW).mapM fun kx => d.unfolding.tapValue plane oy ox ky kx) =
      .ok ((List.range d.kernelH).map fun ky => (List.range d.kernelW).map fun kx =>
        d.tap image channel (oy * d.strideH + ky) (ox * d.strideW + kx)) := by
    apply mapM_eq_ok
    intro ky hky
    apply mapM_eq_ok
    intro kx hkx
    exact tapValue_eq h hplane hread hoy hox (List.mem_range.mp hky) (List.mem_range.mp hkx)
  rw [planePatch, hrows, ok_bind, Descriptor.fieldOf, List.flatMap_def]
  rfl

omit h in
/-- The channel planes of an image, as the unfolding cuts them. -/
theorem plane_getD {image : Array α} (himage : image.size = d.srcImage) {channel : Nat}
    (hchannel : channel < d.inChannels) :
    (Cells.window image (channel * (d.inH * d.inW)) (d.inH * d.inW)).toArray.size =
        d.inH * d.inW ∧
      ∀ i < d.inH * d.inW,
        (Cells.window image (channel * (d.inH * d.inW)) (d.inH * d.inW)).toArray.getD i
            Element.zero =
          image.getD (channel * (d.inH * d.inW) + i) Element.zero := by
  have hstop : channel * (d.inH * d.inW) + d.inH * d.inW ≤ image.size := by
    rw [himage, Descriptor.srcImage, Nat.mul_assoc]
    exact block_stop_le _ hchannel
  constructor
  · rw [List.size_toArray, Cells.length_window hstop]
  · intro i hi
    rw [Array.getD_eq_getD_getElem?, List.getElem?_toArray, Cells.getElem?_window, if_pos hi,
      Array.getD_eq_getD_getElem?]

/-- The unfolding of one pixel is its receptive field. -/
theorem patch_eq {image : Array α} (himage : image.size = d.srcImage) {pixel : Nat}
    (hpixel : pixel < d.pixels) :
    d.unfolding.patch (((List.range d.inChannels).map fun c =>
        Cells.window image (c * (d.inH * d.inW)) (d.inH * d.inW)).map List.toArray) pixel =
      .ok (d.receptiveField image (pixel / d.outWidth) (pixel % d.outWidth)) := by
  have hoy : pixel / d.outWidth < d.outHeight := Nat.div_lt_of_lt_mul (by
    rw [Nat.mul_comm]
    exact hpixel)
  have hox : pixel % d.outWidth < d.outWidth := Nat.mod_lt _ d.outWidth_pos
  have hparts : ((((List.range d.inChannels).map fun c =>
      Cells.window image (c * (d.inH * d.inW)) (d.inH * d.inW)).map List.toArray).mapM
        (d.unfolding.planePatch (pixel / d.unfolding.outW) (pixel % d.unfolding.outW))) =
      .ok ((List.range d.inChannels).map
        (d.fieldOf image (pixel / d.outWidth) (pixel % d.outWidth))) := by
    rw [List.map_map, List.mapM_map]
    apply mapM_eq_ok
    intro c hc
    obtain ⟨hsize, hread⟩ := plane_getD himage (List.mem_range.mp hc)
    exact planePatch_eq h hsize hread hoy hox
  rw [patch, hparts, ok_bind, Descriptor.receptiveField, List.flatMap_def]
  rfl

/-- Row after row, what the scratch held before is overwritten as a whole. -/
theorem patches_eq {image scratch : Array α} (himage : image.size = d.srcImage)
    (hscratch : scratch.size = d.pixels * d.patchSize) :
    ((List.range d.pixels).map fun i => Cells.window scratch (i * d.patchSize)
        d.patchSize).zipIdx.mapM (fun (row, pixel) => do
      Cells.overwrite row (← d.unfolding.patch (((List.range d.inChannels).map fun c =>
        Cells.window image (c * (d.inH * d.inW)) (d.inH * d.inW)).map List.toArray) pixel)) =
      .ok ((List.range d.pixels).map fun pixel =>
        d.receptiveField image (pixel / d.outWidth) (pixel % d.outWidth)) := by
  rw [zipIdx_range_map, List.mapM_map]
  apply mapM_eq_ok
  intro pixel hpixel
  have hpixel' := List.mem_range.mp hpixel
  have hrow := block_stop_le d.patchSize hpixel'
  change (do Cells.overwrite _ (← d.unfolding.patch _ pixel)) = _
  rw [patch_eq h himage hpixel', ok_bind]
  apply Cells.overwrite_eq_ok
  rw [Descriptor.length_receptiveField, Cells.length_window (by omega)]

theorem plane_eq : Word.mul d.unfolding.inH d.unfolding.inW = .ok (d.inH * d.inW) := by
  have hle : d.inH * d.inW ≤ d.srcImage := by
    rw [Descriptor.srcImage, Nat.mul_assoc]
    exact Nat.le_mul_of_pos_left _ h.inChannels_pos
  exact Word.mul_of_lt (Nat.lt_of_le_of_lt hle h.srcImage_word)

theorem srcImage_eq : Word.mul d.unfolding.inChannels (d.inH * d.inW) = .ok d.srcImage := by
  have hcount : d.inChannels * (d.inH * d.inW) = d.srcImage := (Nat.mul_assoc _ _ _).symm
  rw [← hcount]
  exact Word.mul_of_lt (hcount ▸ h.srcImage_word)

/-- The unfolding of an image fills the front of the scratch with its receptive fields. -/
theorem apply_eq {s : Stage α} (himage : s.image < d.batch)
    (hsrc : s.image * d.srcImage + d.srcImage ≤ s.src.size)
    (hscratch : d.pixels * d.patchSize ≤ s.scratch.size) :
    d.unfolding.apply s = .ok { s with
      scratch := Cells.splice s.scratch 0 (d.fields (d.imageOf s.src s.image)) } := by
  have hsize := d.size_imageOf hsrc
  have hsize' : (d.imageOf s.src s.image).size = d.inChannels * (d.inH * d.inW) := by
    rw [hsize, Descriptor.srcImage, Nat.mul_assoc]
  have hstop := block_stop_le d.srcImage himage
  have hword := h.source_word
  have hslice : imageSlice name s.src s.image d.srcImage = .ok (d.imageOf s.src s.image) :=
    imageSlice_eq_ok (by omega) hsrc
  have hfront : imageSlice name s.scratch 0 (d.pixels * d.patchSize) =
      .ok (s.scratch.extract 0 (d.pixels * d.patchSize)) :=
    frontSlice_eq_ok h.workspace_word hscratch
  have hfront_size : (s.scratch.extract 0 (d.pixels * d.patchSize)).size =
      d.pixels * d.patchSize := by
    rw [Array.size_extract]
    omega
  have hrows := Cells.chunks_eq h.patchSize_pos hfront_size
  have hplanes := Cells.chunks_eq (Nat.mul_pos h.inH_pos h.inW_pos) hsize'
  simp only [apply, Attempt.liftM_eq, plane_eq h, srcImage_eq h, hslice, h.patchLen_unfolding,
    h.scratchLen_unfolding, hfront, hrows, hplanes, patches_eq h hsize hfront_size,
    Attempt.ofChecked_ok, ok_bind]
  rw [Descriptor.fields, List.flatMap_def]
  rfl

/-- The unfolding of an image that the source does not hold writes nothing. -/
theorem apply_eq_error {s : Stage α} (himage : s.image < d.batch)
    (hshort : s.src.size < s.image * d.srcImage + d.srcImage) :
    ∃ reason, d.unfolding.apply s = .error (.error (.operatorFailed name reason)) := by
  have hstop := block_stop_le d.srcImage himage
  have hword := h.source_word
  obtain ⟨reason, hslice⟩ := imageSlice_eq_error name (by omega) hshort
  refine ⟨reason, ?_⟩
  simp only [apply, Attempt.liftM_eq, plane_eq h, srcImage_eq h, hslice, Attempt.ofChecked_ok,
    ok_bind, error_bind]

end Unfolding

end ConvLab
