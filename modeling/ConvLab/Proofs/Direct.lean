import ConvLab.Direct
import ConvLab.Proofs.Cells

/-!
# The direct kernel computes its definition

With extents and buffers that fit together the direct kernel never traps, and its output is a
function of source, weights and bias alone: each element is a fold over the taps of the kernel and
the channels under each tap, rectified and scaled.

* `Direct.Geometry.Valid` — positive extents and sizes that are words;
* `Direct.Geometry.sumAt` — the sum behind an output element;
* `Direct.convolve_eq` — the whole batch;
* `Direct.Geometry.getElem?_output` — an element of the output, by its coordinates.
-/

namespace ConvLab.Direct

namespace Geometry

def inImage (g : Geometry) : Nat := g.inH * g.inW * g.inChannels

def outImage (g : Geometry) : Nat := g.outH * g.outW * g.outChannels

def weightCount (g : Geometry) : Nat := g.kernel * g.kernel * g.inChannels * g.outChannels

/-- The extents are positive, the kernel lies inside the input, and every size is a word. -/
structure Valid (g : Geometry) : Prop where
  batch_pos : 0 < g.batch
  inChannels_pos : 0 < g.inChannels
  outChannels_pos : 0 < g.outChannels
  kernel_pos : 0 < g.kernel
  kernelH_fits : g.kernel ≤ g.inH
  kernelW_fits : g.kernel ≤ g.inW
  outH_eq : g.outH = g.inH - g.kernel + 1
  outW_eq : g.outW = g.inW - g.kernel + 1
  input_word : g.batch * g.inImage < Word.limit
  output_word : g.batch * g.outImage < Word.limit
  weights_word : g.weightCount < Word.limit

namespace Valid

variable {g : Geometry} (h : g.Valid)

include h

theorem inW_pos : 0 < g.inW := Nat.lt_of_lt_of_le h.kernel_pos h.kernelW_fits

theorem outH_pos : 0 < g.outH := h.outH_eq ▸ Nat.succ_pos _

theorem outW_pos : 0 < g.outW := h.outW_eq ▸ Nat.succ_pos _

theorem inImage_pos : 0 < g.inImage :=
  Nat.mul_pos (Nat.mul_pos (Nat.lt_of_lt_of_le h.kernel_pos h.kernelH_fits) h.inW_pos)
    h.inChannels_pos

theorem outImage_pos : 0 < g.outImage :=
  Nat.mul_pos (Nat.mul_pos h.outH_pos h.outW_pos) h.outChannels_pos

theorem inImage_word : g.inImage < Word.limit :=
  Nat.lt_of_le_of_lt (Nat.le_mul_of_pos_left _ h.batch_pos) h.input_word

theorem outImage_word : g.outImage < Word.limit :=
  Nat.lt_of_le_of_lt (Nat.le_mul_of_pos_left _ h.batch_pos) h.output_word

theorem outPixels_word : g.outH * g.outW < Word.limit :=
  Nat.lt_of_le_of_lt (Nat.le_mul_of_pos_right _ h.outChannels_pos) h.outImage_word

theorem outH_word : g.outH < Word.limit :=
  Nat.lt_of_le_of_lt (Nat.le_mul_of_pos_right _ h.outW_pos) h.outPixels_word

theorem outW_word : g.outW < Word.limit :=
  Nat.lt_of_le_of_lt (Nat.le_mul_of_pos_left _ h.outH_pos) h.outPixels_word

/-- No tap of an output pixel lies outside the input. -/
theorem position_lt {y x ky kx : Nat} (hy : y < g.outH) (hx : x < g.outW) (hky : ky < g.kernel)
    (hkx : kx < g.kernel) : y + ky < g.inH ∧ x + kx < g.inW := by
  have houtH := h.outH_eq
  have houtW := h.outW_eq
  have hheight := h.kernelH_fits
  have hwidth := h.kernelW_fits
  omega

end Valid

end Geometry

theorem product_eq {a b c d : Nat} (hc : 0 < c) (hd : 0 < d)
    (hword : a * b * c * d < Word.limit) : product a b c d = .ok (a * b * c * d) := by
  have hab : a * b ≤ a * b * c := Nat.le_mul_of_pos_right _ hc
  have habc : a * b * c ≤ a * b * c * d := Nat.le_mul_of_pos_right _ hd
  rw [product, Word.mul_of_lt (by omega), ok_bind, Word.mul_of_lt (by omega), ok_bind,
    Word.mul_of_lt hword]

/-- All pairs, numbered in their order. -/
theorem pairs_eq (rows columns : Nat) :
    pairs rows columns = (List.range (rows * columns)).map fun i =>
      (i / columns, i % columns) := by
  rw [pairs]
  apply eq_range_map (length_blocks fun _ _ => by simp)
  intro i hi
  have hcolumns : 0 < columns := Nat.pos_of_lt_mul_left hi
  have hrow : i / columns < rows := (Nat.div_lt_iff_lt_mul hcolumns).mpr hi
  have hcolumn : i % columns < columns := Nat.mod_lt i hcolumns
  have hget := getElem?_blocks (f := fun i => (List.range columns).map fun j => (i, j))
    (fun _ _ => by simp) hrow hcolumn
  rw [Nat.div_add_mod'] at hget
  rw [hget, getElem?_range_map _ hcolumn]

theorem mem_pairs {rows columns : Nat} {position : Nat × Nat} :
    position ∈ pairs rows columns ↔ position.1 < rows ∧ position.2 < columns := by
  obtain ⟨i, j⟩ := position
  simp [pairs]

variable {α : Type} [Element α]

namespace Geometry

variable (g : Geometry)

/-- The products of one tap, added to a sum channel by channel. -/
def tapSum (image weights : Array α) (y x o : Nat) (sum : α) (tap : Nat × Nat) : α :=
  (List.range g.inChannels).foldl (fun sum c =>
    Element.mulAdd
      (weights.getD (((tap.1 * g.kernel + tap.2) * g.inChannels + c) * g.outChannels + o)
        Element.zero)
      (image.getD (((y + tap.1) * g.inW + (x + tap.2)) * g.inChannels + c) Element.zero) sum) sum

/-- The sum behind an output element: the bias, then the products of tap after tap. -/
def sumAt (image weights bias : Array α) (y x o : Nat) : α :=
  (pairs g.kernel g.kernel).foldl (g.tapSum image weights y x o) (bias.getD o Element.zero)

def outputAt (scale : α) (image weights bias : Array α) (y x o : Nat) : α :=
  Element.mul (Element.relu (g.sumAt image weights bias y x o)) scale

def imageOf (input : Array α) (b : Nat) : Array α :=
  (Cells.window input (b * g.inImage) g.inImage).toArray

omit [Element α] in
/-- A place inside an image, read in the whole input. -/
theorem getElem?_imageOf (input : Array α) (b : Nat) {row column c : Nat} (hrow : row < g.inH)
    (hcolumn : column < g.inW) (hc : c < g.inChannels) :
    (g.imageOf input b)[(row * g.inW + column) * g.inChannels + c]? =
      input[((b * g.inH + row) * g.inW + column) * g.inChannels + c]? := by
  have hplace : ((b * g.inH + row) * g.inW + column) * g.inChannels + c =
      b * g.inImage + ((row * g.inW + column) * g.inChannels + c) := by
    simp only [inImage, Nat.add_mul, Nat.mul_assoc, Nat.add_assoc]
  have hlt : (row * g.inW + column) * g.inChannels + c < g.inImage :=
    index_lt (index_lt hrow hcolumn) hc
  rw [imageOf, List.getElem?_toArray, Cells.getElem?_window, if_pos hlt, hplace]

omit [Element α] in
theorem size_imageOf {input : Array α} (hinput : input.size = g.batch * g.inImage) {b : Nat}
    (hb : b < g.batch) : (g.imageOf input b).size = g.inImage := by
  rw [imageOf, List.size_toArray, Cells.length_window (hinput ▸ block_stop_le g.inImage hb)]

omit [Element α] in
/-- An element of the input, found in its image. -/
theorem getElem?_eq_imageOf {input : Array α} (hinput : input.size = g.batch * g.inImage)
    {b row column c : Nat} (hb : b < g.batch) (hrow : row < g.inH) (hcolumn : column < g.inW)
    (hc : c < g.inChannels) (e : α) :
    input[((b * g.inH + row) * g.inW + column) * g.inChannels + c]? =
      some ((g.imageOf input b).getD ((row * g.inW + column) * g.inChannels + c) e) := by
  have hsize := g.size_imageOf hinput hb
  rw [← g.getElem?_imageOf input b hrow hcolumn hc]
  exact getElem?_eq_getD (hsize ▸ index_lt (index_lt hrow hcolumn) hc) e

def pixels (scale : α) (image weights bias : Array α) : List α :=
  (List.range (g.outH * g.outW)).flatMap fun i => (List.range g.outChannels).map
    (g.outputAt scale image weights bias (i / g.outW) (i % g.outW))

def output (scale : α) (input weights bias : Array α) : List α :=
  (List.range g.batch).flatMap fun b => g.pixels scale (g.imageOf input b) weights bias

theorem length_pixels (scale : α) (image weights bias : Array α) :
    (g.pixels scale image weights bias).length = g.outImage :=
  length_blocks fun _ _ => by simp

theorem length_output (scale : α) (input weights bias : Array α) :
    (g.output scale input weights bias).length = g.batch * g.outImage :=
  length_blocks fun _ _ => g.length_pixels scale _ weights bias

/-- An element of the output, by its coordinates. -/
theorem getElem?_output (scale : α) (input weights bias : Array α) {b y x o : Nat}
    (hb : b < g.batch) (hy : y < g.outH) (hx : x < g.outW) (ho : o < g.outChannels) :
    (g.output scale input weights bias)[((b * g.outH + y) * g.outW + x) * g.outChannels + o]? =
      some (g.outputAt scale (g.imageOf input b) weights bias y x o) := by
  have hplace : ((b * g.outH + y) * g.outW + x) * g.outChannels + o =
      b * g.outImage + ((y * g.outW + x) * g.outChannels + o) := by
    simp only [outImage, Nat.add_mul, Nat.mul_assoc, Nat.add_assoc]
  have hpixel := index_lt hy hx
  rw [hplace, output,
    getElem?_blocks (fun _ _ => g.length_pixels scale _ weights bias) hb (index_lt hpixel ho),
    pixels, getElem?_blocks (fun _ _ => by simp) hpixel ho, getElem?_range_map _ ho,
    index_div hx, index_mod hx]

end Geometry

/-! ### One pixel -/

variable {g : Geometry} {image weights : Array α}

/-- The channels of one input pixel, added to the sums of all output channels. -/
theorem addChannels_eq {tap : Nat} {v f : Nat → α} (hsize : weights.size < Word.limit)
    (htap : tap + g.inChannels * g.outChannels ≤ weights.size) :
    addChannels g weights tap ((List.range g.inChannels).map v)
        ((List.range g.outChannels).map f) =
      .ok ((List.range g.outChannels).map fun o => (List.range g.inChannels).foldl (fun sum c =>
        Element.mulAdd (weights.getD (tap + c * g.outChannels + o) Element.zero) (v c) sum)
        (f o)) := by
  rw [addChannels, zipIdx_range_map, List.foldlM_map]
  apply Cells.foldlM_row
  intro c hc f
  have hc' := List.mem_range.mp hc
  have hstop := block_stop_le g.outChannels hc'
  change (do
    let start ← Word.add tap (← Word.mul c g.outChannels)
    let row ← Cells.slice weights start g.outChannels
    return accumulate (v c) ((List.range g.outChannels).map f) row) = _
  rw [Word.mul_of_lt (by omega), ok_bind, Word.add_of_lt (by omega), ok_bind,
    Cells.slice_eq (by omega) (by omega), ok_bind, accumulate,
    Cells.update_range_map f (Cells.length_window (by omega)) Element.zero]
  apply congrArg Except.ok
  apply List.map_congr_left
  intro o ho
  rw [Cells.window_getD (List.mem_range.mp ho)]

/-- The products of one tap, added to the sums of all output channels. -/
theorem addTap_eq (h : g.Valid) (himage : image.size = g.inImage)
    (hweights : weights.size = g.weightCount) {y x : Nat} (hy : y < g.outH) (hx : x < g.outW)
    {tap : Nat × Nat} (htap : tap ∈ pairs g.kernel g.kernel) (f : Nat → α) :
    addTap g image weights y x ((List.range g.outChannels).map f) tap =
      .ok ((List.range g.outChannels).map fun o =>
        g.tapSum image weights y x o (f o) tap) := by
  obtain ⟨hky, hkx⟩ := mem_pairs.mp htap
  -- the tap lies on the input, and its channels are inside the image
  obtain ⟨hrow, hcolumn⟩ := h.position_lt hy hx hky hkx
  have hstop : _ ≤ g.inImage := block_stop_le g.inChannels (index_lt hrow hcolumn)
  have hrow_le := Nat.le_mul_of_pos_right (y + tap.1) (Nat.zero_lt_of_lt hcolumn)
  have hplace_le := Nat.le_mul_of_pos_right ((y + tap.1) * g.inW + (x + tap.2)) h.inChannels_pos
  have hword := h.inImage_word
  -- its weights are inside the weights
  have hstop' : (tap.1 * g.kernel + tap.2) * g.inChannels * g.outChannels +
      g.inChannels * g.outChannels ≤ g.weightCount := by
    rw [Geometry.weightCount, Nat.mul_assoc, Nat.mul_assoc]
    exact block_stop_le (g.inChannels * g.outChannels) (index_lt hky hkx)
  have hindex_le := Nat.le_mul_of_pos_right (tap.1 * g.kernel + tap.2) h.inChannels_pos
  have hfirst_le := Nat.le_mul_of_pos_right
    ((tap.1 * g.kernel + tap.2) * g.inChannels) h.outChannels_pos
  have hword' := h.weights_word
  rw [addTap, Word.add_of_lt (by omega), ok_bind, Word.add_of_lt (by omega), ok_bind,
    Word.mul_of_lt (by omega), ok_bind, Word.add_of_lt (by omega), ok_bind,
    Word.mul_of_lt (by omega), ok_bind, Cells.slice_eq (by omega) (by omega), ok_bind,
    Word.mul_of_lt (by omega), ok_bind, Word.add_of_lt (by omega), ok_bind,
    Word.mul_of_lt (by omega), ok_bind, Word.mul_of_lt (by omega), ok_bind,
    Cells.window_eq_map (by omega) Element.zero, addChannels_eq (by omega) (by omega)]
  simp only [Geometry.tapSum, Nat.add_mul]

theorem pixel_eq (h : g.Valid) (scale : α) {bias : Array α} (himage : image.size = g.inImage)
    (hweights : weights.size = g.weightCount) (hbias : bias.size = g.outChannels) {y x : Nat}
    (hy : y < g.outH) (hx : x < g.outW) :
    pixel g scale image weights bias.toList (y, x) =
      .ok ((List.range g.outChannels).map (g.outputAt scale image weights bias y x)) := by
  rw [pixel, toList_eq_range_map hbias Element.zero,
    Cells.foldlM_row (g := fun tap o sum => g.tapSum image weights y x o sum tap)
      fun tap htap f => addTap_eq h himage hweights hy hx htap f, ok_bind]
  change Except.ok _ = _
  rw [List.map_map]
  rfl

/-! ### Images and batches -/

/-- The pixels of an image are written one after the other, all of them. -/
theorem image_eq (h : g.Valid) (scale : α) {bias output : Array α} (himage : image.size = g.inImage)
    (hweights : weights.size = g.weightCount) (hbias : bias.size = g.outChannels)
    (houtput : output.size = g.outImage) :
    Direct.image g scale image weights bias.toList output =
      .ok (g.pixels scale image weights bias).toArray := by
  have hword := h.outImage_word
  have hlength : ∀ i < g.outH * g.outW, ((List.range g.outChannels).map
      (g.outputAt scale image weights bias (i / g.outW) (i % g.outW))).length =
      g.outChannels := by simp
  rw [Direct.image, pairs_eq, List.foldlM_map]
  refine (foldlM_eq_ok (g := fun ys i => Cells.splice ys (i * g.outChannels)
    ((List.range g.outChannels).map
      (g.outputAt scale image weights bias (i / g.outW) (i % g.outW))))
    (fun ys => ys.size = g.outImage) ?_ output houtput).1.trans ?_
  · intro i hi ys hys
    have hi' := List.mem_range.mp hi
    have hwidth : 0 < g.outW := Nat.pos_of_lt_mul_left hi'
    have hstop : _ ≤ g.outImage := block_stop_le g.outChannels hi'
    have hpixel := pixel_eq h scale himage hweights hbias
      ((Nat.div_lt_iff_lt_mul hwidth).mpr hi') (Nat.mod_lt i hwidth)
    have hplace := Nat.div_add_mod' i g.outW
    have hle := Nat.le_mul_of_pos_right i h.outChannels_pos
    have hfirst : Word.mul (i / g.outW) g.outW = .ok (i / g.outW * g.outW) :=
      Word.mul_of_lt (by omega)
    have hindex : Word.add (i / g.outW * g.outW) (i % g.outW) = .ok i := by
      rw [Word.add_of_lt (by omega), hplace]
    have hstart : Word.mul i g.outChannels = .ok (i * g.outChannels) := Word.mul_of_lt (by omega)
    have hslice : Cells.slice ys (i * g.outChannels) g.outChannels = _ :=
      Cells.slice_eq (by omega) (by omega)
    constructor
    · simp only [hfirst, hindex, hstart, hslice, hpixel, ok_bind]
      rfl
    · rw [Cells.size_splice (by rw [hlength i hi']; omega), hys]
  · rw [Cells.foldl_splice hlength (Nat.le_of_eq houtput.symm), Cells.splice_whole]
    · rfl
    · rw [length_blocks hlength, houtput]
      rfl

/-- Extents that fit together pass the check. -/
theorem check_eq (h : g.Valid) {lengths : Lengths} (hinput : lengths.input = g.batch * g.inImage)
    (houtput : lengths.output = g.batch * g.outImage) (hweights : lengths.weights = g.weightCount)
    (hbias : lengths.bias = g.outChannels) : g.check lengths = .ok () := by
  have hheight : Word.sub g.inH g.kernel = .ok (g.inH - g.kernel) := Word.sub_of_le h.kernelH_fits
  have hwidth : Word.sub g.inW g.kernel = .ok (g.inW - g.kernel) := Word.sub_of_le h.kernelW_fits
  have houtH : Word.add (g.inH - g.kernel) 1 = .ok g.outH := by
    rw [h.outH_eq]
    exact Word.add_of_lt (h.outH_eq ▸ h.outH_word)
  have houtW : Word.add (g.inW - g.kernel) 1 = .ok g.outW := by
    rw [h.outW_eq]
    exact Word.add_of_lt (h.outW_eq ▸ h.outW_word)
  have hinput' : product g.batch g.inH g.inW g.inChannels = .ok lengths.input := by
    have hassoc : g.batch * g.inH * g.inW * g.inChannels = g.batch * g.inImage := by
      rw [Geometry.inImage]
      simp only [Nat.mul_assoc]
    rw [hinput, ← hassoc]
    exact product_eq h.inW_pos h.inChannels_pos (hassoc ▸ h.input_word)
  have houtput' : product g.batch g.outH g.outW g.outChannels = .ok lengths.output := by
    have hassoc : g.batch * g.outH * g.outW * g.outChannels = g.batch * g.outImage := by
      rw [Geometry.outImage]
      simp only [Nat.mul_assoc]
    rw [houtput, ← hassoc]
    exact product_eq h.outW_pos h.outChannels_pos (hassoc ▸ h.output_word)
  have hweights' : product g.kernel g.kernel g.inChannels g.outChannels = .ok lengths.weights := by
    rw [hweights]
    exact product_eq h.inChannels_pos h.outChannels_pos h.weights_word
  simp only [Geometry.check, hheight, hwidth, houtH, houtW, hinput', houtput', hweights', hbias,
    requireEqual_self, ok_bind]
  exact if_pos ⟨h.kernel_pos, h.kernelH_fits, h.kernelW_fits⟩

/-- The direct kernel on buffers that fit: it never traps, and whatever the output held is gone. -/
theorem convolve_eq (h : g.Valid) (scale : α) {input weights bias output : Array α}
    (hinput : input.size = g.batch * g.inImage) (hweights : weights.size = g.weightCount)
    (hbias : bias.size = g.outChannels) (houtput : output.size = g.batch * g.outImage) :
    convolve g scale input weights bias output =
      .ok (g.output scale input weights bias).toArray := by
  have hrow : Word.mul g.inH g.inW = .ok (g.inH * g.inW) :=
    Word.mul_of_lt (Nat.lt_of_le_of_lt (Nat.le_mul_of_pos_right _ h.inChannels_pos)
      h.inImage_word)
  have hinImage : Word.mul (g.inH * g.inW) g.inChannels = .ok g.inImage :=
    Word.mul_of_lt h.inImage_word
  have hpixels : Word.mul g.outH g.outW = .ok (g.outH * g.outW) := Word.mul_of_lt h.outPixels_word
  have houtImage : Word.mul (g.outH * g.outW) g.outChannels = .ok g.outImage :=
    Word.mul_of_lt h.outImage_word
  have hinputs := Cells.chunks_eq h.inImage_pos hinput
  have houtputs := Cells.chunks_eq h.outImage_pos houtput
  have hcheck : g.check ⟨input.size, output.size, weights.size, bias.size⟩ = .ok () :=
    check_eq h hinput houtput hweights hbias
  have hwhole : Cells.splice output 0 (g.output scale input weights bias) =
      (g.output scale input weights bias).toArray :=
    Cells.splice_whole ((g.length_output scale input weights bias).trans houtput.symm)
  simp only [convolve, hcheck, hrow, hinImage, hpixels, houtImage, hinputs, houtputs,
    List.zip_map', List.mapM_map, ok_bind]
  rw [mapM_eq_ok (g := fun b => (g.pixels scale (g.imageOf input b) weights bias).toArray)]
  · rw [ok_bind, List.flatMap_map, ← hwhole]
    rfl
  · intro b hb
    have hstop' := block_stop_le g.outImage (List.mem_range.mp hb)
    have himage := g.size_imageOf hinput (List.mem_range.mp hb)
    have hold : (Cells.window output (b * g.outImage) g.outImage).toArray.size = g.outImage := by
      rw [List.size_toArray, Cells.length_window (by omega)]
    exact image_eq h scale himage hweights hbias hold

end ConvLab.Direct
