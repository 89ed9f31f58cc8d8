import ConvLab.Proofs.Direct
import ConvLab.Scalar.Single

/-!
# The taps of the direct kernel

The direct kernel rewrites rows of output channels in place, image after image.  Read at a single
element it is one fold: it starts at the bias and takes up the taps by row, column and channel, each
of them a product of two elements of the whole buffers.

* `Direct.Geometry.taps` — the taps in their order;
* `Direct.Geometry.sum?` — the fold behind an output element;
* `Direct.Geometry.sum?_eq` — the rows of the kernel hold these folds;
* `Direct.Geometry.Contract` — the extents and lengths that belong together;
* `Direct.convolve_elementwise` — the output of the kernel, element by element.
-/

namespace ConvLab

/-- A loop whose steps all have a result has the result of the plain fold. -/
theorem foldlM_eq_some {α β : Type} {f : β → α → Option β} {g : β → α → β} {xs : List α}
    (h : ∀ x ∈ xs, ∀ b, f b x = some (g b x)) (b : β) : xs.foldlM f b = some (xs.foldl g b) := by
  induction xs generalizing b with
  | nil => rfl
  | cons x xs ih =>
      rw [List.foldlM_cons, h x List.mem_cons_self, List.foldl_cons]
      exact ih (fun y hy => h y (List.mem_cons_of_mem x hy)) (g b x)

namespace Direct

variable {α : Type} [Element α] {g : Geometry}

namespace Geometry

/-- The taps of the kernel, given by row, column and channel, in lexicographic order. -/
def taps (g : Geometry) : List (Nat × Nat × Nat) :=
  (List.range g.kernel).flatMap fun row => (List.range g.kernel).flatMap fun column =>
    (List.range g.inChannels).map fun channel => (row, column, channel)

/-- The sum behind the element of channel `o` at row `y`, column `x` of image `b`: the bias, then
the product of one tap after the other.  There is none if an element of the buffers is missing. -/
def sum? (g : Geometry) (input weights bias : Array α) (b y x o : Nat) : Option α := do
  let first ← bias[o]?
  g.taps.foldlM (fun sum tap => do
    let weight ← weights[((tap.1 * g.kernel + tap.2.1) * g.inChannels + tap.2.2) *
      g.outChannels + o]?
    let value ← input[((b * g.inH + y + tap.1) * g.inW + x + tap.2.1) * g.inChannels + tap.2.2]?
    return Element.mulAdd weight value sum) first

theorem mem_taps {tap : Nat × Nat × Nat} :
    tap ∈ g.taps ↔ tap.1 < g.kernel ∧ tap.2.1 < g.kernel ∧ tap.2.2 < g.inChannels := by
  obtain ⟨row, column, channel⟩ := tap
  simp only [taps, List.mem_flatMap, List.mem_map, List.mem_range, Prod.mk.injEq]
  constructor
  · rintro ⟨_, hrow, _, hcolumn, _, hchannel, rfl, rfl, rfl⟩
    exact ⟨hrow, hcolumn, hchannel⟩
  · rintro ⟨hrow, hcolumn, hchannel⟩
    exact ⟨row, hrow, column, hcolumn, channel, hchannel, rfl, rfl, rfl⟩

/-- A kernel of a single tap only walks over the channels. -/
theorem taps_of_kernel_eq_one (h : g.kernel = 1) :
    g.taps = (List.range g.inChannels).map fun channel => (0, 0, channel) := by
  simp only [taps, h, List.range_one, List.flatMap_cons, List.flatMap_nil, List.append_nil]

/-- Tap by tap and channel by channel is one walk over the taps. -/
theorem sumAt_eq_foldl (g : Geometry) (image weights bias : Array α) (y x o : Nat) :
    g.sumAt image weights bias y x o = g.taps.foldl (fun sum tap =>
      Element.mulAdd
        (weights.getD (((tap.1 * g.kernel + tap.2.1) * g.inChannels + tap.2.2) * g.outChannels + o)
          Element.zero)
        (image.getD (((y + tap.1) * g.inW + (x + tap.2.1)) * g.inChannels + tap.2.2) Element.zero)
        sum) (bias.getD o Element.zero) := by
  simp only [sumAt, pairs, taps, tapSum, List.foldl_flatMap, List.foldl_map]

/-- With buffers of the right lengths every tap is found in them. -/
theorem sum?_eq (h : g.Valid) {input weights bias : Array α}
    (hinput : input.size = g.batch * g.inImage) (hweights : weights.size = g.weightCount)
    (hbias : bias.size = g.outChannels) {b y x o : Nat} (hb : b < g.batch) (hy : y < g.outH)
    (hx : x < g.outW) (ho : o < g.outChannels) :
    g.sum? input weights bias b y x o =
      some (g.sumAt (g.imageOf input b) weights bias y x o) := by
  have hfirst : bias[o]? = some (bias.getD o Element.zero) :=
    getElem?_eq_getD (hbias ▸ ho) Element.zero
  rw [sum?, hfirst, sumAt_eq_foldl]
  apply foldlM_eq_some
  intro tap htap sum
  obtain ⟨hrow, hcolumn, hchannel⟩ := mem_taps.mp htap
  obtain ⟨hheight, hwidth⟩ := h.position_lt hy hx hrow hcolumn
  have hweight : weights[((tap.1 * g.kernel + tap.2.1) * g.inChannels + tap.2.2) *
      g.outChannels + o]? = some _ :=
    getElem?_eq_getD (hweights ▸ index_lt (index_lt (index_lt hrow hcolumn) hchannel) ho)
      Element.zero
  have hvalue : input[((b * g.inH + y + tap.1) * g.inW + x + tap.2.1) * g.inChannels +
      tap.2.2]? = some ((g.imageOf input b).getD
        (((y + tap.1) * g.inW + (x + tap.2.1)) * g.inChannels + tap.2.2) Element.zero) := by
    rw [Nat.add_assoc (b * g.inH), Nat.add_assoc _ x]
    exact g.getElem?_eq_imageOf hinput hb hheight hwidth hchannel Element.zero
  rw [hweight, hvalue]
  rfl

/-- The extents and the lengths of a call that belong together: the kernel lies inside the input,
and every buffer has as many elements as the extents say. -/
structure Contract (g : Geometry) (lengths : Lengths) : Prop where
  batch_pos : 1 ≤ g.batch
  inChannels_pos : 1 ≤ g.inChannels
  outChannels_pos : 1 ≤ g.outChannels
  kernel_pos : 1 ≤ g.kernel
  kernelH_fits : g.kernel ≤ g.inH
  kernelW_fits : g.kernel ≤ g.inW
  outH_eq : g.outH = g.inH - g.kernel + 1
  outW_eq : g.outW = g.inW - g.kernel + 1
  input_eq : lengths.input = g.batch * g.inH * g.inW * g.inChannels
  output_eq : lengths.output = g.batch * g.outH * g.outW * g.outChannels
  weights_eq : lengths.weights = g.kernel * g.kernel * g.inChannels * g.outChannels
  bias_eq : lengths.bias = g.outChannels
  input_room : lengths.input < Buffer.capacity
  output_room : lengths.output < Buffer.capacity
  weights_room : lengths.weights < Buffer.capacity

namespace Contract

variable {lengths : Lengths} (h : g.Contract lengths)

include h

theorem input_images : lengths.input = g.batch * g.inImage := by
  rw [h.input_eq, inImage]
  simp only [Nat.mul_assoc]

theorem output_images : lengths.output = g.batch * g.outImage := by
  rw [h.output_eq, outImage]
  simp only [Nat.mul_assoc]

theorem valid : g.Valid where
  batch_pos := h.batch_pos
  inChannels_pos := h.inChannels_pos
  outChannels_pos := h.outChannels_pos
  kernel_pos := h.kernel_pos
  kernelH_fits := h.kernelH_fits
  kernelW_fits := h.kernelW_fits
  outH_eq := h.outH_eq
  outW_eq := h.outW_eq
  input_word := h.input_images ▸ Nat.lt_trans h.input_room (by decide)
  output_word := h.output_images ▸ Nat.lt_trans h.output_room (by decide)
  weights_word := by
    rw [weightCount, ← h.weights_eq]
    exact Nat.lt_trans h.weights_room (by decide)

end Contract

end Geometry

/-- The direct kernel is exactly its definition.  On extents and buffers that belong together it
never traps, and whatever the output held, each of its elements becomes the fold of its taps,
rectified and scaled. -/
theorem convolve_elementwise (scale : α) {input weights bias output : Array α}
    (h : g.Contract ⟨input.size, output.size, weights.size, bias.size⟩) :
    ∃ out, convolve g scale input weights bias output = .ok out ∧ out.size = output.size ∧
      ∀ b < g.batch, ∀ y < g.outH, ∀ x < g.outW, ∀ o < g.outChannels, ∃ sum,
        g.sum? input weights bias b y x o = some sum ∧
        out[((b * g.outH + y) * g.outW + x) * g.outChannels + o]? =
          some (Element.mul (Element.max sum Element.zero) scale) := by
  have hinput : input.size = g.batch * g.inImage := h.input_images
  have houtput : output.size = g.batch * g.outImage := h.output_images
  refine ⟨_, convolve_eq h.valid scale hinput h.weights_eq h.bias_eq houtput, ?_, ?_⟩
  · rw [List.size_toArray, g.length_output, houtput]
  · intro b hb y hy x hx o ho
    refine ⟨_, Geometry.sum?_eq h.valid hinput h.weights_eq h.bias_eq hb hy hx ho, ?_⟩
    rw [List.getElem?_toArray, g.getElem?_output scale input weights bias hb hy hx ho]
    rfl

/-- A kernel of four taps on an input that is wider than high. -/
def Geometry.oblong : Geometry where
  outH := 1
  outW := 2
  outChannels := 2
  kernel := 2
  inChannels := 1
  inH := 2
  inW := 3
  batch := 1

/-- Large elements of opposite signs with small ones between them. -/
def oblongInput : Array Float32 := #[16777216, 1, 2, -16777216, 1, 4]

/-- Weights of one for the first output channel and of zero for the second. -/
def oblongWeights : Array Float32 := #[1, 0, 1, 0, 1, 0, 1, 0]

/-- The order of the taps shows in the result: the second tap is lost beside the first, and the
fourth is kept.  The undefined elements of the old output leave no trace. -/
theorem convolve_elementwise_oblong :
    ∃ out, convolve .oblong 0.5 oblongInput oblongWeights #[0, 1] (Array.replicate 4 (0 / 0)) =
        .ok out ∧ out.size = 4 ∧ out[0]? = some (0.5 : Float32) := by
  have hcontract : Geometry.oblong.Contract ⟨oblongInput.size,
      (Array.replicate 4 (0 / 0 : Float32)).size, oblongWeights.size,
      (#[0, 1] : Array Float32).size⟩ := by
    constructor <;> decide
  obtain ⟨out, hout, hsize, helement⟩ := convolve_elementwise 0.5 hcontract
  obtain ⟨sum, hsum, hvalue⟩ := helement 0 (by decide) 0 (by decide) 0 (by decide) 0 (by decide)
  have hone : Geometry.oblong.sum? oblongInput oblongWeights #[0, 1] 0 0 0 0 =
      some (1 : Float32) := by decide +kernel
  rw [hone, Option.some.injEq] at hsum
  refine ⟨out, hout, hsize, hvalue.trans ?_⟩
  rw [← hsum]
  decide +kernel

end Direct

end ConvLab
