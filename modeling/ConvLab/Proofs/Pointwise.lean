import ConvLab.Proofs.Acceptance
import ConvLab.Proofs.Agreement
import ConvLab.Proofs.Taps

/-!
# Pointwise convolutions

A kernel of a single tap needs no receptive fields.  The primitive has a short way for it, from the
planes of the source straight into the destination; the long way over the scratch adds up the same
products in another order.  The direct kernel adds them up in the order of the short way, so there
the two kernels agree in every rounding.

* `Descriptor.product_paths_agree` — with exact arithmetic both ways write the same destination;
* `Shape.channelSum?` — the fold behind a pixel of a pointwise convolution;
* `Shape.IsPointwiseOutput` — an output made of these folds;
* `Reference.run_pointwise`, `Candidate.run_pointwise` — either kernel leaves such an output;
* `kernels_agree_pointwise` — whatever the elements and their arithmetic are, the output of the
  candidate is that of the reference, scaled.
-/

namespace ConvLab

/-! ### Two ways through the primitive -/

namespace Descriptor

theorem plain_of_isPointwise {d : Descriptor} (hp : d.isPointwise = true) : d.Plain := by
  obtain ⟨-, -, hsh, hsw, hph, hpw⟩ := isPointwise_iff.mp hp
  exact ⟨hph, hpw, hsh, hsw⟩

/-- The short way of a pointwise convolution is as good as the long one.  With exact arithmetic the
product from the source and the product from the unfolded scratch both succeed and leave the same
destination: the exact sums in the place of the image, and around them what was there before. -/
theorem product_paths_agree {R : Type} [CommRing R] [Element R] [Element.Exact R] {d : Descriptor}
    (hvalidate : d.validate = .ok ()) (hp : d.isPointwise = true) (kernel : DotKernel) {s : Stage R}
    (himage : s.image < d.batch) (hfits : d.Fits s)
    (hscratch : d.pixels * d.patchSize ≤ s.scratch.size) :
    ∃ source unfolding unfolded scratch dst,
      Gemm.ofDescriptor d .source kernel = .ok source ∧
      Unfolding.ofDescriptor d = .ok unfolding ∧
      unfolding.scratchLen = .ok (d.pixels * d.patchSize) ∧
      Gemm.ofDescriptor d .scratch kernel = .ok unfolded ∧
      source.apply s = .ok { s with dst } ∧
      unfolding.apply s = .ok { s with scratch } ∧
      unfolded.apply { s with scratch } = .ok { s with scratch, dst } ∧
      dst = Cells.splice s.dst (s.image * d.dstImage)
        (d.planes (d.exactSum (d.imageOf s.src s.image) s.weights s.bias)) := by
  have h := valid_of_validate hvalidate
  have hsource : (d.product kernel .source).apply s = _ :=
    Gemm.apply_source_eq h hp himage hfits.weights hfits.bias hfits.dst hfits.src
  obtain ⟨scratch, -, hunfold, hunfolded⟩ := h.apply_unfolded_eq himage hfits hscratch
  -- channel after channel or in partial sums of any kind, both are the exact sum
  have hpixels : d.planes (d.pixelSum (d.imageOf s.src s.image) s.weights s.bias) =
      d.planes (d.exactSum (d.imageOf s.src s.image) s.weights s.bias) := by
    apply planes_congr
    intro o ho y _ x _
    exact pixelSum_eq_sum hp h ho hfits.weights
  have hfields : d.planes (d.fieldSum kernel (d.imageOf s.src s.image) s.weights s.bias) =
      d.planes (d.exactSum (d.imageOf s.src s.image) s.weights s.bias) := by
    apply planes_congr
    intro o ho y hy x hx
    exact fieldSum_eq_sum (plain_of_isPointwise hp) h ho hfits.weights hy hx
  rw [hpixels] at hsource
  rw [hfields] at hunfolded
  exact ⟨_, _, _, scratch, _, h.product_eq kernel .source, h.unfolding_eq, h.scratchLen_unfolding,
    h.product_eq kernel .scratch, hsource, hunfold, hunfolded, rfl⟩

/-- Two images of one row, with one channel more than a dot product takes at a time. -/
def fiveChannels : Descriptor where
  batch := 2
  inChannels := 5
  inH := 1
  inW := 2
  outChannels := 2
  kernelH := 1
  kernelW := 1
  padH := 0
  padW := 0
  strideH := 1
  strideW := 1
  postOps := []

/-- The second of two images, with old elements in the scratch and in the destination. -/
def secondImage : Stage ℤ where
  image := 1
  src := Array.ofFn fun i : Fin 20 => (i : ℤ) - 12
  weights := #[1, -2, 3, -4, 5, 1, 1, 1, 1, 1]
  bias := #[100, -100]
  scratch := Array.replicate 11 9
  dst := Array.replicate 9 7

theorem product_paths_agree_fiveChannels :
    ∃ source unfolding unfolded scratch dst,
      Gemm.ofDescriptor fiveChannels .source .scalar = .ok source ∧
      Unfolding.ofDescriptor fiveChannels = .ok unfolding ∧
      Gemm.ofDescriptor fiveChannels .scratch .scalar = .ok unfolded ∧
      source.apply secondImage = .ok { secondImage with dst } ∧
      unfolding.apply secondImage = .ok { secondImage with scratch } ∧
      unfolded.apply { secondImage with scratch } = .ok { secondImage with scratch, dst } ∧
      dst = #[7, 7, 7, 7, 118, 121, -90, -85, 7] := by
  have hvalidate : fiveChannels.validate = .ok () := by rfl
  obtain ⟨source, unfolding, unfolded, scratch, dst, hsource, hunfolding, -, hunfolded, hshort,
    hunfold, hlong, hdst⟩ :=
    product_paths_agree hvalidate (by decide) .scalar (s := secondImage) (by decide)
      ⟨by decide, by decide, by decide, by decide⟩ (by decide)
  exact ⟨source, unfolding, unfolded, scratch, dst, hsource, hunfolding, hunfolded, hshort,
    hunfold, hlong, hdst.trans (by decide +kernel)⟩

end Descriptor

/-! ### Two kernels -/

variable {α : Type} [Element α]

/-- The sum behind channel `o` of a pixel, on the buffers of the reference: the bias, then the
product of one input channel after the other. -/
def Shape.channelSum? (s : Shape) (src weights bias : Array α) (n o y x : ℕ) : Option α := do
  let first ← bias[o]?
  (List.range s.inChannels).foldlM (fun sum c => do
    let weight ← weights[o * s.inChannels + c]?
    let value ← src[((n * s.inChannels + c) * s.inDim + y) * s.inDim + x]?
    return Element.mulAdd weight value sum) first

/-- An output of a pointwise convolution, image by image and plane by plane: each element is the
sum of its pixel, finished in the same way. -/
structure Shape.IsPointwiseOutput (s : Shape) (src weights bias : Array α) (finish : α → α)
    (out : Array α) : Prop where
  size_eq : out.size = s.batch * s.outChannels * s.extent * s.extent
  getElem?_eq : ∀ n < s.batch, ∀ o < s.outChannels, ∀ y < s.extent, ∀ x < s.extent, ∃ sum,
    s.channelSum? src weights bias n o y x = some sum ∧
    out[((n * s.outChannels + o) * s.extent + y) * s.extent + x]? = some (finish sum)

namespace Shape.IsPointwiseOutput

variable {s : Shape} {src weights bias out out' : Array α} {finish : α → α}

theorem unique (h : s.IsPointwiseOutput src weights bias finish out)
    (h' : s.IsPointwiseOutput src weights bias finish out') : out = out' := by
  refine Extents.array_ext (d := ⟨s.batch, s.outChannels, s.extent, s.extent⟩) h.size_eq
    h'.size_eq ?_
  rintro ⟨n, o, y, x⟩ ⟨hn, ho, hy, hx⟩
  obtain ⟨sum, hsum, hget⟩ := h.getElem?_eq n hn o ho y hy x hx
  obtain ⟨sum', hsum', hget'⟩ := h'.getElem?_eq n hn o ho y hy x hx
  have heq : sum = sum' := Option.some.inj (hsum.symm.trans hsum')
  exact hget.trans (heq ▸ hget'.symm)

theorem map (h : s.IsPointwiseOutput src weights bias finish out) (f : α → α) :
    s.IsPointwiseOutput src weights bias (fun x => f (finish x)) (out.map f) where
  size_eq := Array.size_map.trans h.size_eq
  getElem?_eq n hn o ho y hy x hx := by
    obtain ⟨sum, hsum, hget⟩ := h.getElem?_eq n hn o ho y hy x hx
    exact ⟨sum, hsum, by rw [Array.getElem?_map, hget, Option.map_some]⟩

end Shape.IsPointwiseOutput

variable {p : Problem α} {n o y x : ℕ}

namespace Reference

/-- Adding whole planes is, at each pixel, the fold over its channels. -/
theorem channelSum?_eq (hp : p.Built) (hpoint : p.shape.IsPointwise) (h : (descriptor p).Valid)
    (hn : n < p.shape.batch) (ho : o < p.shape.outChannels) (hy : y < p.shape.inDim)
    (hx : x < p.shape.inDim) :
    p.shape.channelSum? p.memory.src.toArray p.memory.weights.toArray p.memory.bias.toArray
        n o y x =
      some ((descriptor p).pixelSum ((descriptor p).imageOf p.memory.src.toArray n)
        p.memory.weights.toArray p.memory.bias.toArray o y x) := by
  have hpatch : (descriptor p).patchSize = p.shape.inChannels :=
    (h.pointwise_extents (isPointwise_descriptor.mpr hpoint)).1
  obtain ⟨hsrc, hweights, -⟩ := sizes_descriptor p
  have hsrc' : p.memory.src.toArray.size = (descriptor p).batch * (descriptor p).srcImage := by
    rw [Buffer.size_toArray, hp.src_size, hsrc]
  have hweights' : p.memory.weights.toArray.size = p.shape.outChannels * p.shape.inChannels := by
    rw [Buffer.size_toArray, hp.weights_size, ← hweights, hpatch]
    rfl
  have hbias : p.memory.bias.toArray.size = p.shape.outChannels := by
    rw [Buffer.size_toArray, hp.bias_size]
    rfl
  have hfirst : p.memory.bias.toArray[o]? = some _ := getElem?_eq_getD (hbias ▸ ho) Element.zero
  rw [Shape.channelSum?, hfirst, Descriptor.pixelSum_eq_foldl hpatch ho
    (by rw [hpatch, hweights']; exact le_refl _)]
  apply foldlM_eq_some
  intro c hc sum
  have hc' := List.mem_range.mp hc
  have hweight : p.memory.weights.toArray[o * p.shape.inChannels + c]? = some _ :=
    getElem?_eq_getD (hweights' ▸ index_lt ho hc') Element.zero
  have hvalue : p.memory.src.toArray[((n * p.shape.inChannels + c) * p.shape.inDim + y) *
      p.shape.inDim + x]? =
      some (((descriptor p).imageOf p.memory.src.toArray n).getD
        ((c * p.shape.inDim + y) * p.shape.inDim + x) Element.zero) :=
    (descriptor p).getElem?_eq_imageOf (hsrc' ▸ block_stop_le (descriptor p).srcImage hn)
      hc' hy hx Element.zero
  rw [hweight, hvalue]
  rfl

/-- A reference that could be created runs and leaves the rectified sums. -/
theorem run_pointwise [Processor] (hp : p.Built) (hpoint : p.shape.IsPointwise)
    {k : Reference α} (hk : create p = .ok k) :
    ∃ k', k.run = (k', .ok ()) ∧
      p.shape.IsPointwiseOutput p.memory.src.toArray p.memory.weights.toArray
        p.memory.bias.toArray Element.relu k'.problem.memory.dst.toArray := by
  obtain ⟨hvalid, k', hrun, hdst, houtput⟩ := run_of_create hk
  refine ⟨k', hrun, (Buffer.size_toArray _).trans (hdst.trans hp.dst_size), ?_⟩
  intro n hn o ho y hy x hx
  have hextent := hpoint.extent_eq hp.shape.toValid
  refine ⟨_, channelSum?_eq hp hpoint hvalid hn ho (hextent ▸ hy) (hextent ▸ hx), ?_⟩
  rw [houtput, List.getElem?_toArray]
  refine ((descriptor p).getElem?_output _ _ _ _ hn ho hy hx).trans (congrArg some ?_)
  rw [Descriptor.outputAt, if_pos (isPointwise_descriptor.mpr hpoint)]
  rfl

end Reference

namespace Candidate

/-- On converted inputs the fold over the taps is the same fold over the channels. -/
theorem channelSum?_eq {src weights : Array α} (hp : p.Built) (hpoint : p.shape.IsPointwise)
    (hinputs : Converted p src weights) (hn : n < p.shape.batch) (ho : o < p.shape.outChannels)
    (hy : y < p.shape.inDim) (hx : x < p.shape.inDim) :
    p.shape.channelSum? src weights p.memory.bias.toArray n o y x =
      some ((geometry p).sumAt ((geometry p).imageOf p.memory.src.toArray n)
        p.memory.weights.toArray p.memory.bias.toArray y x o) := by
  obtain ⟨hsrc, hweights, hbias, -⟩ := size_eq hp
  rw [← Buffer.size_toArray] at hsrc hweights hbias
  have hkernel : (geometry p).kernel = 1 := hpoint.1
  have hfirst : p.memory.bias.toArray[o]? = some _ := getElem?_eq_getD (hbias ▸ ho) Element.zero
  rw [Shape.channelSum?, hfirst, Direct.Geometry.sumAt_eq_foldl,
    Direct.Geometry.taps_of_kernel_eq_one hkernel, List.foldl_map]
  apply foldlM_eq_some
  intro c hc sum
  have hc' : c < (geometry p).inChannels := List.mem_range.mp hc
  have hkernel_pos := hp.shape.kernelSize_pos
  have hweight : weights[o * p.shape.inChannels + c]? = some (p.memory.weights.toArray.getD
      (((0 * (geometry p).kernel + 0) * (geometry p).inChannels + c) * (geometry p).outChannels + o)
      Element.zero) := by
    have hplace : weights[((o * p.shape.inChannels + c) * p.shape.kernelSize + 0) *
        p.shape.kernelSize + 0]? = weights[o * p.shape.inChannels + c]? := by
      rw [hpoint.1, Nat.add_zero, Nat.mul_one, Nat.add_zero, Nat.mul_one]
    rw [← hplace, ← hinputs.weights o ho c hc' 0 hkernel_pos 0 hkernel_pos]
    exact getElem?_eq_getD
      (hweights ▸ index_lt (index_lt (index_lt hkernel_pos hkernel_pos) hc') ho) Element.zero
  have hvalue : src[((n * p.shape.inChannels + c) * p.shape.inDim + y) * p.shape.inDim + x]? =
      some (((geometry p).imageOf p.memory.src.toArray n).getD
        (((y + 0) * (geometry p).inW + (x + 0)) * (geometry p).inChannels + c) Element.zero) := by
    rw [← hinputs.src n hn c hc' y hy x hx]
    exact (geometry p).getElem?_eq_imageOf hsrc hn hy hx hc' Element.zero
  rw [hweight, hvalue]
  rfl

/-- A candidate on converted inputs runs, and its output, converted back, is the rectified sums,
scaled. -/
theorem run_pointwise {src weights : Array α} (hp : p.Built) (hpoint : p.shape.IsPointwise)
    (hinputs : Converted p src weights) :
    ∃ k' out, run { problem := p } = (k', .ok ()) ∧
      Layout.nhwcToNchw k'.problem.memory.dst.toArray p.shape.batch p.shape.outChannels p.outDim
        p.outDim = .ok out ∧
      p.shape.IsPointwiseOutput src weights p.memory.bias.toArray
        (fun sum => Element.mul (Element.relu sum) p.scale) out := by
  obtain ⟨dst, out, hrun, hout, hsize, hget⟩ := run_converted hp hpoint.2.1 hpoint.2.2
  refine ⟨_, out, hrun, hout, hsize, ?_⟩
  intro n hn o ho y hy x hx
  have hextent := hpoint.extent_eq hp.shape.toValid
  refine ⟨_, channelSum?_eq hp hpoint hinputs hn ho (hextent ▸ hy) (hextent ▸ hx), ?_⟩
  rw [← hp.outDim_eq] at hy hx ⊢
  rw [hget n hn o ho y hy x hx]
  exact (geometry p).getElem?_output _ _ _ _ hn hy hx ho

end Candidate

/-- On pointwise shapes the two kernels agree in every rounding.  Both take the shape and succeed,
and element by element the converted output of the candidate is that of the reference times the
factor.  Both have made the same products and sums in the same order, so nothing is asked of the
arithmetic, and undefined and infinite elements are no exception. -/
theorem kernels_agree_pointwise [Processor] {s : Shape} (hpoint : s.IsPointwise) {factor : α}
    (scale : α) {src weights bias : Buffer α}
    (hp : Problem.ofBuffers s factor src weights bias = .ok p) :
    ∃ nhwc hwio p' reference candidate reference' candidate' out,
      Layout.nchwToNhwc src.toArray s.batch s.inChannels s.inDim s.inDim = .ok nhwc ∧
      Layout.oihwToHwio weights.toArray s.outChannels s.inChannels s.kernelSize s.kernelSize =
        .ok hwio ∧
      Problem.ofBuffers s scale (.ofArray nhwc) (.ofArray hwio) bias = .ok p' ∧
      Reference.create p = .ok reference ∧
      Candidate.create p' = .ok candidate ∧
      reference.run = (reference', .ok ()) ∧
      candidate.run = (candidate', .ok ()) ∧
      Layout.nhwcToNchw candidate'.problem.memory.dst.toArray s.batch s.outChannels p.outDim
        p.outDim = .ok out ∧
      out = reference'.problem.memory.dst.toArray.map (fun x => Element.mul x scale) ∧
      s.IsPointwiseOutput src.toArray weights.toArray bias.toArray Element.relu
        reference'.problem.memory.dst.toArray := by
  have hbuilt := Problem.built_of_ofBuffers hp
  obtain ⟨hshape, hsrc, hweights, hbias, hroom, rfl⟩ := Problem.ofBuffers_eq_ok_iff.mp hp
  obtain ⟨reference, hreference, -⟩ := Reference.create_of_accepts hbuilt (.inl hpoint)
  obtain ⟨reference', hrun, houtput⟩ := Reference.run_pointwise hbuilt hpoint hreference
  -- the converted inputs make a problem of the same shape, and the candidate takes it
  obtain ⟨nhwc, hnhwc, hnhwc_size, hnhwc_get⟩ := Layout.nchwToNhwc_eq hbuilt.count_src
  obtain ⟨hwio, hhwio, hhwio_size, hhwio_get⟩ := Layout.oihwToHwio_eq hbuilt.count_weights
  have hp' : Problem.ofBuffers s scale (.ofArray nhwc) (.ofArray hwio) bias = .ok _ :=
    Problem.ofBuffers_eq_ok_iff.mpr ⟨hshape, hnhwc_size.trans (src.size_toArray.trans hsrc),
      hhwio_size.trans (weights.size_toArray.trans hweights), hbias, hroom, rfl⟩
  have hbuilt' := Problem.built_of_ofBuffers hp'
  have hcandidate := (Candidate.create_eq_ok_iff hbuilt').mpr ⟨hpoint.2.1, hpoint.2.2, rfl⟩
  obtain ⟨candidate', out, hrun', hout, houtput'⟩ :=
    Candidate.run_pointwise hbuilt' hpoint ⟨hnhwc_get, hhwio_get⟩
  have hscaled := houtput.map fun x => Element.mul x scale
  exact ⟨nhwc, hwio, _, reference, _, reference', candidate', out, hnhwc, hhwio, hp', hreference,
    hcandidate, hrun, hrun', hout, houtput'.unique hscaled, houtput⟩

/-- A pointwise shape of four pixels with two channels each. -/
def Shape.fourPixels : Shape where
  batch := 1
  inDim := 2
  inChannels := 2
  outChannels := 1
  kernelSize := 1
  padding := 0
  stride := 1

/-- A plane with a large, an infinite and an undefined element, and a plane of ones. -/
def Buffer.extremes : Buffer Float32 := .ofArray #[16777216, 1 / 0, 0 / 0, 3, 1, 1, 1, 1]

section

attribute [local instance] Processor.vector

/-- The large element swallows the bias and the second channel, as it would not in another order;
the infinite element stays, and the undefined one is rectified away. -/
theorem kernels_agree_pointwise_fourPixels :
    ∃ p nhwc hwio p' reference candidate reference' candidate' out,
      Problem.ofBuffers .fourPixels 3 .extremes (.ofArray #[1, 1]) (.ofArray #[1]) = .ok p ∧
      Layout.nchwToNhwc Buffer.extremes.toArray 1 2 2 2 = .ok nhwc ∧
      Layout.oihwToHwio #[1, 1] 1 2 1 1 = .ok hwio ∧
      Problem.ofBuffers .fourPixels 0.5 (.ofArray nhwc) (.ofArray hwio) (.ofArray #[1]) =
        .ok p' ∧
      Reference.create p = .ok reference ∧
      Candidate.create p' = .ok candidate ∧
      reference.run = (reference', .ok ()) ∧
      candidate.run = (candidate', .ok ()) ∧
      Layout.nhwcToNchw candidate'.problem.memory.dst.toArray 1 1 p.outDim p.outDim = .ok out ∧
      out = reference'.problem.memory.dst.toArray.map (fun x => Element.mul x 0.5) ∧
      out = #[8388608, 1 / 0, 0, 2.5] := by
  obtain ⟨p, hp⟩ : ∃ p, Problem.ofBuffers .fourPixels 3 .extremes (.ofArray #[1, 1])
      (.ofArray #[1]) = .ok p := ⟨_, rfl⟩
  obtain ⟨nhwc, hwio, p', reference, candidate, reference', candidate', out, hnhwc, hhwio, hp',
    hreference, hcandidate, hrun, hrun', hout, heq, houtput⟩ :=
    kernels_agree_pointwise ⟨rfl, rfl, rfl⟩ 0.5 hp
  have hsums : ∀ n < 1, ∀ o < 1, ∀ y < 2, ∀ x < 2,
      (Shape.fourPixels.channelSum? Buffer.extremes.toArray #[1, 1] #[1] n o y x).map
        Element.relu = (#[16777216, 1 / 0, 0, 5] : Array Float32)[((n * 1 + o) * 2 + y) * 2 + x]? :=
    by decide +kernel
  have hdst : Shape.fourPixels.IsPointwiseOutput Buffer.extremes.toArray #[1, 1] #[1]
      Element.relu (#[16777216, 1 / 0, 0, 5] : Array Float32) := by
    refine ⟨rfl, fun n hn o ho y hy x hx => ?_⟩
    have hmap := hsums n hn o ho y hy x hx
    have hlt : ((n * 1 + o) * 2 + y) * 2 + x < 1 * 1 * 2 * 2 :=
      index_lt (index_lt (index_lt hn ho) hy) hx
    rw [getElem?_eq_getD hlt 0] at hmap
    obtain ⟨sum, hsum, hrelu⟩ := Option.map_eq_some_iff.mp hmap
    exact ⟨sum, hsum, hrelu ▸ getElem?_eq_getD hlt 0⟩
  refine ⟨p, nhwc, hwio, p', reference, candidate, reference', candidate', out, hp, hnhwc, hhwio,
    hp', hreference, hcandidate, hrun, hrun', hout, heq, heq.trans ?_⟩
  rw [houtput.unique hdst]
  decide +kernel

end

end ConvLab
