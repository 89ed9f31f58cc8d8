import ConvLab.Proofs.Exact
import ConvLab.Proofs.Kernel
import ConvLab.Proofs.Layout

/-!
# The kernels agree

Where both kernels take a shape and their arithmetic is exact, they compute the same convolution:
the output of the direct kernel, run on converted inputs and converted back, is the output of the
primitive.

* `Shape.exactOutput` — an output element of the convolution;
* `Reference.getElem?_output`, `Candidate.getElem?_output` — the elements of either output;
* `kernels_agree` — the destinations are equal, and each of their elements is the exact one.
-/

namespace ConvLab

open Finset

variable {R : Type} [CommRing R] [LinearOrder R]

/-- An output element of a convolution without padding and with unit stride: the bias plus the
products of the taps over all channels, rectified. -/
def Shape.exactOutput (s : Shape) (src weights bias : Array R) (n o y x : ℕ) : R :=
  max 0 (bias.getD o 0 + ∑ c ∈ range s.inChannels,
    ∑ ky ∈ range s.kernelSize, ∑ kx ∈ range s.kernelSize,
      src.getD (((n * s.inChannels + c) * s.inDim + (y + ky)) * s.inDim + (x + kx)) 0 *
        weights.getD (((o * s.inChannels + c) * s.kernelSize + ky) * s.kernelSize + kx) 0)

/-- The output of a convolution without padding and with unit stride, image by image and plane by
plane. -/
structure Shape.IsExact (s : Shape) (src weights bias out : Array R) : Prop where
  size_eq : out.size = s.batch * s.outChannels * s.extent * s.extent
  getElem?_eq : ∀ n < s.batch, ∀ o < s.outChannels, ∀ y < s.extent, ∀ x < s.extent,
    out[((n * s.outChannels + o) * s.extent + y) * s.extent + x]? =
      some (s.exactOutput src weights bias n o y x)

theorem Shape.IsExact.unique {s : Shape} {src weights bias out out' : Array R}
    (h : s.IsExact src weights bias out) (h' : s.IsExact src weights bias out') : out = out' := by
  refine Extents.array_ext (d := ⟨s.batch, s.outChannels, s.extent, s.extent⟩) h.size_eq
    h'.size_eq ?_
  rintro ⟨n, o, y, x⟩ ⟨hn, ho, hy, hx⟩
  exact (h.getElem?_eq n hn o ho y hy x hx).trans (h'.getElem?_eq n hn o ho y hy x hx).symm

omit [CommRing R] [LinearOrder R] in
theorem getD_eq_of_getElem?_eq {xs ys : Array R} {i j : ℕ} (h : xs[i]? = ys[j]?) (e : R) :
    xs.getD i e = ys.getD j e := by
  rw [Array.getD_eq_getD_getElem?, Array.getD_eq_getD_getElem?, h]

variable {p : Problem R} {n o y x : ℕ}

omit [CommRing R] [LinearOrder R] in
theorem Problem.Built.position_lt (hp : p.Built) (hpadding : p.shape.padding = 0)
    (hstride : p.shape.stride = 1) {position tap : ℕ} (hposition : position < p.shape.extent)
    (htap : tap < p.shape.kernelSize) : position + tap < p.shape.inDim := by
  obtain ⟨hout, hfits⟩ := Candidate.outDim_eq hp hpadding hstride
  rw [hp.outDim_eq] at hout
  omega

section Counts

omit [CommRing R] [LinearOrder R]

theorem Problem.Built.count_src (hp : p.Built) :
    Extents.count ⟨p.shape.batch, p.shape.inChannels, p.shape.inDim, p.shape.inDim⟩ =
      .ok p.memory.src.toArray.size := by
  rw [Buffer.size_toArray, hp.src_size]
  exact Extents.count_eq hp.shape.inDim_pos hp.shape.inDim_pos hp.shape.src_word

theorem Problem.Built.count_weights (hp : p.Built) :
    Extents.count ⟨p.shape.outChannels, p.shape.inChannels, p.shape.kernelSize,
      p.shape.kernelSize⟩ = .ok p.memory.weights.toArray.size := by
  rw [Buffer.size_toArray, hp.weights_size]
  exact Extents.count_eq hp.shape.kernelSize_pos hp.shape.kernelSize_pos hp.shape.weights_word

theorem Problem.Built.count_dst (hp : p.Built) :
    Extents.count ⟨p.shape.batch, p.shape.outChannels, p.outDim, p.outDim⟩ =
      .ok p.memory.dst.toArray.size := by
  rw [Buffer.size_toArray, hp.dst_size, hp.outDim_eq]
  exact Extents.count_eq p.shape.extent_pos p.shape.extent_pos hp.shape.dst_word

end Counts

/-! ### The reference -/

namespace Reference

theorem getElem?_output [Processor] (hp : p.Built) (hpadding : p.shape.padding = 0)
    (hstride : p.shape.stride = 1) (h : (descriptor p).Valid) (hn : n < p.shape.batch)
    (ho : o < p.shape.outChannels) (hy : y < p.shape.extent) (hx : x < p.shape.extent) :
    (output p)[((n * p.shape.outChannels + o) * p.shape.extent + y) *
      p.shape.extent + x]? =
      some (p.shape.exactOutput p.memory.src.toArray p.memory.weights.toArray
        p.memory.bias.toArray n o y x) := by
  refine ((descriptor p).getElem?_output _ _ _ _ hn ho hy hx).trans (congrArg some ?_)
  have hplain : (descriptor p).Plain := ⟨hpadding, hpadding, hstride, hstride⟩
  have hweights : (descriptor p).outChannels * (descriptor p).patchSize ≤
      p.memory.weights.toArray.size := by
    rw [Buffer.size_toArray, hp.weights_size]
    simp only [Shape.exactSizes, Descriptor.patchSize, descriptor, Nat.mul_assoc, le_refl]
  rw [Descriptor.outputAt_eq_sum hplain h ho hweights hy hx]
  refine (Element.relu_eq _).trans (congrArg (max 0) ?_)
  refine congrArg (p.memory.bias.toArray.getD o 0 + ·) ?_
  apply sum_taps_congr
  intro c hc ky hky kx hkx
  rw [getD_eq_of_getElem?_eq ((descriptor p).getElem?_imageOf _ n hc
    (hp.position_lt hpadding hstride hy hky) (hp.position_lt hpadding hstride hx hkx)) 0]
  rfl

/-- A reference that could be created runs and leaves the exact output. -/
theorem run_exact [Processor] (hp : p.Built) (hpadding : p.shape.padding = 0)
    (hstride : p.shape.stride = 1) {k : Reference R} (hk : create p = .ok k) :
    ∃ k', k.run = (k', .ok ()) ∧ p.shape.IsExact p.memory.src.toArray p.memory.weights.toArray
      p.memory.bias.toArray k'.problem.memory.dst.toArray := by
  obtain ⟨hvalid, k', hrun, hdst, houtput⟩ := run_of_create hk
  refine ⟨k', hrun, (Buffer.size_toArray _).trans (hdst.trans hp.dst_size), ?_⟩
  intro n hn o ho y hy x hx
  rw [houtput, List.getElem?_toArray]
  exact getElem?_output hp hpadding hstride hvalid hn ho hy hx

end Reference

/-! ### The candidate -/

namespace Candidate

omit [CommRing R] [LinearOrder R] in
/-- The inputs of the problem are the given ones with the channels moved inwards. -/
structure Converted (p : Problem R) (src weights : Array R) : Prop where
  src : ∀ n < p.shape.batch, ∀ c < p.shape.inChannels, ∀ y < p.shape.inDim, ∀ x < p.shape.inDim,
    p.memory.src.toArray[((n * p.shape.inDim + y) * p.shape.inDim + x) * p.shape.inChannels + c]? =
      src[((n * p.shape.inChannels + c) * p.shape.inDim + y) * p.shape.inDim + x]?
  weights : ∀ o < p.shape.outChannels, ∀ c < p.shape.inChannels, ∀ ky < p.shape.kernelSize,
    ∀ kx < p.shape.kernelSize,
    p.memory.weights.toArray[((ky * p.shape.kernelSize + kx) * p.shape.inChannels + c) *
      p.shape.outChannels + o]? =
      weights[((o * p.shape.inChannels + c) * p.shape.kernelSize + ky) * p.shape.kernelSize + kx]?

theorem getElem?_output {src weights : Array R} (hp : p.Built) (hpadding : p.shape.padding = 0)
    (hstride : p.shape.stride = 1) (hscale : p.scale = 1) (hinputs : Converted p src weights)
    (hn : n < p.shape.batch) (ho : o < p.shape.outChannels) (hy : y < p.outDim)
    (hx : x < p.outDim) :
    (output p)[((n * p.outDim + y) * p.outDim + x) * p.shape.outChannels + o]? =
      some (p.shape.exactOutput src weights p.memory.bias.toArray n o y x) := by
  refine ((geometry p).getElem?_output _ _ _ _ hn hy hx ho).trans (congrArg some ?_)
  rw [Direct.Geometry.outputAt, Element.Exact.mul_eq, hscale, mul_one, Element.relu_eq,
    Direct.Geometry.sumAt_eq_sum, ← sum_taps_comm, Shape.exactOutput]
  refine congrArg (fun sum => max 0 (p.memory.bias.toArray.getD o 0 + sum)) ?_
  apply sum_taps_congr
  intro c hc ky hky kx hkx
  rw [hp.outDim_eq] at hy hx
  have hrow := hp.position_lt hpadding hstride hy hky
  have hcolumn := hp.position_lt hpadding hstride hx hkx
  have himage := ((geometry p).getElem?_imageOf p.memory.src.toArray n hrow hcolumn hc).trans
    (hinputs.src n hn c hc (y + ky) hrow (x + kx) hcolumn)
  have hweight := hinputs.weights o ho c hc ky hky kx hkx
  rw [mul_comm]
  exact congrArg₂ (· * ·) (getD_eq_of_getElem?_eq himage 0) (getD_eq_of_getElem?_eq hweight 0)

/-- A candidate runs, and its output can be converted, pixel by pixel, to the layout of the
reference. -/
theorem run_converted {α : Type} [Element α] {p : Problem α} (hp : p.Built)
    (hpadding : p.shape.padding = 0) (hstride : p.shape.stride = 1) :
    ∃ dst out, run { problem := p } = ({ problem := p.withDst dst }, .ok ()) ∧
      Layout.nhwcToNchw dst.toArray p.shape.batch p.shape.outChannels p.outDim p.outDim =
        .ok out ∧
      out.size = p.shape.batch * p.shape.outChannels * p.shape.extent * p.shape.extent ∧
      ∀ n < p.shape.batch, ∀ o < p.shape.outChannels, ∀ y < p.outDim, ∀ x < p.outDim,
        out[((n * p.shape.outChannels + o) * p.outDim + y) * p.outDim + x]? =
          (output p)[((n * p.outDim + y) * p.outDim + x) *
            p.shape.outChannels + o]? := by
  have hrun := run_eq hp hpadding hstride rfl
  have hsize := size_output hp
  obtain ⟨out, hout, hout_size, hget⟩ := Layout.nhwcToNchw_eq (hp.withDst hsize).count_dst
  refine ⟨_, out, hrun, hout, hout_size.trans (hsize.trans hp.dst_size), ?_⟩
  intro n hn o ho y hy x hx
  exact (hget n hn o ho y hy x hx).trans List.getElem?_toArray

/-- A candidate on converted inputs runs, and its output, converted back, is the exact one. -/
theorem run_exact {src weights : Array R} (hp : p.Built) (hpadding : p.shape.padding = 0)
    (hstride : p.shape.stride = 1) (hscale : p.scale = 1)
    (hinputs : Converted p src weights) :
    ∃ k' out, run { problem := p } = (k', .ok ()) ∧
      Layout.nhwcToNchw k'.problem.memory.dst.toArray p.shape.batch p.shape.outChannels p.outDim
        p.outDim = .ok out ∧
      p.shape.IsExact src weights p.memory.bias.toArray out := by
  obtain ⟨dst, out, hrun, hout, hsize, hget⟩ := run_converted hp hpadding hstride
  refine ⟨_, out, hrun, hout, hsize, ?_⟩
  intro n hn o ho y hy x hx
  rw [← hp.outDim_eq] at hy hx ⊢
  rw [hget n hn o ho y hy x hx]
  exact getElem?_output hp hpadding hstride hscale hinputs hn ho hy hx

end Candidate

/-! ### Both kernels -/

/-- With exact arithmetic the two kernels compute the same convolution.  Where the reference takes
a shape without padding and with unit stride, the candidate takes it too; the reference on the
given buffers and the candidate, with factor one, on the converted ones both succeed, and the
converted output of the candidate is the output of the reference, element by element the exact
one. -/
theorem kernels_agree [Processor] {s : Shape} (hpadding : s.padding = 0) (hstride : s.stride = 1)
    {scale : R} {src weights bias : Buffer R}
    (hp : Problem.ofBuffers s scale src weights bias = .ok p)
    {reference : Reference R} (hreference : Reference.create p = .ok reference) :
    ∃ nhwc hwio p' candidate reference' candidate' out,
      Layout.nchwToNhwc src.toArray s.batch s.inChannels s.inDim s.inDim = .ok nhwc ∧
      Layout.oihwToHwio weights.toArray s.outChannels s.inChannels s.kernelSize s.kernelSize =
        .ok hwio ∧
      Problem.ofBuffers s 1 (.ofArray nhwc) (.ofArray hwio) bias = .ok p' ∧
      Candidate.create p' = .ok candidate ∧
      reference.run = (reference', .ok ()) ∧
      candidate.run = (candidate', .ok ()) ∧
      Layout.nhwcToNchw candidate'.problem.memory.dst.toArray s.batch s.outChannels p.outDim
        p.outDim = .ok out ∧
      reference'.problem.memory.dst.toArray = out ∧
      s.IsExact src.toArray weights.toArray bias.toArray out := by
  have hbuilt := Problem.built_of_ofBuffers hp
  obtain ⟨hshape, hsrc, hweights, hbias, hroom, rfl⟩ := Problem.ofBuffers_eq_ok_iff.mp hp
  -- the converted inputs make a problem of the same shape, and the candidate takes it
  obtain ⟨nhwc, hnhwc, hnhwc_size, hnhwc_get⟩ := Layout.nchwToNhwc_eq hbuilt.count_src
  obtain ⟨hwio, hhwio, hhwio_size, hhwio_get⟩ := Layout.oihwToHwio_eq hbuilt.count_weights
  have hp' : Problem.ofBuffers s 1 (.ofArray nhwc) (.ofArray hwio) bias = .ok _ :=
    Problem.ofBuffers_eq_ok_iff.mpr ⟨hshape, hnhwc_size.trans (src.size_toArray.trans hsrc),
      hhwio_size.trans (weights.size_toArray.trans hweights), hbias, hroom, rfl⟩
  have hbuilt' := Problem.built_of_ofBuffers hp'
  have hcandidate := (Candidate.create_eq_ok_iff hbuilt').mpr ⟨hpadding, hstride, rfl⟩
  obtain ⟨reference', hrun, hexact⟩ := Reference.run_exact hbuilt hpadding hstride hreference
  obtain ⟨candidate', out, hrun', hout, hexact'⟩ :=
    Candidate.run_exact hbuilt' hpadding hstride rfl ⟨hnhwc_get, hhwio_get⟩
  exact ⟨nhwc, hwio, _, _, reference', candidate', out, hnhwc, hhwio, hp', hcandidate, hrun, hrun',
    hout, hexact.unique hexact', hexact'⟩

def Shape.plain : Shape where
  batch := 2
  inDim := 3
  inChannels := 2
  outChannels := 2
  kernelSize := 2
  padding := 0
  stride := 1

/-- A buffer of integers at equal steps. -/
def Buffer.ramp (n : ℕ) (start step : ℤ) : Buffer ℤ := .tabulate n fun i => start + step * i

section

attribute [local instance] Processor.vector

theorem kernels_agree_plain :
    ∃ p reference nhwc hwio p' candidate reference' candidate' out,
      Problem.ofBuffers .plain 3 (.ramp 36 (-7) 1) (.ramp 16 5 (-1)) (.ramp 2 0 1) = .ok p ∧
      Reference.create p = .ok reference ∧
      Layout.nchwToNhwc (Buffer.ramp 36 (-7) 1).toArray 2 2 3 3 = .ok nhwc ∧
      Layout.oihwToHwio (Buffer.ramp 16 5 (-1)).toArray 2 2 2 2 = .ok hwio ∧
      Problem.ofBuffers .plain 1 (.ofArray nhwc) (.ofArray hwio) (.ramp 2 0 1) = .ok p' ∧
      Candidate.create p' = .ok candidate ∧
      reference.run = (reference', .ok ()) ∧
      candidate.run = (candidate', .ok ()) ∧
      Layout.nhwcToNchw candidate'.problem.memory.dst.toArray 2 2 p.outDim p.outDim = .ok out ∧
      reference'.problem.memory.dst.toArray = out ∧
      out[9]? = some 136 := by
  obtain ⟨p, hp⟩ : ∃ p, Problem.ofBuffers .plain 3 (.ramp 36 (-7) 1) (.ramp 16 5 (-1))
      (.ramp 2 0 1) = .ok p := ⟨_, rfl⟩
  have hreference : ∃ reference, Reference.create p = .ok reference := by
    cases hp
    exact ⟨_, rfl⟩
  obtain ⟨reference, hreference⟩ := hreference
  obtain ⟨nhwc, hwio, p', candidate, reference', candidate', out, hnhwc, hhwio, hp', hcandidate,
    hrun, hrun', hout, heq, hexact⟩ := kernels_agree rfl rfl hp hreference
  have helement := hexact.getElem?_eq 1 (by decide) 0 (by decide) 0 (by decide) 1 (by decide)
  exact ⟨p, reference, nhwc, hwio, p', candidate, reference', candidate', out, hp, hreference,
    hnhwc, hhwio, hp', hcandidate, hrun, hrun', hout, heq, helement.trans (by decide)⟩

end

end ConvLab
