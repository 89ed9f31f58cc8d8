import ConvLab.Proofs.ReceptiveField
import ConvLab.Scalar.Single

/-!
# The unfolded image

The unfolding writes the taps of an output pixel one after the other, channel by channel and row by
row, and the pixels one after the other.  So the place of a tap in the scratch is a number written
in a mixed radix, and what it holds there is an element of the source or, in the padding, zero.

* `Descriptor.tapPlace` — the place of a tap in the scratch;
* `Descriptor.getElem?_fields` — the receptive fields of an image, read tap by tap;
* `Descriptor.getElem?_source_of_inside`, `Descriptor.tap_of_outside` — what lies under a tap;
* `Unfolding.apply_exact` — the scratch after the unfolding of any image.
-/

namespace ConvLab

variable {α : Type} [Element α]

namespace Descriptor

variable (d : Descriptor)

/-- The place in the scratch of the tap `(ky, kx)` of channel `c`, for the output pixel `(y, x)`. -/
def tapPlace (y x c ky kx : Nat) : Nat :=
  (y * d.outWidth + x) * d.patchSize + ((c * d.kernelH + ky) * d.kernelW + kx)

/-- A tap lies inside the image, and not in the padding. -/
def Inside (row column : Nat) : Prop :=
  d.padH ≤ row ∧ row < d.padH + d.inH ∧ d.padW ≤ column ∧ column < d.padW + d.inW

variable {y x c ky kx : Nat}

theorem tapPlace_lt (hy : y < d.outHeight) (hx : x < d.outWidth) (hc : c < d.inChannels)
    (hky : ky < d.kernelH) (hkx : kx < d.kernelW) :
    d.tapPlace y x c ky kx < d.pixels * d.patchSize :=
  index_lt (index_lt hy hx) (index_lt (index_lt hc hky) hkx)

/-- The receptive fields of an image, read tap by tap. -/
theorem getElem?_fields (image : Array α) (hy : y < d.outHeight) (hx : x < d.outWidth)
    (hc : c < d.inChannels) (hky : ky < d.kernelH) (hkx : kx < d.kernelW) :
    (d.fields image)[d.tapPlace y x c ky kx]? =
      some (d.tap image c (y * d.strideH + ky) (x * d.strideW + kx)) := by
  have hpixel : y * d.outWidth + x < d.pixels := index_lt hy hx
  have htap : (c * d.kernelH + ky) * d.kernelW + kx < d.patchSize :=
    index_lt (index_lt hc hky) hkx
  rw [fields, tapPlace,
    getElem?_blocks (fun _ _ => d.length_receptiveField image _ _) hpixel htap, index_div hx,
    index_mod hx]
  exact d.getElem?_receptiveField image y x hc hky hkx

/-- Inside the image a tap shows an element of the source. -/
theorem getElem?_source_of_inside {src : Array α} {b row column : Nat}
    (hsrc : b * d.srcImage + d.srcImage ≤ src.size) (hc : c < d.inChannels)
    (hin : d.Inside row column) :
    src[((b * d.inChannels + c) * d.inH + (row - d.padH)) * d.inW + (column - d.padW)]? =
      some (d.tap (d.imageOf src b) c row column) := by
  obtain ⟨htop, hbottom, hleft, hright⟩ := hin
  rw [tap, if_pos ⟨htop, hbottom, hleft, hright⟩]
  exact d.getElem?_eq_imageOf hsrc hc (by omega) (by omega) Element.zero

/-- In the padding a tap shows zero. -/
theorem tap_of_outside {image : Array α} {row column : Nat} (hout : ¬ d.Inside row column) :
    d.tap image c row column = Element.zero := if_neg hout

end Descriptor

/-- The unfolding of an image.  For a descriptor that has been validated, any image of the batch and
any source and scratch of the lengths that the program asks for, the unfolding succeeds: nothing
leaves the word range and nothing is read or written out of bounds.  Afterwards the scratch holds,
at the place of every tap of every output pixel, the element of the image under the tap, and zero
where the tap lies in the padding; behind the receptive fields it is unchanged, and so are all other
buffers. -/
theorem Unfolding.apply_exact (α : Type) [Element α] {d : Descriptor}
    (hvalidate : d.validate = .ok ()) :
    ∃ u srcLen scratchLen, Unfolding.ofDescriptor d = .ok u ∧ d.srcLen = .ok srcLen ∧
      u.scratchLen = .ok scratchLen ∧ u.outH = d.outHeight ∧ u.outW = d.outWidth ∧
      ∀ s : Stage α, s.image < d.batch → srcLen ≤ s.src.size → scratchLen ≤ s.scratch.size →
        ∃ scratch : Array α, u.apply s = .ok { s with scratch } ∧
          scratch.size = s.scratch.size ∧
          (∀ y < d.outHeight, ∀ x < d.outWidth, ∀ c < d.inChannels, ∀ ky < d.kernelH,
            ∀ kx < d.kernelW, ∃ value,
              scratch[(y * d.outWidth + x) * (d.inChannels * d.kernelH * d.kernelW) +
                ((c * d.kernelH + ky) * d.kernelW + kx)]? = some value ∧
              (d.Inside (y * d.strideH + ky) (x * d.strideW + kx) →
                s.src[((s.image * d.inChannels + c) * d.inH + (y * d.strideH + ky - d.padH)) *
                  d.inW + (x * d.strideW + kx - d.padW)]? = some value) ∧
              (¬ d.Inside (y * d.strideH + ky) (x * d.strideW + kx) → value = Element.zero)) ∧
          ∀ i, scratchLen ≤ i → scratch[i]? = s.scratch[i]? := by
  have h := Descriptor.valid_of_validate hvalidate
  refine ⟨d.unfolding, _, _, h.unfolding_eq, h.srcLen_eq, h.scratchLen_unfolding, rfl, rfl, ?_⟩
  intro s himage hsrcLen hscratchLen
  have hsrc : s.image * d.srcImage + d.srcImage ≤ s.src.size :=
    Nat.le_trans (block_stop_le d.srcImage himage) hsrcLen
  have hlen := d.length_fields (d.imageOf s.src s.image)
  have hroom : 0 + (d.fields (d.imageOf s.src s.image)).length ≤ s.scratch.size := by omega
  refine ⟨_, apply_eq h himage hsrc hscratchLen, Cells.size_splice hroom, ?_, ?_⟩
  · intro y hy x hx c hc ky hky kx hkx
    refine ⟨_, ?_, fun hin => d.getElem?_source_of_inside hsrc hc hin, fun hout =>
      d.tap_of_outside hout⟩
    have hplace := d.tapPlace_lt hy hx hc hky hkx
    show (Cells.splice s.scratch 0 _)[d.tapPlace y x c ky kx]? = _
    rw [Cells.getElem?_splice hroom, if_pos (by omega), Nat.sub_zero]
    exact d.getElem?_fields _ hy hx hc hky hkx
  · intro i hi
    rw [Cells.getElem?_splice hroom, if_neg (by omega)]

/-- Two images of three by three pixels in a frame of one, under a kernel of two by two that moves
on by two. -/
def Descriptor.framed : Descriptor where
  batch := 2
  inChannels := 1
  inH := 3
  inW := 3
  outChannels := 1
  kernelH := 2
  kernelW := 2
  padH := 1
  padW := 1
  strideH := 2
  strideW := 2
  postOps := []

/-- The second image, with a scratch that holds leftovers and has one place too many. -/
def Stage.framed : Stage Float32 where
  image := 1
  src := #[0, 1, 2, 3, 4, 5, 6, 7, 8, 9, 10, 11, 12, 13, 14, 15, 16, 17]
  weights := #[]
  bias := #[]
  scratch := Array.replicate 17 5
  dst := #[]

/-- The first field of the second image: three taps in the frame, the last on the first pixel. -/
theorem Unfolding.apply_exact_framed :
    Descriptor.framed.validate = .ok () ∧
      ∃ u scratch, Unfolding.ofDescriptor Descriptor.framed = .ok u ∧
        u.apply Stage.framed = .ok { Stage.framed with scratch } ∧
        scratch[0]? = some Element.zero ∧ scratch[3]? = some 9 ∧ scratch[16]? = some 5 := by
  have hvalid : Descriptor.framed.Valid := by
    constructor <;> decide
  have hvalidate := hvalid.validate_eq
  obtain ⟨u, srcLen, scratchLen, hu, hsrcLen, hscratchLen, -, -, happly⟩ :=
    apply_exact Float32 hvalidate
  cases hvalid.unfolding_eq.symm.trans hu
  cases hvalid.srcLen_eq.symm.trans hsrcLen
  cases hvalid.scratchLen_unfolding.symm.trans hscratchLen
  obtain ⟨scratch, hscratch, -, hfields, hrest⟩ := happly Stage.framed (by decide) (by decide)
    (by decide)
  obtain ⟨corner, hcorner, -, hpadding⟩ := hfields 0 (by decide) 0 (by decide) 0 (by decide)
    0 (by decide) 0 (by decide)
  obtain ⟨pixel, hpixel, hinside, -⟩ := hfields 0 (by decide) 0 (by decide) 0 (by decide)
    1 (by decide) 1 (by decide)
  have hcorner_zero : corner = Element.zero := hpadding fun hin => absurd hin.1 (by decide)
  have hpixel_source : some (9 : Float32) = some pixel :=
    hinside ⟨by decide, by decide, by decide, by decide⟩
  exact ⟨hvalidate, _, scratch, hu, hscratch, hcorner.trans (congrArg some hcorner_zero),
    hpixel.trans hpixel_source.symm, hrest 16 (by decide)⟩

end ConvLab
