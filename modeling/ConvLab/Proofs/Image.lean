import ConvLab.Proofs.MatrixProduct

/-!
# One image

The planned operators carry one image through: its receptive fields into the scratch, the product
into the destination, the post-operations over it.  If the buffers hold the image, the destination
holds its complete result; if one of them is too short, an operator fails before anything is
written to the destination.

* `Descriptor.outputAt` — an output element, post-operations included;
* `Descriptor.Fits` — the buffers of a stage hold its image;
* `Descriptor.Valid.apply_unfolded_eq` — the unfolding and the product from the scratch;
* `Descriptor.Valid.run_eq_ok`, `Descriptor.Valid.run_eq_error` — what a run does to an image.
-/

namespace ConvLab

variable {α : Type} [Element α]

/-! ### Post-operations -/

/-- The post-operations, one after the other. -/
def PostOp.applyAll (ops : List PostOp) (x : α) : α := ops.foldl (fun x op => op.apply x) x

namespace Operator

theorem run_cons_ok {op : Operator} {ops : List Operator} {s s' : Stage α}
    (h : op.apply s = .ok s') : run (op :: ops) s = run ops s' := by
  rw [run, h]

theorem run_cons_error {op : Operator} {ops : List Operator} {s : Stage α}
    {failure : Failure PrimitiveError} (h : op.apply s = .error failure) :
    run (op :: ops) s = (s, .error failure) := by
  rw [run, h]

theorem apply_postOp_eq {op : PostOp} {count : Nat} {s : Stage α}
    (hword : s.image * count + count < Word.limit) (hfits : s.image * count + count ≤ s.dst.size) :
    (Operator.postOp op count).apply s = .ok { s with
      dst := Cells.splice s.dst (s.image * count)
        ((Cells.window s.dst (s.image * count) count).map op.apply) } := by
  rw [Operator.apply, applyPostOp, imageStart_eq_ok hword hfits, ok_bind]
  rfl

end Operator

namespace Descriptor

variable (d : Descriptor)

/-- An output element: the sum of its image, then the post-operations. -/
def outputAt (kernel : DotKernel) (image weights bias : Array α) (o y x : Nat) : α :=
  PostOp.applyAll d.postOps
    (if d.isPointwise then d.pixelSum image weights bias o y x
    else d.fieldSum kernel image weights bias o y x)

/-- The buffers of a stage hold its image. -/
structure Fits (s : Stage α) : Prop where
  weights : d.outChannels * d.patchSize ≤ s.weights.size
  bias : d.outChannels ≤ s.bias.size
  src : s.image * d.srcImage + d.srcImage ≤ s.src.size
  dst : s.image * d.dstImage + d.dstImage ≤ s.dst.size

omit [Element α] in
theorem map_planes (g : α → α) (f : Nat → Nat → Nat → α) :
    (d.planes f).map g = d.planes fun o y x => g (f o y x) := by
  simp only [planes, List.map_flatMap, List.map_map, Function.comp_def]

/-- The post-operations rewrite the image in place and never fail once it has been written. -/
theorem run_postOps (h : d.Valid) (ops : List PostOp) (s : Stage α) {f : Nat → Nat → Nat → α}
    (himage : s.image < d.batch) (hdst : s.image * d.dstImage + d.dstImage ≤ s.dst.size) :
    Operator.run (ops.map fun op => .postOp op d.dstImage)
        { s with dst := Cells.splice s.dst (s.image * d.dstImage) (d.planes f) } =
      ({ s with
          dst := Cells.splice s.dst (s.image * d.dstImage)
            (d.planes fun o y x => PostOp.applyAll ops (f o y x)) }, .ok ()) := by
  have hstop := block_stop_le d.dstImage himage
  have hword := h.destination_word
  induction ops generalizing f with
  | nil => rfl
  | cons op ops ih =>
      have hlen := d.length_planes f
      have hsize : (Cells.splice s.dst (s.image * d.dstImage) (d.planes f)).size = s.dst.size :=
        Cells.size_splice (by omega)
      have happly : (Operator.postOp op d.dstImage).apply
          { s with dst := Cells.splice s.dst (s.image * d.dstImage) (d.planes f) } = _ :=
        Operator.apply_postOp_eq (Nat.lt_of_le_of_lt hstop hword)
          (Nat.le_trans hdst (Nat.le_of_eq hsize.symm))
      rw [List.map_cons, Operator.run_cons_ok happly, Cells.window_splice hlen hdst, d.map_planes,
        Cells.splice_splice (by omega) (by rw [hlen, length_planes])]
      exact ih

/-- The rows that the unfolding left in the scratch are the receptive fields. -/
theorem window_fields (d : Descriptor) {scratch image : Array α}
    (hscratch : d.pixels * d.patchSize ≤ scratch.size) {pixel : Nat} (hpixel : pixel < d.pixels) :
    Cells.window (Cells.splice scratch 0 (d.fields image)) (pixel * d.patchSize) d.patchSize =
      d.receptiveField image (pixel / d.outWidth) (pixel % d.outWidth) := by
  have hlen := d.length_fields image
  have hstop := block_stop_le d.patchSize hpixel
  apply List.ext_getElem?
  intro i
  rw [Cells.getElem?_window]
  split
  · rename_i hi
    have hplace := index_lt hpixel hi
    rw [Cells.getElem?_splice (by omega), if_pos (by omega), Nat.sub_zero, fields,
      getElem?_blocks (fun _ _ => d.length_receptiveField image _ _) hpixel hi]
  · rw [List.getElem?_eq_none (by rw [length_receptiveField]; omega)]

namespace Valid

variable {d : Descriptor} {kernel : DotKernel} (h : d.Valid)

include h

/-- The unfolding and the product from the scratch, one after the other. -/
theorem apply_unfolded_eq {s : Stage α} (himage : s.image < d.batch) (hfits : d.Fits s)
    (hscratch : d.pixels * d.patchSize ≤ s.scratch.size) :
    ∃ scratch : Array α, scratch.size = s.scratch.size ∧
      d.unfolding.apply s = .ok { s with scratch } ∧
      (d.product kernel .scratch).apply { s with scratch } = .ok { s with
        scratch
        dst := Cells.splice s.dst (s.image * d.dstImage)
          (d.planes (d.fieldSum kernel (d.imageOf s.src s.image) s.weights s.bias)) } := by
  have hlen := d.length_fields (d.imageOf s.src s.image)
  have hsize : (Cells.splice s.scratch 0 (d.fields (d.imageOf s.src s.image))).size =
      s.scratch.size := Cells.size_splice (by omega)
  exact ⟨_, hsize, Unfolding.apply_eq h himage hfits.src hscratch,
    Gemm.apply_scratch_eq h himage hfits.weights hfits.bias hfits.dst
      (Nat.le_trans hscratch (Nat.le_of_eq hsize.symm))
      fun _ hpixel => d.window_fields hscratch hpixel⟩

/-- An image that the buffers hold is written as a whole, whatever scratch and destination held. -/
theorem run_eq_ok {s : Stage α} (himage : s.image < d.batch) (hfits : d.Fits s)
    (hscratch : d.scratchSize ≤ s.scratch.size) :
    ∃ scratch : Array α, scratch.size = s.scratch.size ∧
      Operator.run (d.operators kernel) s =
        ({ s with
            scratch
            dst := Cells.splice s.dst (s.image * d.dstImage)
              (d.planes (d.outputAt kernel (d.imageOf s.src s.image) s.weights s.bias)) },
          .ok ()) := by
  rw [operators, sumOperators]
  cases hp : d.isPointwise with
  | true =>
      refine ⟨s.scratch, rfl, ?_⟩
      have hgemm : (Operator.gemm (d.product kernel .source)).apply s = _ :=
        Gemm.apply_source_eq h hp himage hfits.weights hfits.bias hfits.dst hfits.src
      have houtput : d.outputAt kernel (d.imageOf s.src s.image) s.weights s.bias = fun o y x =>
          PostOp.applyAll d.postOps
            (d.pixelSum (d.imageOf s.src s.image) s.weights s.bias o y x) := by
        funext o y x
        rw [outputAt, if_pos hp]
      rw [if_pos rfl, List.singleton_append, Operator.run_cons_ok hgemm, houtput]
      exact d.run_postOps h d.postOps s himage hfits.dst
  | false =>
      obtain ⟨scratch, hsize, hunfold, hgemm⟩ := h.apply_unfolded_eq himage hfits
        (by simpa [scratchSize, hp] using hscratch)
      refine ⟨scratch, hsize, ?_⟩
      have houtput : d.outputAt kernel (d.imageOf s.src s.image) s.weights s.bias = fun o y x =>
          PostOp.applyAll d.postOps
            (d.fieldSum kernel (d.imageOf s.src s.image) s.weights s.bias o y x) := by
        funext o y x
        rw [outputAt, if_neg (Bool.not_eq_true _ ▸ hp)]
      have hunfold' : (Operator.unfold d.unfolding).apply s = _ := hunfold
      have hgemm' :
          (Operator.gemm (d.product kernel .scratch)).apply { s with scratch } = _ := hgemm
      rw [if_neg Bool.false_ne_true, List.cons_append, List.singleton_append,
        Operator.run_cons_ok hunfold', Operator.run_cons_ok hgemm', houtput]
      exact d.run_postOps h d.postOps { s with scratch } himage hfits.dst

/-- An image that the buffers do not hold is reported by an operator, and the destination is left
as it was. -/
theorem run_eq_error {s : Stage α} (himage : s.image < d.batch) (hfits : ¬ d.Fits s)
    (hscratch : d.scratchSize ≤ s.scratch.size) :
    ∃ scratch : Array α, scratch.size = s.scratch.size ∧ ∃ operator reason,
      Operator.run (d.operators kernel) s =
        ({ s with scratch }, .error (.error (.operatorFailed operator reason))) := by
  have hshort : s.weights.size < d.outChannels * d.patchSize ∨ s.bias.size < d.outChannels ∨
      s.dst.size < s.image * d.dstImage + d.dstImage ∨
      s.src.size < s.image * d.srcImage + d.srcImage := by
    apply Decidable.byContradiction
    intro hlong
    exact hfits ⟨by omega, by omega, by omega, by omega⟩
  rw [operators, sumOperators]
  cases hp : d.isPointwise with
  | true =>
      have hgemm : ∃ reason, (Operator.gemm (d.product kernel .source)).apply s = _ :=
        Gemm.apply_eq_error h himage
          (hshort.imp_right <| Or.imp_right <| Or.imp_right <|
            Gemm.columnsOf_source_eq_error h hp himage)
      obtain ⟨reason, hgemm⟩ := hgemm
      refine ⟨s.scratch, rfl, Gemm.name, reason, ?_⟩
      rw [if_pos rfl, List.singleton_append, Operator.run_cons_error hgemm]
  | false =>
      rw [if_neg Bool.false_ne_true, List.cons_append, List.singleton_append]
      by_cases hsrc : s.image * d.srcImage + d.srcImage ≤ s.src.size
      · have hneeded : d.pixels * d.patchSize ≤ s.scratch.size := by
          simpa [scratchSize, hp] using hscratch
        have hlen := d.length_fields (d.imageOf s.src s.image)
        have hsize : (Cells.splice s.scratch 0 (d.fields (d.imageOf s.src s.image))).size =
            s.scratch.size := Cells.size_splice (by omega)
        have hunfold : (Operator.unfold d.unfolding).apply s = _ :=
          Unfolding.apply_eq h himage hsrc hneeded
        have hgemm : ∃ reason, (Operator.gemm (d.product kernel .scratch)).apply
            { s with scratch := Cells.splice s.scratch 0 (d.fields (d.imageOf s.src s.image)) } =
              _ :=
          Gemm.apply_eq_error h himage
            (hshort.imp_right <| Or.imp_right <| Or.imp_right fun hshort =>
              absurd hsrc (Nat.not_le_of_lt hshort))
        obtain ⟨reason, hgemm⟩ := hgemm
        refine ⟨Cells.splice s.scratch 0 (d.fields (d.imageOf s.src s.image)), hsize, Gemm.name,
          reason, ?_⟩
        rw [Operator.run_cons_ok hunfold, Operator.run_cons_error hgemm]
      · have hunfold : ∃ reason, (Operator.unfold d.unfolding).apply s = _ :=
          Unfolding.apply_eq_error h himage (Nat.lt_of_not_le hsrc)
        obtain ⟨reason, hunfold⟩ := hunfold
        refine ⟨s.scratch, rfl, Unfolding.name, reason, ?_⟩
        rw [Operator.run_cons_error hunfold]

end Valid

end Descriptor

end ConvLab
