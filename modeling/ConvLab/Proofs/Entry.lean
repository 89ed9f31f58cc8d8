import ConvLab.Proofs.Building
import ConvLab.Proofs.Label

/-!
# Shapes and their entries

An entry stands for at most one shape, and gives it back exactly.  The other way round a parameter
beyond the signed words is cut off.  The buffers of a problem keep all parameters but one small
enough: the stride takes part in no buffer length, so nothing bounds it.

* `Entry.Denotes`, `Entry.toShape_eq_ok_iff` — the shape of an entry, parameter by parameter;
* `Entry.Denotes.ofShape_eq`, `Entry.Denotes.label_eq` — an entry is recovered from its shape;
* `Shape.saturated`, `Entry.toShape_ofShape` — a shape after the passage through its entry;
* `Problem.saturated_of_build` — what the passage changes of a shape that can be built;
* `Entry.passage_ends` — both directions together.
-/

namespace ConvLab

namespace Entry

/-! ### The shape of an entry -/

/-- The entry has the parameters of the shape. -/
structure Denotes (e : Entry) (s : Shape) : Prop where
  batch : e.batch.toInt = s.batch
  inDim : e.inDim.toInt = s.inDim
  inChannels : e.inChannels.toInt = s.inChannels
  outChannels : e.outChannels.toInt = s.outChannels
  kernelSize : e.kernelSize.toInt = s.kernelSize
  padding : e.padding.toInt = s.padding
  stride : e.stride.toInt = s.stride

theorem neg_iff {value : Int64} : value < 0 ↔ value.toInt < 0 := by
  rw [Int64.lt_iff_toInt_lt, Int64.toInt_zero]

theorem extent_eq_ok_iff {parameter : String} {value : Int64} {n : Nat} :
    extent parameter value = .ok n ↔ value.toInt = n := by
  rw [extent]
  by_cases h : value < 0
  · have hneg := neg_iff.mp h
    simp only [h, if_true, reduceCtorEq, false_iff]
    omega
  · have hneg := mt neg_iff.mpr h
    simp only [h, if_false, Except.ok.injEq]
    omega

/-- An entry gives a shape just if it has the parameters of the shape. -/
theorem toShape_eq_ok_iff {e : Entry} {s : Shape} : e.toShape = .ok s ↔ e.Denotes s := by
  by_cases hpadding : e.padding < 0
  · have hneg := neg_iff.mp hpadding
    have hthrow : e.toShape = .error (.outOfRange "padding" e.padding.toInt) := by
      simp [toShape, hpadding]
    rw [hthrow]
    constructor
    · intro hs
      cases hs
    · intro h
      have hnonneg := h.padding
      omega
  · have hnonneg := mt neg_iff.mpr hpadding
    simp only [toShape, hpadding, if_false, bind_eq_ok_iff, extent_eq_ok_iff]
    constructor
    · rintro ⟨batch, hbatch, inDim, hinDim, inChannels, hinChannels, outChannels, houtChannels,
        kernelSize, hkernelSize, stride, hstride, hs⟩
      cases hs
      refine ⟨hbatch, hinDim, hinChannels, houtChannels, hkernelSize, ?_, hstride⟩
      show e.padding.toInt = (e.padding.toInt.toNat : Int)
      omega
    · intro h
      refine ⟨_, h.batch, _, h.inDim, _, h.inChannels, _, h.outChannels, _, h.kernelSize, _,
        h.stride, ?_⟩
      have hs : e.padding.toInt.toNat = s.padding := by
        rw [h.padding]
        rfl
      rw [hs]
      rfl

/-! ### The entry of a shape -/

theorem toInt_saturate (n : Nat) : (saturate n).toInt = (min n maxSigned : Nat) :=
  Int64.toInt_ofNat_of_lt (Nat.lt_of_le_of_lt (Nat.min_le_right n maxSigned) (by decide))

theorem saturate_eq {value : Int64} {n : Nat} (h : value.toInt = n) : saturate n = value := by
  have hbound := Int64.toInt_lt value
  have hmin : min n maxSigned = n := by
    apply Nat.min_eq_left
    show n ≤ 0x7fffffffffffffff
    omega
  rw [← Int64.toInt_inj, toInt_saturate, hmin, h]

variable {e : Entry} {s : Shape}

/-- Nothing of an entry is lost in its shape. -/
theorem Denotes.ofShape_eq (h : e.Denotes s) : ofShape s = e := by
  cases e
  simp only [ofShape, saturate_eq h.batch, saturate_eq h.inDim, saturate_eq h.inChannels,
    saturate_eq h.outChannels, saturate_eq h.kernelSize, saturate_eq h.padding,
    saturate_eq h.stride]

theorem toString_natCast (n : Nat) : toString (n : Int) = toString n := rfl

/-- An entry and its shape have one label. -/
theorem Denotes.label_eq (h : e.Denotes s) : e.label = s.label := by
  delta label Shape.label
  simp only [h.batch, h.inDim, h.inChannels, h.outChannels, h.kernelSize, h.padding, h.stride,
    toString_natCast, String.append_assoc]

end Entry

namespace Shape

/-- The shape with every parameter cut off at the largest signed word. -/
def saturated (s : Shape) : Shape where
  batch := min s.batch Entry.maxSigned
  inDim := min s.inDim Entry.maxSigned
  inChannels := min s.inChannels Entry.maxSigned
  outChannels := min s.outChannels Entry.maxSigned
  kernelSize := min s.kernelSize Entry.maxSigned
  padding := min s.padding Entry.maxSigned
  stride := min s.stride Entry.maxSigned

end Shape

namespace Entry

theorem denotes_ofShape (s : Shape) : (ofShape s).Denotes s.saturated where
  batch := toInt_saturate s.batch
  inDim := toInt_saturate s.inDim
  inChannels := toInt_saturate s.inChannels
  outChannels := toInt_saturate s.outChannels
  kernelSize := toInt_saturate s.kernelSize
  padding := toInt_saturate s.padding
  stride := toInt_saturate s.stride

/-- The passage through an entry cuts every parameter off, and changes nothing else. -/
theorem toShape_ofShape (s : Shape) : (ofShape s).toShape = .ok s.saturated :=
  toShape_eq_ok_iff.mpr (denotes_ofShape s)

end Entry

/-! ### Shapes that can be built -/

namespace Shape

variable {s : Shape}

/-- Each parameter but the stride is bounded by a buffer or by the padded input. -/
theorem Roomy.saturated_eq (hroom : s.Roomy) (h : s.Valid) :
    s.saturated = { s with stride := min s.stride Entry.maxSigned } := by
  have hsrc : s.batch * s.inChannels * s.inDim * s.inDim < Buffer.capacity := hroom.src_room
  have hweights : s.outChannels * s.inChannels * s.kernelSize * s.kernelSize < Buffer.capacity :=
    hroom.weights_room
  have hpadded := h.padded_word
  have himages : s.batch * s.inChannels ≤ s.batch * s.inChannels * s.inDim * s.inDim := by
    rw [Nat.mul_assoc]
    exact Nat.le_mul_of_pos_right _ (Nat.mul_pos h.inDim_pos h.inDim_pos)
  have hmaps : s.outChannels * s.inChannels ≤
      s.outChannels * s.inChannels * s.kernelSize * s.kernelSize := by
    rw [Nat.mul_assoc]
    exact Nat.le_mul_of_pos_right _ (Nat.mul_pos h.kernelSize_pos h.kernelSize_pos)
  have hbatch : s.batch ≤ s.batch * s.inChannels := Nat.le_mul_of_pos_right _ h.inChannels_pos
  have hinChannels : s.inChannels ≤ s.batch * s.inChannels :=
    Nat.le_mul_of_pos_left _ h.batch_pos
  have houtChannels : s.outChannels ≤ s.outChannels * s.inChannels :=
    Nat.le_mul_of_pos_right _ h.inChannels_pos
  have hinDim : s.inDim ≤ s.batch * s.inChannels * s.inDim * s.inDim :=
    Nat.le_mul_of_pos_left _
      (Nat.mul_pos (Nat.mul_pos h.batch_pos h.inChannels_pos) h.inDim_pos)
  have hkernel : s.kernelSize ≤ s.outChannels * s.inChannels * s.kernelSize * s.kernelSize :=
    Nat.le_mul_of_pos_left _
      (Nat.mul_pos (Nat.mul_pos h.outChannels_pos h.inChannels_pos) h.kernelSize_pos)
  simp only [Buffer.capacity, Word.limit] at hsrc hweights hpadded
  have hcut : ∀ {n : Nat}, n ≤ 0x7fffffffffffffff → min n Entry.maxSigned = n := fun hn =>
    Nat.min_eq_left hn
  simp only [saturated, hcut (show s.batch ≤ _ by omega), hcut (show s.inDim ≤ _ by omega),
    hcut (show s.inChannels ≤ _ by omega), hcut (show s.outChannels ≤ _ by omega),
    hcut (show s.kernelSize ≤ _ by omega), hcut (show s.padding ≤ _ by omega)]

theorem label_withStride_inj {a b : Nat} :
    { s with stride := a }.label = { s with stride := b }.label ↔ a = b := by
  rw [label_inj]
  constructor
  · intro h
    exact congrArg stride h
  · intro h
    rw [h]

end Shape

theorem Problem.saturated_of_build {s : Shape} {options : Options} {p : Problem Float32}
    (hp : build s options = .ok p) :
    s.saturated = { s with stride := min s.stride Entry.maxSigned } := by
  obtain ⟨hshape, hroom, -⟩ := build_eq_ok_iff.mp hp
  exact hroom.saturated_eq hshape.toValid

/-- The passage between shapes and entries.  A shape that can be built comes back from its entry
with its stride cut off at the largest signed word; it comes back unchanged, and under its own
label, just if the stride is a signed word.  An entry that gives the shape comes back from it
unchanged, and under its own label. -/
theorem Entry.passage_ends (s : Shape) :
    (∀ (options : Options) (p : Problem Float32), Problem.build s options = .ok p →
      (ofShape s).toShape = .ok { s with stride := min s.stride maxSigned } ∧
        ((ofShape s).toShape = .ok s ↔ s.stride ≤ maxSigned) ∧
        ((ofShape s).label = s.label ↔ s.stride ≤ maxSigned)) ∧
      ∀ e : Entry, e.toShape = .ok s → ofShape s = e ∧ e.label = s.label := by
  constructor
  · intro options p hp
    have hsaturated := Problem.saturated_of_build hp
    have hstride : min s.stride maxSigned = s.stride ↔ s.stride ≤ maxSigned := by
      omega
    have hlabel : (ofShape s).label = s.saturated.label := (denotes_ofShape s).label_eq
    rw [toShape_ofShape, hlabel, hsaturated, ← hstride]
    refine ⟨rfl, ?_, Shape.label_withStride_inj⟩
    constructor
    · intro hback
      exact congrArg Shape.stride (Except.ok.inj hback)
    · intro hmin
      rw [hmin]
  · intro e hs
    have h := toShape_eq_ok_iff.mp hs
    exact ⟨h.ofShape_eq, h.label_eq⟩

/-- A single pixel with a stride that no signed word holds. -/
def Shape.leaping : Shape where
  batch := 1
  inDim := 1
  inChannels := 1
  outChannels := 1
  kernelSize := 1
  padding := 0
  stride := 0x8000000000000000

theorem Problem.build_leaping :
    Problem.build Shape.leaping {} = .ok (Problem.filled Shape.leaping {}) := by
  have hshape : Shape.leaping.Buildable :=
    ⟨by constructor <;> decide, by decide, by decide, by decide⟩
  exact build_eq_ok_iff.mpr ⟨hshape, ⟨by decide, by decide, by decide⟩, rfl⟩

theorem Entry.passage_ends_leaping :
    (ofShape Shape.leaping).toShape = .ok { Shape.leaping with stride := maxSigned } ∧
      ofShape ⟨1, 2, 1, 1, 1, 0, 0x7fffffffffffffff⟩ = ⟨1, 2, 1, 1, 1, 0, 0x7fffffffffffffff⟩ :=
  ⟨((passage_ends _).1 _ _ Problem.build_leaping).1, ((passage_ends _).2 _ rfl).1⟩

/-- The leaping pixel is built with four buffers of one element each, yet it does not come back from
its entry, and the entry has another label. -/
theorem Entry.ofShape_leaping :
    (∃ p, Problem.build Shape.leaping {} = .ok p) ∧
      (ofShape Shape.leaping).toShape ≠ .ok Shape.leaping ∧
      (ofShape Shape.leaping).label ≠ Shape.leaping.label := by
  have hsaturated : Shape.leaping.saturated = { Shape.leaping with stride := maxSigned } := rfl
  refine ⟨⟨_, Problem.build_leaping⟩, ?_, ?_⟩
  · rw [toShape_ofShape, hsaturated]
    intro hback
    exact absurd (congrArg Shape.stride (Except.ok.inj hback)) (by decide)
  · rw [(denotes_ofShape Shape.leaping).label_eq, hsaturated]
    exact mt (Shape.label_withStride_inj (s := Shape.leaping)).mp (by decide)

end ConvLab
