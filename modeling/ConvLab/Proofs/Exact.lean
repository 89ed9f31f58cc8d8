import ConvLab.Proofs.Direct
import ConvLab.Proofs.Image
import Mathlib.Algebra.BigOperators.Intervals
import Mathlib.Algebra.Order.Ring.Defs
import Mathlib.Tactic.Ring

/-!
# Exact arithmetic

Read over a commutative ring, the folds of both kernels are sums, and the order in which they add
up plays no part.

* `Element.Exact` — the operations of the elements are those of a ring;
* `Element.ofRing` — the elements of a linearly ordered ring;
* `productSum` — the sum of the products of two lists;
* `dot_eq_sum` — the dot product of every kernel;
* `Descriptor.fieldSum_eq_sum`, `Descriptor.pixelSum_eq_sum` — the sums of a primitive;
* `Direct.Geometry.sumAt_eq_sum` — the sums of the direct kernel.
-/

namespace ConvLab

open Finset

namespace Element

/-- The operations of the elements are those of a ring. -/
class Exact (R : Type) [CommRing R] [Element R] : Prop where
  zero_eq : (zero : R) = 0
  add_eq (x y : R) : add x y = x + y
  mul_eq (x y : R) : mul x y = x * y
  mulAdd_eq (x y z : R) : mulAdd x y z = x * y + z

attribute [simp] Exact.zero_eq Exact.add_eq Exact.mul_eq Exact.mulAdd_eq

/-- The elements of a linearly ordered ring, with its own operations. -/
instance (priority := low) ofRing {R : Type} [CommRing R] [LinearOrder R] : Element R where
  zero := 0
  add x y := x + y
  mul x y := x * y
  mulAdd x y z := x * y + z
  max x y := Max.max x y

instance {R : Type} [CommRing R] [LinearOrder R] : Exact R where
  zero_eq := rfl
  add_eq _ _ := rfl
  mul_eq _ _ := rfl
  mulAdd_eq _ _ _ := rfl

theorem relu_eq {R : Type} [CommRing R] [LinearOrder R] (x : R) : relu x = Max.max 0 x :=
  max_comm x 0

end Element

variable {R : Type} [CommRing R] [Element R] [Element.Exact R]

/-! ### Folds as sums -/

omit [Element R] [Element.Exact R] in
theorem foldl_add (n : ℕ) (f : ℕ → R) (s : R) :
    (List.range n).foldl (fun sum i => sum + f i) s = s + ∑ i ∈ range n, f i := by
  induction n with
  | zero => simp
  | succ n ih =>
      rw [List.range_succ, List.foldl_append, ih, sum_range_succ]
      exact add_assoc s _ _

theorem foldl_mulAdd (n : ℕ) (a b : ℕ → R) (s : R) :
    (List.range n).foldl (fun sum i => Element.mulAdd (a i) (b i) sum) s =
      s + ∑ i ∈ range n, a i * b i := by
  rw [← foldl_add]
  simp only [Element.Exact.mulAdd_eq, add_comm]

omit [Element R] [Element.Exact R] in
/-- A sum over a flat range, block by block. -/
theorem sum_range_blocks (n m : ℕ) (f : ℕ → R) :
    ∑ i ∈ range (n * m), f i = ∑ i ∈ range n, ∑ j ∈ range m, f (i * m + j) := by
  induction n with
  | zero => simp
  | succ n ih => rw [Nat.succ_mul, sum_range_add, ih, sum_range_succ]

omit [Element R] [Element.Exact R] in
/-- Sums over channels and taps, term by term. -/
theorem sum_taps_congr {n m l : ℕ} {f g : ℕ → ℕ → ℕ → R}
    (h : ∀ i < n, ∀ j < m, ∀ k < l, f i j k = g i j k) :
    ∑ i ∈ range n, ∑ j ∈ range m, ∑ k ∈ range l, f i j k =
      ∑ i ∈ range n, ∑ j ∈ range m, ∑ k ∈ range l, g i j k := by
  apply sum_congr rfl
  intro i hi
  apply sum_congr rfl
  intro j hj
  apply sum_congr rfl
  intro k hk
  exact h i (mem_range.mp hi) j (mem_range.mp hj) k (mem_range.mp hk)

omit [Element R] [Element.Exact R] in
/-- Sums over channels and taps, the channels innermost. -/
theorem sum_taps_comm (n m l : ℕ) (f : ℕ → ℕ → ℕ → R) :
    ∑ i ∈ range n, ∑ j ∈ range m, ∑ k ∈ range l, f i j k =
      ∑ j ∈ range m, ∑ k ∈ range l, ∑ i ∈ range n, f i j k := by
  rw [sum_comm]
  apply sum_congr rfl
  intro j _
  exact sum_comm

/-! ### Dot products as sums -/

omit [Element R] [Element.Exact R] in
/-- The sum of the products over the common length. -/
def productSum (as bs : List R) : R :=
  ∑ i ∈ range (min as.length bs.length), as.getD i 0 * bs.getD i 0

omit [Element R] [Element.Exact R] in
theorem productSum_cons (a b : R) (as bs : List R) :
    productSum (a :: as) (b :: bs) = a * b + productSum as bs := by
  rw [productSum, List.length_cons, List.length_cons, Nat.succ_min_succ, sum_range_succ', add_comm]
  rfl

omit [Element R] [Element.Exact R] in
/-- The products of a front of both lists, then those behind it. -/
theorem productSum_split (n : ℕ) (as bs : List R) :
    productSum as bs =
      productSum (as.take n) (bs.take n) + productSum (as.drop n) (bs.drop n) := by
  induction n generalizing as bs with
  | zero => simp [productSum]
  | succ n ih =>
      match as, bs with
      | [], _ => simp [productSum]
      | _ :: _, [] => simp [productSum]
      | a :: as, b :: bs =>
          rw [List.take_succ_cons, List.take_succ_cons, List.drop_succ_cons, List.drop_succ_cons,
            productSum_cons, productSum_cons, ih as bs, add_assoc]

theorem addProducts_eq (s : R) (as bs : List R) : addProducts s as bs = s + productSum as bs := by
  induction as generalizing bs s with
  | nil => simp [addProducts, productSum]
  | cons a as ih =>
      cases bs with
      | nil => simp [addProducts, productSum]
      | cons b bs =>
          have hnext : addProducts s (a :: as) (b :: bs) = addProducts (a * b + s) as bs := by
            rw [← Element.Exact.mulAdd_eq]
            rfl
          rw [hnext, ih, productSum_cons]
          ring

theorem Lanes.dot_eq_sum (s : Lanes R) (as bs : List R) :
    s.dot as bs = s.total + productSum as bs := by
  induction s, as, bs using Lanes.dot.induct with
  | case1 s a₀ a₁ a₂ a₃ as b₀ b₁ b₂ b₃ bs ih =>
      rw [Lanes.dot, ih]
      simp only [productSum_cons, Lanes.total, Element.Exact.add_eq, Element.Exact.mulAdd_eq]
      ring
  | case2 s as bs hshort =>
      rw [Lanes.dot, addProducts_eq]
      exact hshort

namespace Register

theorem total_eq_sum (lanes : List R) : total lanes = lanes.sum := by
  have hfold : ∀ (xs : List R) (s : R), xs.foldl Element.add s = s + xs.sum := by
    intro xs s
    induction xs generalizing s with
    | nil => simp
    | cons x xs ih => rw [List.foldl_cons, ih, Element.Exact.add_eq, List.sum_cons, add_assoc]
  cases lanes with
  | nil => simp [total]
  | cons lane lanes => rw [total, hfold, List.sum_cons]

theorem length_step {lanes as bs : List R} (ha : as.length = lanes.length)
    (hb : bs.length = lanes.length) : (step lanes as bs).length = lanes.length := by
  simp [step, ha, hb]

/-- A step over as many elements as there are lanes adds all their products. -/
theorem sum_step {lanes as bs : List R} (ha : as.length = lanes.length)
    (hb : bs.length = lanes.length) :
    (step lanes as bs).sum = lanes.sum + productSum as bs := by
  induction lanes generalizing as bs with
  | nil => simp_all [step, productSum]
  | cons lane lanes ih =>
      obtain ⟨a, as, rfl⟩ := List.exists_cons_of_length_eq_add_one ha
      obtain ⟨b, bs, rfl⟩ := List.exists_cons_of_length_eq_add_one hb
      have hstep : step (lane :: lanes) (a :: as) (b :: bs) =
          Element.mulAdd a b lane :: step lanes as bs := rfl
      rw [hstep, List.sum_cons, List.sum_cons, ih (Nat.succ.inj ha) (Nat.succ.inj hb),
        productSum_cons, Element.Exact.mulAdd_eq]
      ring

/-- The invariant of the steps: the lanes together with the products to come. -/
theorem dot_eq_sum {width steps : ℕ} {lanes as bs : List R} (hlanes : lanes.length = width)
    (ha : steps * width ≤ as.length) (hb : steps * width ≤ bs.length) :
    dot width steps lanes as bs = lanes.sum + productSum as bs := by
  induction steps generalizing lanes as bs with
  | zero => rw [dot, addProducts_eq, total_eq_sum]
  | succ steps ih =>
      rw [Nat.succ_mul] at ha hb
      have ha' : (as.take width).length = lanes.length := by
        rw [List.length_take, hlanes]
        omega
      have hb' : (bs.take width).length = lanes.length := by
        rw [List.length_take, hlanes]
        omega
      rw [dot, ih ((length_step ha' hb').trans hlanes) (by rw [List.length_drop]; omega)
        (by rw [List.length_drop]; omega), sum_step ha' hb', add_assoc, ← productSum_split]

end Register

theorem wideDot_eq_sum (width : ℕ) (as bs : List R) : wideDot width as bs = productSum as bs := by
  have hsteps := Nat.div_mul_le_self (min as.length bs.length) width
  rw [wideDot, Register.dot_eq_sum List.length_replicate (by omega) (by omega)]
  simp

/-- The dot product of every kernel, whatever the order of its partial sums. -/
theorem dot_eq_sum (kernel : DotKernel) (as bs : List R) :
    dot kernel as bs = productSum as bs := by
  cases kernel with
  | scalar =>
      rw [dot, Lanes.dot_eq_sum]
      simp [Lanes.total, Lanes.zero]
  | avx2Fma => exact wideDot_eq_sum 8 as bs
  | avx512Fma => exact wideDot_eq_sum 16 as bs

/-! ### The sums of the kernels -/

namespace Descriptor

/-- No padding and unit strides. -/
structure Plain (d : Descriptor) : Prop where
  padH_eq : d.padH = 0
  padW_eq : d.padW = 0
  strideH_eq : d.strideH = 1
  strideW_eq : d.strideW = 1

omit [Element R] [Element.Exact R] in
/-- The sum behind an output element of a plain convolution: tap by tap, the source element times
the weight. -/
def exactSum (d : Descriptor) (image weights bias : Array R) (o y x : ℕ) : R :=
  bias.getD o 0 + ∑ c ∈ range d.inChannels, ∑ ky ∈ range d.kernelH, ∑ kx ∈ range d.kernelW,
    image.getD ((c * d.inH + (y + ky)) * d.inW + (x + kx)) 0 *
      weights.getD (((o * d.inChannels + c) * d.kernelH + ky) * d.kernelW + kx) 0

variable {d : Descriptor} {kernel : DotKernel} {image weights bias : Array R} {o y x : ℕ}

/-- Without padding every tap lies on the image. -/
theorem Plain.tap_eq (hplain : d.Plain) (h : d.Valid) (hy : y < d.outHeight) (hx : x < d.outWidth)
    {c ky kx : ℕ} (hky : ky < d.kernelH) (hkx : kx < d.kernelW) :
    d.tap image c (y * d.strideH + ky) (x * d.strideW + kx) =
      image.getD ((c * d.inH + (y + ky)) * d.inW + (x + kx)) 0 := by
  have hrow := position_lt h.kernelH_fits hy hky
  have hcolumn := position_lt h.kernelW_fits hx hkx
  simp only [hplain.padH_eq, hplain.padW_eq, hplain.strideH_eq, hplain.strideW_eq, Nat.mul_one]
    at hrow hcolumn ⊢
  rw [tap, hplain.padH_eq, hplain.padW_eq, if_pos (by omega), Nat.sub_zero, Nat.sub_zero,
    Element.Exact.zero_eq]

theorem fieldSum_eq_sum (hplain : d.Plain) (h : d.Valid) (ho : o < d.outChannels)
    (hweights : d.outChannels * d.patchSize ≤ weights.size) (hy : y < d.outHeight)
    (hx : x < d.outWidth) :
    d.fieldSum kernel image weights bias o y x = d.exactSum image weights bias o y x := by
  have hstop := block_stop_le d.patchSize ho
  rw [fieldSum, Element.Exact.add_eq, dot_eq_sum, productSum, Cells.length_window (by omega),
    length_receptiveField, Nat.min_self, patchSize, sum_range_blocks, sum_range_blocks, exactSum,
    Element.Exact.zero_eq]
  refine congrArg (bias.getD o 0 + ·) ?_
  apply sum_taps_congr
  intro c hc ky hky kx hkx
  have hplace : ((o * d.inChannels + c) * d.kernelH + ky) * d.kernelW + kx =
      o * (d.inChannels * d.kernelH * d.kernelW) + ((c * d.kernelH + ky) * d.kernelW + kx) := by
    ring
  rw [Cells.window_getD (index_lt (index_lt hc hky) hkx), ← hplace,
    List.getD_eq_getElem?_getD, d.getElem?_receptiveField image y x hc hky hkx,
    Option.getD_some, hplain.tap_eq h hy hx hky hkx, mul_comm]

theorem pixelSum_eq_sum (hp : d.isPointwise = true) (h : d.Valid) (ho : o < d.outChannels)
    (hweights : d.outChannels * d.patchSize ≤ weights.size) :
    d.pixelSum image weights bias o y x = d.exactSum image weights bias o y x := by
  obtain ⟨hkh, hkw, -⟩ := isPointwise_iff.mp hp
  rw [pixelSum_eq_foldl (h.pointwise_extents hp).1 ho hweights, foldl_mulAdd, exactSum, hkh, hkw,
    Element.Exact.zero_eq]
  refine congrArg (bias.getD o 0 + ·) ?_
  apply sum_congr rfl
  intro c _
  rw [sum_range_one, sum_range_one, mul_comm]
  simp only [Nat.mul_one, Nat.add_zero]

/-- An output element of a plain convolution. -/
theorem outputAt_eq_sum (hplain : d.Plain) (h : d.Valid) (ho : o < d.outChannels)
    (hweights : d.outChannels * d.patchSize ≤ weights.size) (hy : y < d.outHeight)
    (hx : x < d.outWidth) :
    d.outputAt kernel image weights bias o y x =
      PostOp.applyAll d.postOps (d.exactSum image weights bias o y x) := by
  rw [outputAt]
  split
  · rename_i hp
    rw [pixelSum_eq_sum hp h ho hweights]
  · rw [fieldSum_eq_sum hplain h ho hweights hy hx]

end Descriptor

namespace Direct.Geometry

theorem sumAt_eq_sum (g : Geometry) (image weights bias : Array R) (y x o : ℕ) :
    g.sumAt image weights bias y x o = bias.getD o 0 +
      ∑ ky ∈ range g.kernel, ∑ kx ∈ range g.kernel, ∑ c ∈ range g.inChannels,
        weights.getD (((ky * g.kernel + kx) * g.inChannels + c) * g.outChannels + o) 0 *
          image.getD (((y + ky) * g.inW + (x + kx)) * g.inChannels + c) 0 := by
  rw [sumAt, pairs_eq, List.foldl_map]
  simp only [tapSum, foldl_mulAdd, foldl_add, sum_range_blocks, Element.Exact.zero_eq]
  refine congrArg (bias.getD o 0 + ·) ?_
  apply sum_congr rfl
  intro ky _
  apply sum_congr rfl
  intro kx hkx
  rw [index_div (mem_range.mp hkx), index_mod (mem_range.mp hkx)]

end Direct.Geometry

end ConvLab
