import ConvLab.Proofs.Exact
import Mathlib.Algebra.BigOperators.Fin

/-!
# The dot product, piece by piece

`dot` takes the elements it has, so it cannot run past an end.  Carried out on arrays it is a
passage that can trap.  The scalar kernel cuts both operands to their common length, reads the whole
pieces of four place by place into the four partial sums, and lets the rest follow pair by pair.
The kernels with registers load from the operands as they are, at the places below the common
length.  No passage traps, whatever the two lengths, and each ends with the value of its kernel.

* `checkedDot` — the scalar passage, with every cut and every read checked;
* `Lanes.advance_dot`, `Lanes.advanceAll_dot` — what one piece, and a run of pieces, leave to do;
* `pairedDot_eq`, `checkedDot_eq` — the scalar passage gives the value of `dot`;
* `dot_exact` — over a commutative ring that value is the sum of the products;
* `checkedWideDot`, `checkedWideDot_eq` — the passage through registers and its value.
-/

namespace ConvLab

open Finset

variable {α : Type}

/-! ### Cuts -/

namespace Cells

/-- The elements before `stop`, all of which have to exist. -/
def cut (xs : Array α) (stop : Nat) : Checked (Array α) :=
  if stop ≤ xs.size then .ok (xs.extract 0 stop) else .error (.outOfBounds stop xs.size)

/-- The elements behind the whole pieces of `count` elements each. -/
def leftover (xs : Array α) (count : Nat) : List α :=
  window xs (xs.size / count * count) (xs.size % count)

theorem cut_eq {xs : Array α} {stop : Nat} (h : stop ≤ xs.size) :
    cut xs stop = .ok (xs.toList.take stop).toArray := by
  have htake : (xs.extract 0 stop).toList = xs.toList.take stop := by
    rw [Array.toList_extract, List.extract_eq_take_drop, List.drop_zero, Nat.sub_zero]
  rw [cut, if_pos h, ← htake]

theorem leftover_eq_drop (xs : Array α) (count : Nat) :
    leftover xs count = xs.toList.drop (xs.size / count * count) := by
  have hsplit := Nat.div_add_mod' xs.size count
  rw [leftover, window_eq_take_drop, List.take_of_length_le]
  rw [List.length_drop, Array.length_toList]
  omega

end Cells

/-! ### The passage -/

variable [Element α]

namespace Lanes

/-- Takes in one piece of each operand: every partial sum gets the product at its own place. -/
def advance (s : Lanes α) (a b : Array α) : Checked (Lanes α) := do
  return {
    first := Element.mulAdd (← Cells.read a 0) (← Cells.read b 0) s.first
    second := Element.mulAdd (← Cells.read a 1) (← Cells.read b 1) s.second
    third := Element.mulAdd (← Cells.read a 2) (← Cells.read b 2) s.third
    fourth := Element.mulAdd (← Cells.read a 3) (← Cells.read b 3) s.fourth }

/-- Takes in one pair of pieces after the other. -/
def advanceAll (s : Lanes α) (pieces : List (List α × List α)) : Checked (Lanes α) :=
  pieces.foldlM (fun s piece => s.advance piece.1.toArray piece.2.toArray) s

end Lanes

/-- The dot product of two arrays of one size: the whole pieces of four, then the leftover. -/
def pairedDot (a b : Array α) : Checked α := do
  let aPieces ← Cells.chunks a 4
  let bPieces ← Cells.chunks b 4
  let sums ← Lanes.zero.advanceAll (aPieces.zip bPieces)
  return addProducts sums.total (Cells.leftover a 4) (Cells.leftover b 4)

/-- The dot product over the common length of two arrays, with every cut and every read checked. -/
def checkedDot (a b : Array α) : Checked α := do
  let stop := min a.size b.size
  pairedDot (← Cells.cut a stop) (← Cells.cut b stop)

/-! ### What the passage leaves to do -/

omit [Element α] in
theorem exists_four {as : List α} (h : 4 ≤ as.length) :
    ∃ a₀ a₁ a₂ a₃ rest, as = a₀ :: a₁ :: a₂ :: a₃ :: rest := by
  match as, h with
  | a₀ :: a₁ :: a₂ :: a₃ :: rest, _ => exact ⟨a₀, a₁, a₂, a₃, rest, rfl⟩

namespace Lanes

/-- Where an operand has fewer than four elements left, the rest is added pair by pair. -/
theorem dot_of_short (s : Lanes α) {as bs : List α} (h : min as.length bs.length < 4) :
    s.dot as bs = addProducts s.total as bs := by
  rw [Lanes.dot]
  · rintro a₀ a₁ a₂ a₃ as b₀ b₁ b₂ b₃ bs rfl rfl
    simp only [List.length_cons] at h
    omega

/-- Elements without a partner play no part. -/
theorem dot_take (s : Lanes α) (as bs : List α) :
    s.dot (as.take (min as.length bs.length)) (bs.take (min as.length bs.length)) =
      s.dot as bs := by
  induction s, as, bs using Lanes.dot.induct with
  | case1 s a₀ a₁ a₂ a₃ as b₀ b₁ b₂ b₃ bs ih =>
      simpa only [List.length_cons, Nat.succ_min_succ, List.take_succ_cons, Lanes.dot] using ih
  | case2 s as bs hshort =>
      have hmin : min as.length bs.length < 4 := by
        by_contra hfour
        obtain ⟨a₀, a₁, a₂, a₃, as, rfl⟩ := exists_four (show 4 ≤ as.length by omega)
        obtain ⟨b₀, b₁, b₂, b₃, bs, rfl⟩ := exists_four (show 4 ≤ bs.length by omega)
        exact hshort _ _ _ _ _ _ _ _ _ _ rfl rfl
      rw [s.dot_of_short hmin, addProducts, List.zip_eq_zip_take_min, dot_of_short]
      · rfl
      rw [List.length_take, List.length_take]
      omega

/-- A piece taken in is a piece less to go. -/
theorem advance_dot (s : Lanes α) {as bs : List α} (ha : 4 ≤ as.length) (hb : 4 ≤ bs.length) :
    ∃ s', s.advance (as.take 4).toArray (bs.take 4).toArray = .ok s' ∧
      s'.dot (as.drop 4) (bs.drop 4) = s.dot as bs := by
  obtain ⟨a₀, a₁, a₂, a₃, as, rfl⟩ := exists_four ha
  obtain ⟨b₀, b₁, b₂, b₃, bs, rfl⟩ := exists_four hb
  exact ⟨_, rfl, rfl⟩

theorem advanceAll_append {s mid : Lanes α} {pieces : List (List α × List α)}
    (h : s.advanceAll pieces = .ok mid) (a b : List α) :
    s.advanceAll (pieces ++ [(a, b)]) = mid.advance a.toArray b.toArray := by
  rw [advanceAll] at h ⊢
  rw [List.foldlM_append, h, ok_bind, List.foldlM_cons]
  exact bind_pure _

/-- A run over `n` whole pieces does not trap.  The invariant: the dot product of what lies behind
the pieces, on top of the partial sums reached, stays the dot product of the whole. -/
theorem advanceAll_dot (s : Lanes α) {a b : Array α} {n : Nat} (ha : n * 4 ≤ a.size)
    (hb : n * 4 ≤ b.size) :
    ∃ s', s.advanceAll ((List.range n).map fun i =>
        (Cells.window a (i * 4) 4, Cells.window b (i * 4) 4)) = .ok s' ∧
      s'.dot (a.toList.drop (n * 4)) (b.toList.drop (n * 4)) = s.dot a.toList b.toList := by
  induction n with
  | zero => exact ⟨s, rfl, by rw [Nat.zero_mul, List.drop_zero, List.drop_zero]⟩
  | succ n ih =>
      obtain ⟨mid, hrun, hmid⟩ := ih (by omega) (by omega)
      have hroom : ∀ xs : Array α, (n + 1) * 4 ≤ xs.size →
          4 ≤ (xs.toList.drop (n * 4)).length := by
        intro xs hxs
        rw [List.length_drop, Array.length_toList]
        omega
      obtain ⟨s', hstep, hs'⟩ := mid.advance_dot (hroom a ha) (hroom b hb)
      refine ⟨s', ?_, ?_⟩
      · rw [List.range_succ, List.map_append, List.map_singleton, advanceAll_append hrun,
          Cells.window_eq_take_drop, Cells.window_eq_take_drop, hstep]
      · rw [← hmid, ← hs', List.drop_drop, List.drop_drop, Nat.succ_mul]

end Lanes

/-! ### The value of the passage -/

-- The sizes have to be the same: of five elements against eight, the fifth is left over while its
-- partner stands in a whole piece.
theorem pairedDot_eq {a b : Array α} (h : a.size = b.size) :
    pairedDot a b = .ok (dot .scalar a.toList b.toList) := by
  have hpieces : a.size / 4 * 4 ≤ a.size := Nat.div_mul_le_self _ _
  have hpieces' : a.size / 4 * 4 ≤ b.size := h ▸ hpieces
  obtain ⟨sums, hrun, hsums⟩ := Lanes.zero.advanceAll_dot hpieces hpieces'
  have hrest : min (a.toList.drop (a.size / 4 * 4)).length (b.toList.drop (a.size / 4 * 4)).length
      < 4 := by
    rw [List.length_drop, List.length_drop, Array.length_toList, Array.length_toList]
    omega
  rw [pairedDot, Cells.chunks_of_pos (by decide), Cells.chunks_of_pos (by decide), ok_bind, ok_bind,
    Cells.leftover_eq_drop, Cells.leftover_eq_drop, ← h, List.zip_map', hrun, ok_bind,
    ← sums.dot_of_short hrest, hsums]
  rfl

/-- The passage never traps, and it ends with the value of `dot`. -/
theorem checkedDot_eq (a b : Array α) : checkedDot a b = .ok (dot .scalar a.toList b.toList) := by
  have htake := Lanes.zero.dot_take a.toList b.toList
  rw [Array.length_toList, Array.length_toList] at htake
  rw [checkedDot, Cells.cut_eq (Nat.min_le_left _ _), Cells.cut_eq (Nat.min_le_right _ _), ok_bind,
    ok_bind, pairedDot_eq]
  · exact congrArg Except.ok htake
  · simp only [List.size_toArray, List.length_take, Array.length_toList]
    omega

/-- The dot product of two arrays of any lengths.  Whatever the elements, it is carried out without
a trap; where their operations are those of a commutative ring, it is the sum of the products over
the common length. -/
theorem dot_exact {α : Type} [Element α] (a b : Array α) :
    checkedDot a b = .ok (dot .scalar a.toList b.toList) ∧
      ∀ [CommRing α] [Element.Exact α],
        dot .scalar a.toList b.toList = ∑ i : Fin (min a.size b.size), a[i] * b[i] := by
  refine ⟨checkedDot_eq a b, ?_⟩
  intro _ _
  rw [dot_eq_sum, productSum, Array.length_toList, Array.length_toList, Finset.sum_range]
  apply sum_congr rfl
  intro i _
  have ha : i.val < a.size := by omega
  have hb : i.val < b.size := by omega
  rw [List.getD_eq_getElem?_getD, List.getD_eq_getElem?_getD, Array.getElem?_toList,
    Array.getElem?_toList, Array.getElem?_eq_getElem ha, Array.getElem?_eq_getElem hb]
  rfl

/-- Six elements against seven: a piece, a leftover of two pairs, and an element without a
partner. -/
theorem dot_exact_uneven :
    checkedDot (#[1, 2, 3, 4, 5, 6] : Array ℤ) #[1, -2, 3, -4, 5, -6, 7] = .ok (-21) := by
  obtain ⟨hrun, hsum⟩ := dot_exact (#[1, 2, 3, 4, 5, 6] : Array ℤ) #[1, -2, 3, -4, 5, -6, 7]
  rw [hrun, hsum]
  rfl

/-! ### Registers -/

namespace Register

/-- Takes in the register that starts at a place of both operands. -/
def advance (width : Nat) (a b : Array α) (lanes : List α) (start : Nat) : Checked (List α) := do
  return step lanes (← Cells.slice a start width) (← Cells.slice b start width)

/-- Adds the product at a place of both operands. -/
def addProductAt (a b : Array α) (sum : α) (i : Nat) : Checked α := do
  return Element.mulAdd (← Cells.read a i) (← Cells.read b i) sum

end Register

/-- The dot product of two arrays in registers, with every load and every read checked. -/
def checkedWideDot (width : Nat) (a b : Array α) : Checked α := do
  let stop := min a.size b.size
  let steps := stop / width
  let lanes ← ((List.range steps).map (· * width)).foldlM (Register.advance width a b)
    (List.replicate width Element.zero)
  (List.range' (steps * width) (stop % width)).foldlM (Register.addProductAt a b)
    (Register.total lanes)

namespace Register

variable {width : Nat} {a b : Array α}

/-- A register taken in is a step less to go. -/
theorem advance_eq {start : Nat} (lanes : List α) (ha : start + width ≤ a.size)
    (hb : start + width ≤ b.size) (hword : start + width < Word.limit) :
    advance width a b lanes start = .ok (step lanes ((a.toList.drop start).take width)
      ((b.toList.drop start).take width)) := by
  rw [advance, Cells.slice_eq ha hword, Cells.slice_eq hb hword, ok_bind, ok_bind,
    Cells.window_eq_take_drop, Cells.window_eq_take_drop]
  rfl

/-- A run over `n` registers does not trap.  The invariant is that of the scalar passage: the steps
that remain, on top of the lanes reached, give the dot product of the whole. -/
theorem advanceAll_dot {n : Nat} (rest : Nat) (lanes : List α) (ha : n * width ≤ a.size)
    (hb : n * width ≤ b.size) (hword : n * width < Word.limit) :
    ∃ lanes', ((List.range n).map (· * width)).foldlM (advance width a b) lanes = .ok lanes' ∧
      dot width rest lanes' (a.toList.drop (n * width)) (b.toList.drop (n * width)) =
        dot width (rest + n) lanes a.toList b.toList := by
  induction n generalizing rest with
  | zero => exact ⟨lanes, rfl, by rw [Nat.zero_mul, List.drop_zero, List.drop_zero]; rfl⟩
  | succ n ih =>
      rw [Nat.succ_mul] at ha hb hword
      obtain ⟨mid, hrun, hmid⟩ := ih (rest + 1) (by omega) (by omega) (by omega)
      refine ⟨step mid ((a.toList.drop (n * width)).take width)
        ((b.toList.drop (n * width)).take width), ?_, ?_⟩
      · rw [List.range_succ, List.map_append, List.foldlM_append, hrun, ok_bind,
          List.map_singleton, List.foldlM_cons, advance_eq mid ha hb hword, ok_bind]
        rfl
      · rw [Nat.succ_mul, ← List.drop_drop, ← List.drop_drop,
          show rest + (n + 1) = rest + 1 + n by omega, ← hmid]
        rfl

/-- The places behind the registers, one by one, up to the common length. -/
theorem addProductsAt_eq {start count : Nat} (sum : α) (h : start + count = min a.size b.size) :
    (List.range' start count).foldlM (addProductAt a b) sum =
      .ok (addProducts sum (a.toList.drop start) (b.toList.drop start)) := by
  induction count generalizing start sum with
  | zero =>
      have hnone : (a.toList.drop start).zip (b.toList.drop start) = [] := by
        rw [List.zip_eq_nil_iff, List.drop_eq_nil_iff, List.drop_eq_nil_iff, Array.length_toList,
          Array.length_toList]
        omega
      rw [addProducts, hnone]
      rfl
  | succ count ih =>
      have ha : start < a.toList.length := by
        rw [Array.length_toList]
        omega
      have hb : start < b.toList.length := by
        rw [Array.length_toList]
        omega
      have hread (xs : Array α) (h : start < xs.toList.length) :
          Cells.read xs start = .ok xs.toList[start] := by
        rw [Cells.read, ← Array.getElem?_toList, List.getElem?_eq_getElem h]
      have hstep : addProductAt a b sum start =
          .ok (Element.mulAdd a.toList[start] b.toList[start] sum) := by
        rw [addProductAt, hread a ha, hread b hb, ok_bind, ok_bind]
        rfl
      rw [List.range'_succ, List.foldlM_cons, hstep, ok_bind, ih _ (by omega),
        List.drop_eq_getElem_cons ha, List.drop_eq_getElem_cons hb]
      rfl

end Register

/-- The passage through registers never traps, and it ends with the value of the kernel.  Nothing
is asked of the operands but that their common length is a word. -/
theorem checkedWideDot_eq (width : Nat) {a b : Array α} (hword : min a.size b.size < Word.limit) :
    checkedWideDot width a b = .ok (wideDot width a.toList b.toList) := by
  have hsteps := Nat.div_mul_le_self (min a.size b.size) width
  obtain ⟨lanes, hrun, hlanes⟩ := Register.advanceAll_dot (a := a) (b := b) 0
    (List.replicate width Element.zero) (by omega) (by omega) (Nat.lt_of_le_of_lt hsteps hword)
  rw [checkedWideDot, hrun, ok_bind, Register.addProductsAt_eq _ (Nat.div_add_mod' _ _), wideDot,
    Array.length_toList, Array.length_toList, ← Nat.zero_add (min a.size b.size / width), ← hlanes,
    Nat.zero_add]
  rfl

end ConvLab
