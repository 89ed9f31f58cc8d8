import ConvLab.Proofs.Checked
import ConvLab.Tensor.Buffer

/-!
# Places in an array

Tensors are kept in one array, so what an operation does to a tensor is what it does at each place
of the array.  Lists that are put together from blocks of one length are read by block and place
inside the block; every cut, splice and in-place row is read place by place.

* `length_blocks`, `getElem?_blocks` — a list made of `n` blocks of `m` elements;
* `Cells.chunks_eq` — an array of whole pieces is cut into exactly these pieces;
* `Cells.getElem?_splice` — a replaced stretch, and nothing else, holds the new elements;
* `Cells.update_eq_zipWith`, `Cells.overwrite_eq_ok` — a row whose partners are complete.
-/

namespace ConvLab

variable {α β : Type}

/-! ### Blocks of one length -/

/-- A block ends inside the whole. -/
theorem block_stop_le (m : Nat) {i n : Nat} (hi : i < n) : i * m + m ≤ n * m := by
  rw [← Nat.succ_mul]
  exact Nat.mul_le_mul_right m hi

theorem index_lt {i j n m : Nat} (hi : i < n) (hj : j < m) : i * m + j < n * m := by
  have hstop := block_stop_le m hi
  omega

theorem index_div {i j m : Nat} (hj : j < m) : (i * m + j) / m = i := by
  rw [Nat.mul_comm, Nat.mul_add_div (Nat.zero_lt_of_lt hj), Nat.div_eq_of_lt hj, Nat.add_zero]

theorem index_mod {i j m : Nat} (hj : j < m) : (i * m + j) % m = j := by
  rw [Nat.mul_comm, Nat.mul_add_mod, Nat.mod_eq_of_lt hj]

theorem length_blocks {n m : Nat} {f : Nat → List α} (hf : ∀ i < n, (f i).length = m) :
    ((List.range n).flatMap f).length = n * m := by
  induction n with
  | zero => simp
  | succ n ih =>
      rw [List.range_succ, List.flatMap_append, List.length_append,
        ih fun i hi => hf i (by omega), List.flatMap_singleton, hf n (by omega), Nat.succ_mul]

/-- The element at place `j` of block `i`. -/
theorem getElem?_blocks {n m : Nat} {f : Nat → List α} (hf : ∀ i < n, (f i).length = m)
    {i j : Nat} (hi : i < n) (hj : j < m) :
    ((List.range n).flatMap f)[i * m + j]? = (f i)[j]? := by
  induction n with
  | zero => omega
  | succ n ih =>
      have hlen : ((List.range n).flatMap f).length = n * m :=
        length_blocks fun i hi => hf i (by omega)
      rw [List.range_succ, List.flatMap_append, List.flatMap_singleton]
      rcases Nat.lt_or_ge i n with hlt | hge
      · rw [List.getElem?_append_left (by rw [hlen]; exact index_lt hlt hj)]
        exact ih (fun i hi => hf i (by omega)) hlt
      · have hin : i = n := by omega
        subst hin
        rw [List.getElem?_append_right (by omega), hlen, Nat.add_sub_cancel_left]

theorem getElem?_range_map {n i : Nat} (f : Nat → α) (hi : i < n) :
    ((List.range n).map f)[i]? = some (f i) := by
  rw [List.getElem?_map, List.getElem?_range hi]
  rfl

/-- A list is known by its length and its elements. -/
theorem eq_range_map {xs : List α} {n : Nat} {f : Nat → α} (hlen : xs.length = n)
    (h : ∀ i < n, xs[i]? = some (f i)) : xs = (List.range n).map f := by
  apply List.ext_getElem?
  intro i
  rcases Nat.lt_or_ge i n with hi | hi
  · rw [h i hi, getElem?_range_map f hi]
  · rw [List.getElem?_eq_none (by omega), List.getElem?_eq_none (by simpa using hi)]

theorem zipIdx_range_map (n : Nat) (f : Nat → α) :
    ((List.range n).map f).zipIdx = (List.range n).map fun i => (f i, i) := by
  apply eq_range_map (by simp)
  intro i hi
  rw [List.getElem?_zipIdx, getElem?_range_map f hi, Option.map_some, Nat.zero_add]

/-! ### Elements by place -/

theorem getElem?_eq_getD {xs : Array α} {i : Nat} (hi : i < xs.size) (d : α) :
    xs[i]? = some (xs.getD i d) := by
  rw [Array.getD_eq_getD_getElem?, Array.getElem?_eq_getElem hi, Option.getD_some]

theorem toList_eq_range_map {xs : Array α} {n : Nat} (hn : xs.size = n) (d : α) :
    xs.toList = (List.range n).map fun i => xs.getD i d := by
  apply eq_range_map (by rw [Array.length_toList, hn])
  intro i hi
  rw [Array.getElem?_toList, getElem?_eq_getD (by omega) d]

namespace Cells

theorem read_eq {xs : Array α} {i : Nat} (hi : i < xs.size) (d : α) :
    read xs i = .ok (xs.getD i d) := by
  rw [read, getElem?_eq_getD hi d]

theorem getElem?_window (xs : Array α) (start count i : Nat) :
    (window xs start count)[i]? = if i < count then xs[start + i]? else none := by
  rw [window, Array.getElem?_toList, Array.getElem?_extract]
  rcases Nat.lt_or_ge i count with hi | hi
  · rw [if_pos hi]
    rcases Nat.lt_or_ge (start + i) xs.size with hs | hs
    · rw [if_pos (by omega)]
    · rw [if_neg (by omega), Array.getElem?_eq_none hs]
  · rw [if_neg (by omega), if_neg (by omega)]

theorem window_getD {xs : Array α} {start count i : Nat} (hi : i < count) (d : α) :
    (window xs start count).getD i d = xs.getD (start + i) d := by
  rw [List.getD_eq_getElem?_getD, getElem?_window, if_pos hi, Array.getD_eq_getD_getElem?]

theorem length_window {xs : Array α} {start count : Nat} (h : start + count ≤ xs.size) :
    (window xs start count).length = count := by
  rw [window, Array.length_toList, Array.size_extract]
  omega

theorem window_eq_map {xs : Array α} {start count : Nat} (h : start + count ≤ xs.size) (d : α) :
    window xs start count = (List.range count).map fun i => xs.getD (start + i) d := by
  apply eq_range_map (length_window h)
  intro i hi
  rw [getElem?_window, if_pos hi, getElem?_eq_getD (by omega) d]

theorem window_eq_take_drop (xs : Array α) (start count : Nat) :
    window xs start count = (xs.toList.drop start).take count := by
  rw [window, Array.toList_extract, List.extract_eq_take_drop, Nat.add_sub_cancel_left]

theorem window_whole {xs : Array α} {n : Nat} (h : xs.size = n) : window xs 0 n = xs.toList := by
  rw [window, Nat.zero_add, ← h, Array.extract_size]

theorem slice_eq {xs : Array α} {start count : Nat} (h : start + count ≤ xs.size)
    (hword : start + count < Word.limit) : slice xs start count = .ok (window xs start count) := by
  rw [slice, Word.add_of_lt hword, ok_bind, if_pos h]
  rfl

theorem chunks_of_pos {xs : Array α} {count : Nat} (hc : 0 < count) :
    chunks xs count =
      .ok ((List.range (xs.size / count)).map fun i => window xs (i * count) count) :=
  if_neg (Nat.ne_of_gt hc)

theorem chunks_eq {xs : Array α} {n count : Nat} (hc : 0 < count) (h : xs.size = n * count) :
    chunks xs count = .ok ((List.range n).map fun i => window xs (i * count) count) := by
  rw [chunks_of_pos hc, h, Nat.mul_div_cancel n hc]

/-! ### Stretches and rows -/

theorem size_splice {xs : Array α} {start : Nat} {ys : List α}
    (h : start + ys.length ≤ xs.size) : (splice xs start ys).size = xs.size := by
  simp only [splice, Array.size_append, Array.size_extract, List.size_toArray]
  omega

/-- The replaced stretch holds the new elements; every other place is unchanged. -/
theorem getElem?_splice {xs : Array α} {start : Nat} {ys : List α}
    (h : start + ys.length ≤ xs.size) (i : Nat) :
    (splice xs start ys)[i]? =
      if start ≤ i ∧ i < start + ys.length then ys[i - start]? else xs[i]? := by
  have hleft : (xs.extract 0 start).size = start := by
    rw [Array.size_extract]
    omega
  have hys : ys.toArray.size = ys.length := List.size_toArray
  rw [splice, Array.append_assoc]
  rcases Nat.lt_or_ge i start with hi | hi
  · rw [Array.getElem?_append_left (by omega), if_neg (by omega), Array.getElem?_extract,
      if_pos (by omega), Nat.zero_add]
  · rw [Array.getElem?_append_right (by omega), hleft]
    rcases Nat.lt_or_ge i (start + ys.length) with hj | hj
    · rw [if_pos ⟨hi, hj⟩, Array.getElem?_append_left (by omega), List.getElem?_toArray]
    · have hplace : start + ys.length + (i - start - ys.length) = i := by omega
      rw [if_neg (by omega), Array.getElem?_append_right (by omega), hys, Array.getElem?_extract,
        hplace]
      rcases Nat.lt_or_ge i xs.size with hs | hs
      · rw [if_pos (by omega)]
      · rw [if_neg (by omega), Array.getElem?_eq_none hs]

theorem window_splice {xs : Array α} {start count : Nat} {ys : List α} (hlen : ys.length = count)
    (h : start + count ≤ xs.size) : window (splice xs start ys) start count = ys := by
  subst hlen
  apply List.ext_getElem?
  intro i
  rw [getElem?_window, getElem?_splice h]
  split
  · rw [if_pos (by omega), Nat.add_sub_cancel_left]
  · rw [List.getElem?_eq_none (by omega)]

/-- The second of two replacements of the same stretch wins. -/
theorem splice_splice {xs : Array α} {start : Nat} {ys zs : List α}
    (h : start + ys.length ≤ xs.size) (hlen : zs.length = ys.length) :
    splice (splice xs start ys) start zs = splice xs start zs := by
  apply Array.ext_getElem?
  intro i
  have hzs : start + zs.length ≤ xs.size := by omega
  rw [getElem?_splice (by rw [size_splice h]; exact hzs), getElem?_splice h, getElem?_splice hzs]
  split
  · rfl
  · rw [if_neg (by omega)]

theorem splice_whole {xs : Array α} {ys : List α} (h : ys.length = xs.size) :
    splice xs 0 ys = ys.toArray := by
  rw [splice, Nat.zero_add, h]
  simp

/-- A replacement right behind another one at the front. -/
theorem splice_append {xs : Array α} {ys zs : List α} (h : ys.length + zs.length ≤ xs.size) :
    splice (splice xs 0 ys) ys.length zs = splice xs 0 (ys ++ zs) := by
  have hys : 0 + ys.length ≤ xs.size := by omega
  have hzs : ys.length + zs.length ≤ (splice xs 0 ys).size := by rwa [size_splice hys]
  have hboth : 0 + (ys ++ zs).length ≤ xs.size := by rwa [List.length_append, Nat.zero_add]
  apply Array.ext_getElem?
  intro i
  rw [getElem?_splice hzs, getElem?_splice hys, getElem?_splice hboth, List.length_append,
    List.getElem?_append]
  split
  · rw [if_pos (by omega), if_neg (by omega), Nat.sub_zero]
  · split
    · rw [if_pos (by omega), if_pos (by omega)]
    · rw [if_neg (by omega)]

/-- Blocks of one length, written one after the other from the front. -/
theorem foldl_splice {n m : Nat} {f : Nat → List α} (hf : ∀ i < n, (f i).length = m)
    {xs : Array α} (h : n * m ≤ xs.size) :
    (List.range n).foldl (fun xs i => splice xs (i * m) (f i)) xs =
      splice xs 0 ((List.range n).flatMap f) := by
  induction n with
  | zero => simp [splice]
  | succ n ih =>
      have hlen : ((List.range n).flatMap f).length = n * m :=
        length_blocks fun i hi => hf i (by omega)
      have hlast := hf n (by omega)
      rw [Nat.succ_mul] at h
      rw [List.range_succ, List.foldl_append, ih (fun i hi => hf i (by omega)) (by omega),
        List.flatMap_append, List.flatMap_singleton, ← splice_append (by omega), hlen]
      rfl

theorem update_eq_zipWith {f : α → β → α} {row : List α} {partners : List β}
    (h : row.length ≤ partners.length) : update f row partners = List.zipWith f row partners := by
  rw [update, List.drop_eq_nil_of_le h, List.append_nil]

/-- A row given place by place, combined with a partner at every place. -/
theorem update_range_map {g : α → β → α} {n : Nat} (f : Nat → α) {partners : List β}
    (h : partners.length = n) (d : β) :
    update g ((List.range n).map f) partners =
      (List.range n).map fun i => g (f i) (partners.getD i d) := by
  rw [update_eq_zipWith (by simp [h])]
  apply eq_range_map (by simp [h])
  intro i hi
  rw [List.getElem?_zipWith, getElem?_range_map f hi, List.getD_eq_getElem?_getD,
    List.getElem?_eq_getElem (by omega)]
  rfl

/-- Rows of partners, combined with a row one after the other: at each place a fold over them. -/
theorem foldl_update {γ : Type} {g : γ → α → β → α} {n : Nat} {steps : List (γ × List β)}
    (h : ∀ step ∈ steps, step.2.length = n) (d : β) (f : Nat → α) :
    steps.foldl (fun row step => update (g step.1) row step.2) ((List.range n).map f) =
      (List.range n).map fun i =>
        steps.foldl (fun a step => g step.1 a (step.2.getD i d)) (f i) := by
  induction steps generalizing f with
  | nil => rfl
  | cons step steps ih =>
      simp only [List.foldl_cons]
      rw [update_range_map f (h step List.mem_cons_self) d]
      exact ih (fun next hnext => h next (List.mem_cons_of_mem step hnext)) _

/-- A loop that rewrites a row place by place: at each place a fold over its steps. -/
theorem foldlM_row {γ ε : Type} {n : Nat} {f : List α → γ → Except ε (List α)}
    {g : γ → Nat → α → α} {steps : List γ}
    (h : ∀ step ∈ steps, ∀ row : Nat → α, f ((List.range n).map row) step =
      .ok ((List.range n).map fun i => g step i (row i))) (row : Nat → α) :
    steps.foldlM f ((List.range n).map row) =
      .ok ((List.range n).map fun i => steps.foldl (fun a step => g step i a) (row i)) := by
  induction steps generalizing row with
  | nil => rfl
  | cons step steps ih =>
      rw [List.foldlM_cons, h step List.mem_cons_self, ok_bind]
      exact ih (fun next hnext => h next (List.mem_cons_of_mem step hnext)) _

theorem overwrite_eq_ok {row ys : List α} (h : ys.length = row.length) :
    overwrite row ys = .ok ys := by
  rw [overwrite, if_pos (by omega), h, List.drop_length, List.append_nil]

theorem write_eq {xs : Array α} {i : Nat} (hi : i < xs.size) (x : α) :
    write xs i x = .ok (xs.setIfInBounds i x) := if_pos hi

end Cells

end ConvLab
