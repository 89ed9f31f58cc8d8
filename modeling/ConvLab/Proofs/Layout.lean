import ConvLab.Proofs.Cells
import ConvLab.Tensor.Layout

/-!
# Conversions between layouts

A conversion writes every element of a tensor to the place of its permuted coordinates.  Different
coordinates have different places, so no element is lost and none is written twice.

* `Extents.index`, `Extents.index_inj` — the place of an element, and that it determines the
  coordinates;
* `Extents.Moves` — a way to move the axes, and the three ways of the conversions;
* `Cells.getElem?_scatter` — writes to places of their own;
* `Layout.reorder_eq` — a conversion in general;
* `Layout.nchwToNhwc_eq`, `Layout.nhwcToNchw_eq`, `Layout.oihwToHwio_eq` — the three conversions.
-/

namespace ConvLab

namespace Extents

def total (d : Extents) : Nat := d.first * d.second * d.third * d.fourth

def index (d : Extents) (c : Nat × Nat × Nat × Nat) : Nat :=
  ((c.1 * d.second + c.2.1) * d.third + c.2.2.1) * d.fourth + c.2.2.2

/-- The coordinates are those of an element. -/
structure Contains (d : Extents) (c : Nat × Nat × Nat × Nat) : Prop where
  first : c.1 < d.first
  second : c.2.1 < d.second
  third : c.2.2.1 < d.third
  fourth : c.2.2.2 < d.fourth

variable {d : Extents} {c c' : Nat × Nat × Nat × Nat}

theorem index_lt_total (h : d.Contains c) : d.index c < d.total :=
  index_lt (index_lt (index_lt h.first h.second) h.third) h.fourth

/-- Different elements have different places. -/
theorem index_inj (h : d.Contains c) (h' : d.Contains c') (heq : d.index c = d.index c') :
    c = c' := by
  -- from the innermost axis outwards, quotient and remainder give the coordinates back
  have hcolumn := congrArg (· / d.fourth) heq
  have hfourth := congrArg (· % d.fourth) heq
  simp only [index, index_div h.fourth, index_div h'.fourth] at hcolumn
  simp only [index, index_mod h.fourth, index_mod h'.fourth] at hfourth
  have hrow := congrArg (· / d.third) hcolumn
  have hthird := congrArg (· % d.third) hcolumn
  simp only [index_div h.third, index_div h'.third] at hrow
  simp only [index_mod h.third, index_mod h'.third] at hthird
  have hfirst := congrArg (· / d.second) hrow
  have hsecond := congrArg (· % d.second) hrow
  simp only [index_div h.second, index_div h'.second] at hfirst
  simp only [index_mod h.second, index_mod h'.second] at hsecond
  exact Prod.ext hfirst (Prod.ext hsecond (Prod.ext hthird hfourth))

/-- Every place belongs to an element. -/
theorem exists_index {i : Nat} (hi : i < d.total) : ∃ c, d.Contains c ∧ d.index c = i := by
  have hfourth : 0 < d.fourth := Nat.pos_of_lt_mul_left hi
  have hcolumn : i / d.fourth < d.first * d.second * d.third :=
    (Nat.div_lt_iff_lt_mul hfourth).mpr hi
  have hthird : 0 < d.third := Nat.pos_of_lt_mul_left hcolumn
  have hrow : i / d.fourth / d.third < d.first * d.second :=
    (Nat.div_lt_iff_lt_mul hthird).mpr hcolumn
  have hsecond : 0 < d.second := Nat.pos_of_lt_mul_left hrow
  refine ⟨(i / d.fourth / d.third / d.second, i / d.fourth / d.third % d.second,
    i / d.fourth % d.third, i % d.fourth),
    ⟨(Nat.div_lt_iff_lt_mul hsecond).mpr hrow, Nat.mod_lt _ hsecond, Nat.mod_lt _ hthird,
      Nat.mod_lt _ hfourth⟩, ?_⟩
  simp only [index, Nat.div_add_mod']

/-- Arrays with the same element at every place are equal. -/
theorem array_ext {α : Type} {xs ys : Array α} (hxs : xs.size = d.total) (hys : ys.size = d.total)
    (h : ∀ c, d.Contains c → xs[d.index c]? = ys[d.index c]?) : xs = ys := by
  refine Array.ext_getElem? fun i => ?_
  by_cases hi : i < d.total
  · obtain ⟨c, hc, rfl⟩ := exists_index hi
    exact h c hc
  · rw [Array.getElem?_eq_none (by omega), Array.getElem?_eq_none (by omega)]

theorem offset_eq (h : d.Contains c) (hword : d.total < Word.limit) :
    d.offset c.1 c.2.1 c.2.2.1 c.2.2.2 = .ok (d.index c) := by
  have hlt := index_lt_total h
  have hrow := Nat.le_mul_of_pos_right (c.1 * d.second + c.2.1) (Nat.zero_lt_of_lt h.third)
  have hcolumn := Nat.le_mul_of_pos_right ((c.1 * d.second + c.2.1) * d.third + c.2.2.1)
    (Nat.zero_lt_of_lt h.fourth)
  unfold index at hlt ⊢
  rw [offset, Word.mul_of_lt (by omega), ok_bind, Word.add_of_lt (by omega), ok_bind,
    Word.mul_of_lt (by omega), ok_bind, Word.add_of_lt (by omega), ok_bind,
    Word.mul_of_lt (by omega), ok_bind, Word.add_of_lt (by omega)]

theorem mem_coordinates : c ∈ d.coordinates ↔ d.Contains c := by
  obtain ⟨i, j, k, l⟩ := c
  simp only [coordinates, List.mem_flatMap, List.mem_map, List.mem_range, Prod.mk.injEq]
  constructor
  · rintro ⟨_, hi, _, hj, _, hk, _, hl, rfl, rfl, rfl, rfl⟩
    exact ⟨hi, hj, hk, hl⟩
  · intro h
    exact ⟨i, h.first, j, h.second, k, h.third, l, h.fourth, rfl, rfl, rfl, rfl⟩

theorem count_eq_ok_iff {n : Nat} :
    d.count = .ok n ↔ d.first * d.second < Word.limit ∧
      d.first * d.second * d.third < Word.limit ∧ d.total < Word.limit ∧ n = d.total := by
  simp only [count, bind_eq_ok_iff, Word.mul_eq_ok_iff]
  constructor
  · rintro ⟨_, ⟨h₁, rfl⟩, _, ⟨h₂, rfl⟩, h₃, rfl⟩
    exact ⟨h₁, h₂, h₃, rfl⟩
  · rintro ⟨h₁, h₂, h₃, rfl⟩
    exact ⟨_, ⟨h₁, rfl⟩, _, ⟨h₂, rfl⟩, h₃, rfl⟩

theorem count_eq (hthird : 0 < d.third) (hfourth : 0 < d.fourth) (hword : d.total < Word.limit) :
    d.count = .ok d.total := by
  have hrow := Nat.le_mul_of_pos_right (d.first * d.second) hthird
  have hcolumn : _ ≤ d.total := Nat.le_mul_of_pos_right (d.first * d.second * d.third) hfourth
  exact count_eq_ok_iff.mpr ⟨by omega, by omega, hword, rfl⟩

/-! ### Moved axes -/

/-- Moving the axes turns the elements of one tensor into elements of another, and no two of them
into the same. -/
structure Moves (source target : Extents)
    (move : Nat × Nat × Nat × Nat → Nat × Nat × Nat × Nat) : Prop where
  total_eq : target.total = source.total
  contains : ∀ c, source.Contains c → target.Contains (move c)
  injective : ∀ c c', move c = move c' → c = c'

/-- The second axis, moved to the innermost place: `(n, c, y, x)` becomes `(n, y, x, c)`. -/
def channelsInwards (c : Nat × Nat × Nat × Nat) : Nat × Nat × Nat × Nat :=
  (c.1, c.2.2.1, c.2.2.2, c.2.1)

/-- The innermost axis, moved to the second place: `(n, y, x, c)` becomes `(n, c, y, x)`. -/
def channelsOutwards (c : Nat × Nat × Nat × Nat) : Nat × Nat × Nat × Nat :=
  (c.1, c.2.2.2, c.2.1, c.2.2.1)

/-- The two outermost axes, exchanged and moved behind the others: `(o, i, y, x)` becomes
`(y, x, i, o)`. -/
def channelsReversed (c : Nat × Nat × Nat × Nat) : Nat × Nat × Nat × Nat :=
  (c.2.2.1, c.2.2.2, c.2.1, c.1)

theorem moves_channelsInwards (n c h w : Nat) :
    Moves ⟨n, c, h, w⟩ ⟨n, h, w, c⟩ channelsInwards where
  total_eq := by simp only [total, Nat.mul_comm, Nat.mul_left_comm]
  contains _ hin := ⟨hin.first, hin.third, hin.fourth, hin.second⟩
  injective := by
    rintro ⟨_, _, _, _⟩ ⟨_, _, _, _⟩ heq
    cases heq
    rfl

theorem moves_channelsOutwards (n c h w : Nat) :
    Moves ⟨n, h, w, c⟩ ⟨n, c, h, w⟩ channelsOutwards where
  total_eq := by simp only [total, Nat.mul_comm, Nat.mul_left_comm]
  contains _ hin := ⟨hin.first, hin.fourth, hin.second, hin.third⟩
  injective := by
    rintro ⟨_, _, _, _⟩ ⟨_, _, _, _⟩ heq
    cases heq
    rfl

theorem moves_channelsReversed (o i kh kw : Nat) :
    Moves ⟨o, i, kh, kw⟩ ⟨kh, kw, i, o⟩ channelsReversed where
  total_eq := by simp only [total, Nat.mul_comm, Nat.mul_left_comm]
  contains _ hin := ⟨hin.third, hin.fourth, hin.second, hin.first⟩
  injective := by
    rintro ⟨_, _, _, _⟩ ⟨_, _, _, _⟩ heq
    cases heq
    rfl

end Extents

/-! ### Writing to places -/

namespace Cells

variable {α γ : Type} {place : γ → Nat} {value : γ → α}

theorem getElem?_scatter_of_ne {cells : List γ} {xs : Array α} {i : Nat}
    (h : ∀ c ∈ cells, place c ≠ i) :
    (cells.foldl (fun xs c => xs.setIfInBounds (place c) (value c)) xs)[i]? = xs[i]? := by
  induction cells generalizing xs with
  | nil => rfl
  | cons c cells ih =>
      rw [List.foldl_cons, ih fun b hb => h b (List.mem_cons_of_mem c hb),
        Array.getElem?_setIfInBounds_ne (h c List.mem_cons_self)]

/-- Writes that agree wherever they meet: each place holds what was written to it. -/
theorem getElem?_scatter {cells : List γ} {xs : Array α}
    (h : ∀ a ∈ cells, ∀ b ∈ cells, place a = place b → value a = value b) {c : γ}
    (hc : c ∈ cells) (hlt : place c < xs.size) :
    (cells.foldl (fun xs c => xs.setIfInBounds (place c) (value c)) xs)[place c]? =
      some (value c) := by
  induction cells generalizing xs c with
  | nil => cases hc
  | cons a cells ih =>
      have hcells : ∀ a ∈ cells, ∀ b ∈ cells, place a = place b → value a = value b :=
        fun x hx y hy => h x (List.mem_cons_of_mem a hx) y (List.mem_cons_of_mem a hy)
      rw [List.foldl_cons]
      -- the last write to the place decides, and it may come after `c`
      by_cases hlater : ∃ b ∈ cells, place b = place c
      · obtain ⟨b, hb, hplace⟩ := hlater
        rw [← hplace, h c hc b (List.mem_cons_of_mem a hb) hplace.symm]
        exact ih hcells hb (by rw [Array.size_setIfInBounds]; omega)
      · have hlast : c = a := by
          rcases List.mem_cons.mp hc with rfl | hmem
          · rfl
          · exact absurd ⟨c, hmem, rfl⟩ hlater
        subst hlast
        rw [getElem?_scatter_of_ne fun b hb hplace => hlater ⟨b, hb, hplace⟩,
          Array.getElem?_setIfInBounds_self_of_lt hlt]

end Cells

/-! ### Conversions -/

namespace Layout

variable {α : Type} [Element α] {xs : Array α}

/-- One step of a conversion: an element is read at its place and written to another. -/
theorem move_eq {source target : Extents} {c c' : Nat × Nat × Nat × Nat} {ys : Array α}
    (hword : xs.size < Word.limit) (hsource : source.total = xs.size)
    (htarget : target.total = xs.size) (hys : ys.size = xs.size) (hc : source.Contains c)
    (hc' : target.Contains c') :
    (do
      let x ← Cells.read xs (← source.offset c.1 c.2.1 c.2.2.1 c.2.2.2)
      Cells.write ys (← target.offset c'.1 c'.2.1 c'.2.2.1 c'.2.2.2) x) =
    .ok (ys.setIfInBounds (target.index c') (xs.getD (source.index c) Element.zero)) := by
  have hread := Extents.index_lt_total hc
  have hwrite := Extents.index_lt_total hc'
  rw [Extents.offset_eq hc (by omega), ok_bind, Cells.read_eq (by omega) Element.zero, ok_bind,
    Extents.offset_eq hc' (by omega), ok_bind, Cells.write_eq (by omega)]

/-- A conversion that moves the axes: it never traps, and each element comes to the place of its
moved coordinates. -/
theorem reorder_eq {extents source target : Extents}
    {move : Nat × Nat × Nat × Nat → Nat × Nat × Nat × Nat} (hmoves : source.Moves target move)
    (hcount : extents.count = .ok xs.size) (hword : xs.size < Word.limit)
    (hsource : source.total = xs.size) :
    ∃ ys, reorder xs extents source (fun i j k l => target.offset (move (i, j, k, l)).1
        (move (i, j, k, l)).2.1 (move (i, j, k, l)).2.2.1 (move (i, j, k, l)).2.2.2) = .ok ys ∧
      ys.size = xs.size ∧
      ∀ c, source.Contains c → ys[target.index (move c)]? = xs[source.index c]? := by
  have htarget : target.total = xs.size := hmoves.total_eq.trans hsource
  obtain ⟨hloop, hsize⟩ := foldlM_eq_ok (fun ys : Array α => ys.size = xs.size)
    (fun c hc ys hys =>
      have hin := Extents.mem_coordinates.mp hc
      ⟨move_eq hword hsource htarget hys hin (hmoves.contains c hin),
        Array.size_setIfInBounds.trans hys⟩)
    (Array.replicate xs.size Element.zero) Array.size_replicate
  refine ⟨_, ?_, hsize, ?_⟩
  · rw [reorder, hcount, ok_bind, requireEqual_self, ok_bind]
    exact hloop
  · intro c hin
    have hagree : ∀ a ∈ source.coordinates, ∀ b ∈ source.coordinates,
        target.index (move a) = target.index (move b) →
        xs.getD (source.index a) Element.zero = xs.getD (source.index b) Element.zero := by
      intro a ha b hb heq
      have hmove := Extents.index_inj (hmoves.contains a (Extents.mem_coordinates.mp ha))
        (hmoves.contains b (Extents.mem_coordinates.mp hb)) heq
      rw [hmoves.injective a b hmove]
    have hread := Extents.index_lt_total hin
    have hwrite := Extents.index_lt_total (hmoves.contains c hin)
    have hroom : target.index (move c) < (Array.replicate xs.size (Element.zero : α)).size := by
      rw [Array.size_replicate]
      omega
    have hvalue : xs[source.index c]? = some _ := getElem?_eq_getD (by omega) Element.zero
    rw [hvalue]
    exact Cells.getElem?_scatter hagree (Extents.mem_coordinates.mpr hin) hroom

/-- Images with the channels moved inwards. -/
theorem nchwToNhwc_eq {n c h w : Nat} (hcount : Extents.count ⟨n, c, h, w⟩ = .ok xs.size) :
    ∃ ys, nchwToNhwc xs n c h w = .ok ys ∧ ys.size = xs.size ∧
      ∀ image < n, ∀ channel < c, ∀ y < h, ∀ x < w,
        ys[((image * h + y) * w + x) * c + channel]? =
          xs[((image * c + channel) * h + y) * w + x]? := by
  obtain ⟨-, -, hword, hsize⟩ := Extents.count_eq_ok_iff.mp hcount
  obtain ⟨ys, hok, hys, hget⟩ := reorder_eq (Extents.moves_channelsInwards n c h w) hcount
    (hsize ▸ hword) hsize.symm
  exact ⟨ys, hok, hys, fun image himage channel hchannel y hy x hx =>
    hget (image, channel, y, x) ⟨himage, hchannel, hy, hx⟩⟩

/-- Images with the channels moved outwards. -/
theorem nhwcToNchw_eq {n c h w : Nat} (hcount : Extents.count ⟨n, c, h, w⟩ = .ok xs.size) :
    ∃ ys, nhwcToNchw xs n c h w = .ok ys ∧ ys.size = xs.size ∧
      ∀ image < n, ∀ channel < c, ∀ y < h, ∀ x < w,
        ys[((image * c + channel) * h + y) * w + x]? =
          xs[((image * h + y) * w + x) * c + channel]? := by
  obtain ⟨-, -, hword, hsize⟩ := Extents.count_eq_ok_iff.mp hcount
  have hmoves := Extents.moves_channelsOutwards n c h w
  obtain ⟨ys, hok, hys, hget⟩ := reorder_eq hmoves hcount (hsize ▸ hword)
    (hmoves.total_eq.symm.trans hsize.symm)
  exact ⟨ys, hok, hys, fun image himage channel hchannel y hy x hx =>
    hget (image, y, x, channel) ⟨himage, hy, hx, hchannel⟩⟩

/-- Weights with the output channel moved to the innermost axis. -/
theorem oihwToHwio_eq {o i kh kw : Nat} (hcount : Extents.count ⟨o, i, kh, kw⟩ = .ok xs.size) :
    ∃ ys, oihwToHwio xs o i kh kw = .ok ys ∧ ys.size = xs.size ∧
      ∀ output < o, ∀ input < i, ∀ ky < kh, ∀ kx < kw,
        ys[((ky * kw + kx) * i + input) * o + output]? =
          xs[((output * i + input) * kh + ky) * kw + kx]? := by
  obtain ⟨-, -, hword, hsize⟩ := Extents.count_eq_ok_iff.mp hcount
  obtain ⟨ys, hok, hys, hget⟩ := reorder_eq (Extents.moves_channelsReversed o i kh kw) hcount
    (hsize ▸ hword) hsize.symm
  exact ⟨ys, hok, hys, fun output houtput input hinput ky hky kx hkx =>
    hget (output, input, ky, kx) ⟨houtput, hinput, hky, hkx⟩⟩

end Layout

end ConvLab
