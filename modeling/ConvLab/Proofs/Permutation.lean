import ConvLab.Proofs.Layout
import ConvLab.Scalar.Single
import Mathlib.Data.List.Nodup
import Mathlib.Data.List.Perm.Subperm

/-!
# Conversions as permutations

The loops of a conversion read the elements of a tensor in order and write every place of the result
once.  So nothing is lost: the result has the same elements, and the opposite conversion brings them
back.

* `Extents.map_index_coordinates` — the loops read in order;
* `Extents.Moves.perm_places` — the loops write every place once;
* `Layout.Rearranged` — an array with the elements of another one at moved places;
* `Layout.conversions_lossless` — the three conversions.
-/

namespace ConvLab

/-! ### Nested loops -/

/-- Two nested loops over all pairs are one loop over the combined index. -/
theorem flatMap_range_mul {α : Type} (n m : Nat) (f : Nat → List α) :
    ((List.range n).flatMap fun i => (List.range m).flatMap fun j => f (i * m + j)) =
      (List.range (n * m)).flatMap f := by
  induction n with
  | zero => simp
  | succ n ih =>
      rw [List.range_succ, List.flatMap_append, ih, List.flatMap_singleton, Nat.succ_mul,
        List.range_add, List.flatMap_append, List.flatMap_map]

namespace Extents

variable {source target : Extents} {move : Nat × Nat × Nat × Nat → Nat × Nat × Nat × Nat}

/-- In the order of the axes the elements stand one after the other. -/
theorem map_index_coordinates (d : Extents) :
    d.coordinates.map d.index = List.range d.total := by
  simp only [coordinates, List.map_flatMap, List.map_map, Function.comp_def, index]
  simp only [List.map_eq_flatMap]
  rw [flatMap_range_mul d.first d.second fun row => (List.range d.third).flatMap fun k =>
      (List.range d.fourth).flatMap fun l => [(row * d.third + k) * d.fourth + l],
    flatMap_range_mul _ d.third fun column => (List.range d.fourth).flatMap fun l =>
      [column * d.fourth + l],
    flatMap_range_mul _ d.fourth fun i => [i], List.flatMap_singleton', total]

theorem length_coordinates (d : Extents) : d.coordinates.length = d.total := by
  rw [← List.length_map d.index, map_index_coordinates, List.length_range]

theorem nodup_coordinates (d : Extents) : d.coordinates.Nodup := by
  apply List.Nodup.of_map d.index
  rw [map_index_coordinates]
  exact List.nodup_range

namespace Moves

/-- Different elements go to different places. -/
theorem index_move_inj (hmoves : source.Moves target move) {a b : Nat × Nat × Nat × Nat}
    (ha : source.Contains a) (hb : source.Contains b)
    (heq : target.index (move a) = target.index (move b)) : a = b :=
  hmoves.injective a b (index_inj (hmoves.contains a ha) (hmoves.contains b hb) heq)

/-- The places that are written, one after the other, are all places of the result, once each. -/
theorem perm_places (hmoves : source.Moves target move) :
    (source.coordinates.map fun c => target.index (move c)).Perm (List.range target.total) := by
  have hnodup : (source.coordinates.map fun c => target.index (move c)).Nodup := by
    apply source.nodup_coordinates.map_on
    intro a ha b hb heq
    exact hmoves.index_move_inj (mem_coordinates.mp ha) (mem_coordinates.mp hb) heq
  have hsubset : (source.coordinates.map fun c => target.index (move c)) ⊆
      List.range target.total := by
    intro i hi
    obtain ⟨c, hc, rfl⟩ := List.mem_map.mp hi
    exact List.mem_range.mpr (index_lt_total (hmoves.contains c (mem_coordinates.mp hc)))
  -- there are as many writes as places, so none is left out
  have hlength : (List.range target.total).length =
      (source.coordinates.map fun c => target.index (move c)).length := by
    rw [List.length_map, List.length_range, length_coordinates, hmoves.total_eq]
  exact (hnodup.subperm hsubset).perm_of_length_le (Nat.le_of_eq hlength)

/-- Every place of the result is written from exactly one element. -/
theorem existsUnique_move (hmoves : source.Moves target move) {i : Nat} (hi : i < target.total) :
    ∃! c, source.Contains c ∧ target.index (move c) = i := by
  obtain ⟨c, hc, hplace⟩ := List.mem_map.mp (hmoves.perm_places.mem_iff.mpr (List.mem_range.mpr hi))
  refine ⟨c, ⟨mem_coordinates.mp hc, hplace⟩, ?_⟩
  rintro c' ⟨hc', hplace'⟩
  exact hmoves.index_move_inj hc' (mem_coordinates.mp hc) (hplace'.trans hplace.symm)

end Moves

end Extents

namespace Layout

variable {α : Type}

/-- The second array holds the elements of the first, each at the place of its moved coordinates. -/
structure Rearranged (source target : Extents)
    (move : Nat × Nat × Nat × Nat → Nat × Nat × Nat × Nat) (xs ys : Array α) : Prop where
  size_eq : ys.size = xs.size
  placed : ∀ c, source.Contains c → ys[target.index (move c)]? = xs[source.index c]?
  /-- The loops of the conversion write every place once. -/
  places : (source.coordinates.map fun c => target.index (move c)).Perm (List.range ys.size)
  written_once : ∀ i < ys.size, ∃! c, source.Contains c ∧ target.index (move c) = i
  perm : ys.toList.Perm xs.toList

variable {source target : Extents} {move : Nat × Nat × Nat × Nat → Nat × Nat × Nat × Nat}
  {xs ys : Array α}

/-- An array that is filled from moved places is a rearrangement. -/
theorem rearranged_of_placed [Element α] (hmoves : source.Moves target move)
    (hsource : source.total = xs.size) (hsize : ys.size = xs.size)
    (hplaced : ∀ c, source.Contains c → ys[target.index (move c)]? = xs[source.index c]?) :
    Rearranged source target move xs ys := by
  have htarget : target.total = ys.size := hmoves.total_eq.trans (hsource.trans hsize.symm)
  have hplaces := hmoves.perm_places
  rw [htarget] at hplaces
  have hread : ∀ c ∈ source.coordinates, ys.getD (target.index (move c)) Element.zero =
      xs.getD (source.index c) Element.zero := by
    intro c hc
    rw [Array.getD_eq_getD_getElem?, hplaced c (Extents.mem_coordinates.mp hc),
      Array.getD_eq_getD_getElem?]
  refine ⟨hsize, hplaced, hplaces, fun i hi => hmoves.existsUnique_move (htarget ▸ hi), ?_⟩
  calc
    ys.toList = (List.range ys.size).map fun i => ys.getD i Element.zero :=
      toList_eq_range_map rfl _
    List.Perm _ ((source.coordinates.map fun c => target.index (move c)).map
        fun i => ys.getD i Element.zero) := (hplaces.map _).symm
    _ = (source.coordinates.map source.index).map fun i => xs.getD i Element.zero := by
      rw [List.map_map, List.map_map]
      exact List.map_congr_left hread
    _ = xs.toList := by
      rw [Extents.map_index_coordinates, ← toList_eq_range_map hsource.symm]

/-- Moving the axes back brings every element back. -/
theorem Rearranged.eq_of_inverse {move' : Nat × Nat × Nat × Nat → Nat × Nat × Nat × Nat}
    {zs : Array α} (h : Rearranged source target move xs ys)
    (h' : Rearranged target source move' ys zs) (hmoves : source.Moves target move)
    (hsource : source.total = xs.size) (hinverse : ∀ c, move' (move c) = c) : zs = xs := by
  apply Extents.array_ext ((h'.size_eq.trans h.size_eq).trans hsource.symm) hsource.symm
  intro c hc
  have hback := h'.placed (move c) (hmoves.contains c hc)
  rw [hinverse] at hback
  exact hback.trans (h.placed c hc)

variable [Element α] {n c h w : Nat}

theorem nchwToNhwc_rearranged (hcount : Extents.count ⟨n, c, h, w⟩ = .ok xs.size) :
    ∃ ys, nchwToNhwc xs n c h w = .ok ys ∧
      Rearranged ⟨n, c, h, w⟩ ⟨n, h, w, c⟩ Extents.channelsInwards xs ys := by
  obtain ⟨-, -, -, htotal⟩ := Extents.count_eq_ok_iff.mp hcount
  obtain ⟨ys, hok, hsize, hget⟩ := nchwToNhwc_eq hcount
  refine ⟨ys, hok,
    rearranged_of_placed (Extents.moves_channelsInwards n c h w) htotal.symm hsize ?_⟩
  rintro ⟨image, channel, y, x⟩ ⟨himage, hchannel, hy, hx⟩
  exact hget image himage channel hchannel y hy x hx

theorem nhwcToNchw_rearranged (hcount : Extents.count ⟨n, c, h, w⟩ = .ok xs.size) :
    ∃ ys, nhwcToNchw xs n c h w = .ok ys ∧
      Rearranged ⟨n, h, w, c⟩ ⟨n, c, h, w⟩ Extents.channelsOutwards xs ys := by
  obtain ⟨-, -, -, htotal⟩ := Extents.count_eq_ok_iff.mp hcount
  obtain ⟨ys, hok, hsize, hget⟩ := nhwcToNchw_eq hcount
  have hmoves := Extents.moves_channelsOutwards n c h w
  refine ⟨ys, hok, rearranged_of_placed hmoves (hmoves.total_eq.symm.trans htotal.symm) hsize ?_⟩
  rintro ⟨image, y, x, channel⟩ ⟨himage, hy, hx, hchannel⟩
  exact hget image himage channel hchannel y hy x hx

theorem oihwToHwio_rearranged (hcount : Extents.count ⟨n, c, h, w⟩ = .ok xs.size) :
    ∃ ys, oihwToHwio xs n c h w = .ok ys ∧
      Rearranged ⟨n, c, h, w⟩ ⟨h, w, c, n⟩ Extents.channelsReversed xs ys := by
  obtain ⟨-, -, -, htotal⟩ := Extents.count_eq_ok_iff.mp hcount
  obtain ⟨ys, hok, hsize, hget⟩ := oihwToHwio_eq hcount
  refine ⟨ys, hok,
    rearranged_of_placed (Extents.moves_channelsReversed n c h w) htotal.symm hsize ?_⟩
  rintro ⟨output, input, ky, kx⟩ ⟨houtput, hinput, hky, hkx⟩
  exact hget output houtput input hinput ky hky kx hkx

/-- The conversions lose nothing.  On every array whose size is the product of the extents, computed
without overflow, none of the three conversions traps.  The two between images undo each other, and
each of the three is a permutation: an element comes to the place of its moved coordinates, and
every place is written from exactly one element. -/
theorem conversions_lossless {xs : Array α} {n c h w : Nat}
    (hcount : Extents.count ⟨n, c, h, w⟩ = .ok xs.size) :
    ∃ nhwc nchw hwio,
      nchwToNhwc xs n c h w = .ok nhwc ∧
      nhwcToNchw xs n c h w = .ok nchw ∧
      oihwToHwio xs n c h w = .ok hwio ∧
      nhwcToNchw nhwc n c h w = .ok xs ∧
      nchwToNhwc nchw n c h w = .ok xs ∧
      Rearranged ⟨n, c, h, w⟩ ⟨n, h, w, c⟩ Extents.channelsInwards xs nhwc ∧
      Rearranged ⟨n, h, w, c⟩ ⟨n, c, h, w⟩ Extents.channelsOutwards xs nchw ∧
      Rearranged ⟨n, c, h, w⟩ ⟨h, w, c, n⟩ Extents.channelsReversed xs hwio := by
  obtain ⟨-, -, -, htotal⟩ := Extents.count_eq_ok_iff.mp hcount
  obtain ⟨nhwc, hnhwc, hinwards⟩ := nchwToNhwc_rearranged hcount
  obtain ⟨nchw, hnchw, houtwards⟩ := nhwcToNchw_rearranged hcount
  obtain ⟨hwio, hhwio, hreversed⟩ := oihwToHwio_rearranged hcount
  obtain ⟨back, hback, hrestored⟩ := nhwcToNchw_rearranged (hinwards.size_eq.symm ▸ hcount)
  obtain ⟨forth, hforth, hrestored'⟩ := nchwToNhwc_rearranged (houtwards.size_eq.symm ▸ hcount)
  have hmoves := Extents.moves_channelsInwards n c h w
  have hmoves' := Extents.moves_channelsOutwards n c h w
  rw [hinwards.eq_of_inverse hrestored hmoves htotal.symm fun _ => rfl] at hback
  rw [houtwards.eq_of_inverse hrestored' hmoves' (hmoves'.total_eq.symm.trans htotal.symm)
    fun _ => rfl] at hforth
  exact ⟨nhwc, nchw, hwio, hnhwc, hnchw, hhwio, hback, hforth, hinwards, houtwards, hreversed⟩

/-- Two images of three channels, one row and two columns. -/
def stripes : Array Float32 := #[0, 1, 10, 11, 20, 21, 100, 101, 110, 111, 120, 121]

theorem conversions_lossless_stripes :
    ∃ nhwc nchw hwio,
      nchwToNhwc stripes 2 3 1 2 = .ok nhwc ∧
      nhwcToNchw stripes 2 3 1 2 = .ok nchw ∧
      oihwToHwio stripes 2 3 1 2 = .ok hwio ∧
      nhwcToNchw nhwc 2 3 1 2 = .ok stripes ∧
      nchwToNhwc nchw 2 3 1 2 = .ok stripes ∧
      nhwc[10]? = some 111 ∧
      hwio[9]? = some 111 ∧
      hwio.toList.Perm stripes.toList := by
  obtain ⟨nhwc, nchw, hwio, hnhwc, hnchw, hhwio, hback, hforth, hinwards, -, hreversed⟩ :=
    conversions_lossless (show Extents.count ⟨2, 3, 1, 2⟩ = .ok stripes.size from rfl)
  -- the element of image one, channel one and column one
  have helement : Extents.Contains ⟨2, 3, 1, 2⟩ (1, 1, 0, 1) := by
    constructor <;> decide
  exact ⟨nhwc, nchw, hwio, hnhwc, hnchw, hhwio, hback, hforth, hinwards.placed _ helement,
    hreversed.placed _ helement, hreversed.perm⟩

end Layout

end ConvLab
