import ConvLab.Bench.Comparison
import Mathlib.Data.Nat.Find
import Mathlib.Data.Prod.Lex

/-!
# The comparison of outputs

A comparison walks through two outputs with one eye on the next pair of elements and the other on
the largest difference so far.  Its tests are tests on floats, so a difference that is no number has
to fail them, and a maximum is only a maximum as long as everything before it is a number.

* `Single.rank`, `Single.le_iff` — the order of the floats: the numbers in a line, and NaN outside;
* `Single.le_max_left`, `Single.le_max_right`, `Single.max_cases` — the maximum of two numbers;
* `Near`, `Agree`, `FirstFar` — the test on two elements, on two outputs, and where it fails first;
* `IsLargest`, `compareFrom_of_near`, `compareFrom_of_far` — the two ends of the walk;
* `compareOutputs_decides` — what a comparison says of any two outputs under any tolerance.
-/

namespace ConvLab

/-! ### The order of the floats -/

namespace Single

open Float.Model (UnpackedFloat)
open Float.Model.UnpackedFloat (Sign)

/-- The place of a number in the order: its class and sign first, then exponent and mantissa.  A NaN
has a place only because the function is total. -/
def rank : UnpackedFloat → Int ×ₗ Int ×ₗ Int
  | .infinity .negative => toLex (-2, toLex (0, 0))
  | .finite .negative mantissa exponent _ => toLex (-1, toLex (-exponent, -mantissa))
  | .zero _ => toLex (0, toLex (0, 0))
  | .finite .positive mantissa exponent _ => toLex (1, toLex (exponent, mantissa))
  | .infinity .positive => toLex (2, toLex (0, 0))
  | .notANumber => toLex (0, toLex (0, 0))

theorem isLE_compare_sign {s t : Sign} :
    (compare s t).isLE ↔ s = .negative ∨ t = .positive := by
  cases s <;> cases t <;> simp [compare]

theorem isLE_compare_then {e f : Int} {m n : Nat} :
    ((compare e f).then (compare m n)).isLE ↔ e < f ∨ e = f ∧ m ≤ n := by
  rcases lt_trichotomy e f with h | rfl | h
  · simp [compare_lt_iff_lt.mpr h, h]
  · simp [← compare_le_iff_le, Ordering.isLE_iff_ne_gt]
  · simp [compare_gt_iff_gt.mpr h, h.ne', h.not_gt]

theorem isGE_compare_then {e f : Int} {m n : Nat} :
    ((compare e f).then (compare m n)).isGE ↔ f < e ∨ e = f ∧ n ≤ m := by
  rcases lt_trichotomy e f with h | rfl | h
  · simp [compare_lt_iff_lt.mpr h, h.ne, h.not_gt]
  · simp [← compare_ge_iff_ge, Ordering.isGE_iff_ne_lt]
  · simp [compare_gt_iff_gt.mpr h, h]

/-- Class and sign decide, but for two finite values of one sign. -/
theorem unpacked_le_iff (a b : UnpackedFloat) :
    a.le b = true ↔ a.isNaN = false ∧ b.isNaN = false ∧ rank a ≤ rank b := by
  rcases a with (_ | _) | _ | _ | ⟨_ | _, m, e, _⟩ <;>
    rcases b with (_ | _) | _ | _ | ⟨_ | _, n, f, _⟩ <;>
    delta UnpackedFloat.le UnpackedFloat.compare UnpackedFloat.isNaN rank <;>
    dsimp only <;>
    simp [Prod.Lex.toLex_le_toLex, isLE_compare_sign, isLE_compare_then, isGE_compare_then]

/-- The numbers stand in a line, and a NaN is not comparable with anything. -/
theorem le_iff {x y : Float32} :
    x ≤ y ↔ x.isNaN = false ∧ y.isNaN = false ∧
      rank x.toModel.unpack ≤ rank y.toModel.unpack := by
  have hle : x ≤ y ↔ x.toModel.unpack.le y.toModel.unpack = true := by
    show (decide (x.toModel ≤ y.toModel)) = true ↔ _
    exact decide_eq_true_iff
  rw [hle, unpacked_le_iff]
  rfl

variable {x y z : Float32}

theorem le_rfl_of_isNaN (hx : x.isNaN = false) : x ≤ x := le_iff.mpr ⟨hx, hx, le_rfl⟩

theorem le_trans (hxy : x ≤ y) (hyz : y ≤ z) : x ≤ z := by
  obtain ⟨hx, -, hleft⟩ := le_iff.mp hxy
  obtain ⟨-, hz, hright⟩ := le_iff.mp hyz
  exact le_iff.mpr ⟨hx, hz, hleft.trans hright⟩

theorem le_of_not_le (hx : x.isNaN = false) (hy : y.isNaN = false) (h : ¬ x ≤ y) : y ≤ x := by
  rw [le_iff] at h ⊢
  refine ⟨hy, hx, ?_⟩
  by_contra hrank
  exact h ⟨hx, hy, (lt_of_not_ge hrank).le⟩

/-! ### The maximum -/

theorem max_of_isNaN (hx : x.isNaN = false) : max x y = if x ≤ y then y else x := by
  simp only [max, hx, Bool.false_eq_true, false_or]

theorem max_cases (x y : Float32) : max x y = x ∨ max x y = y := by
  rw [max]
  split
  · exact .inr rfl
  · exact .inl rfl

theorem isNaN_max (hx : x.isNaN = false) (hy : y.isNaN = false) : (max x y).isNaN = false := by
  rcases max_cases x y with h | h
  · rwa [h]
  · rwa [h]

theorem le_max_left (hx : x.isNaN = false) : x ≤ max x y := by
  rw [max_of_isNaN hx]
  split
  · assumption
  · exact le_rfl_of_isNaN hx

theorem le_max_right (hx : x.isNaN = false) (hy : y.isNaN = false) : y ≤ max x y := by
  rw [max_of_isNaN hx]
  split
  · exact le_rfl_of_isNaN hy
  · exact le_of_not_le hx hy ‹_›

/-! ### Differences that are no numbers -/

theorem unpack_eq_of_isNaN (hx : x.isNaN = true) : x.toModel.unpack = .notANumber := by
  have hunpacked : x.toModel.unpack.isNaN = true := hx
  generalize x.toModel.unpack = a at hunpacked ⊢
  cases a with
  | notANumber => rfl
  | infinity sign => cases hunpacked
  | zero sign => cases hunpacked
  | finite sign mantissa exponent hpos => cases hunpacked

theorem isNaN_pack : (Float32.ofModel (.pack .notANumber)).isNaN = true := by decide +kernel

theorem isNaN_abs (hx : x.isNaN = true) : x.abs.isNaN = true := by
  have habs : x.abs = .ofModel (.pack x.toModel.unpack.abs) := rfl
  rw [habs, unpack_eq_of_isNaN hx]
  exact isNaN_pack

theorem isNaN_sub (h : x.isNaN = true ∨ y.isNaN = true) : (x - y).isNaN = true := by
  have hsub : x - y =
      .ofModel (.pack (.sub .binary32 x.toModel.unpack y.toModel.unpack)) := rfl
  rcases h with hx | hy
  · rw [hsub, unpack_eq_of_isNaN hx]
    exact isNaN_pack
  · have hnan : UnpackedFloat.sub .binary32 x.toModel.unpack .notANumber = .notANumber := by
      cases x.toModel.unpack <;> rfl
    rw [hsub, unpack_eq_of_isNaN hy, hnan]
    exact isNaN_pack

end Single

/-! ### Two outputs side by side -/

/-- The test on two elements.  The tolerance is relative to expected values above one. -/
def Near (tolerance expected actual : Float32) : Prop :=
  (expected - actual).abs ≤ tolerance * Single.max expected.abs 1.0

/-- Two outputs of one length pass the test at every index. -/
structure Agree (tolerance : Float32) (expected actual : Array Float32) : Prop where
  size_eq : expected.size = actual.size
  near : ∀ i (he : i < expected.size) (ha : i < actual.size), Near tolerance expected[i] actual[i]

/-- The least index at which the test fails. -/
structure FirstFar (tolerance : Float32) (expected actual : Array Float32) (i : Nat) : Prop where
  expected_lt : i < expected.size
  actual_lt : i < actual.size
  far : ¬ Near tolerance expected[i] actual[i]
  near : ∀ j (he : j < expected.size) (ha : j < actual.size), j < i →
    Near tolerance expected[j] actual[j]

/-- The largest of a number to start from and the differences of some pairs. -/
structure IsLargest (largest : Float32) (pairs : List (Float32 × Float32)) (m : Float32) :
    Prop where
  least : largest ≤ m
  le : ∀ p ∈ pairs, (p.1 - p.2).abs ≤ m
  attained : m = largest ∨ ∃ p ∈ pairs, m = (p.1 - p.2).abs

section Walk

variable {tolerance e a : Float32}

theorem isNear_iff : isNear tolerance e (e - a).abs = true ↔ Near tolerance e a :=
  decide_eq_true_iff

/-- A difference that passes the test is a number. -/
theorem Near.isNaN_abs_sub (h : Near tolerance e a) : (e - a).abs.isNaN = false :=
  (Single.le_iff.mp h).1

/-- No number is near to a NaN, and no NaN to a number. -/
theorem not_near_of_isNaN (h : e.isNaN = true ∨ a.isNaN = true) : ¬ Near tolerance e a := by
  intro hnear
  have hdefined := hnear.isNaN_abs_sub
  rw [Single.isNaN_abs (Single.isNaN_sub h)] at hdefined
  cases hdefined

theorem compareFrom_cons_near (h : Near tolerance e a) (index : Nat) (largest : Float32)
    (rest : List (Float32 × Float32)) :
    compareFrom tolerance index largest ((e, a) :: rest) =
      compareFrom tolerance (index + 1) (Single.max largest (e - a).abs) rest :=
  if_pos (isNear_iff.mpr h)

theorem compareFrom_cons_far (h : ¬ Near tolerance e a) (index : Nat) (largest : Float32)
    (rest : List (Float32 × Float32)) :
    compareFrom tolerance index largest ((e, a) :: rest) =
      .error (.element index e a (e - a).abs) :=
  if_neg (mt isNear_iff.mp h)

/-- Pairs that pass the test are walked through to the end, and the largest difference comes out. -/
theorem compareFrom_of_near {pairs : List (Float32 × Float32)}
    (h : ∀ p ∈ pairs, Near tolerance p.1 p.2) (index : Nat) {largest : Float32}
    (hlargest : largest.isNaN = false) :
    ∃ m, compareFrom tolerance index largest pairs = .ok m ∧ IsLargest largest pairs m := by
  induction pairs generalizing index largest with
  | nil =>
      refine ⟨largest, rfl, Single.le_rfl_of_isNaN hlargest, ?_, .inl rfl⟩
      intro p hp
      cases hp
  | cons pair rest ih =>
      obtain ⟨e, a⟩ := pair
      have hnear : Near tolerance e a := h (e, a) List.mem_cons_self
      have hdiff := hnear.isNaN_abs_sub
      -- the maximum of two numbers is a number, so the walk goes on from one
      obtain ⟨m, hm, hlast⟩ := ih (fun p hp => h p (List.mem_cons_of_mem _ hp)) (index + 1)
        (Single.isNaN_max hlargest hdiff)
      refine ⟨m, (compareFrom_cons_near hnear index largest rest).trans hm,
        Single.le_trans (Single.le_max_left hlargest) hlast.least, ?_, ?_⟩
      · intro p hp
        rcases List.mem_cons.mp hp with rfl | hrest
        · exact Single.le_trans (Single.le_max_right hlargest hdiff) hlast.least
        · exact hlast.le p hrest
      · rcases hlast.attained with hmax | ⟨p, hp, hmp⟩
        · rcases Single.max_cases largest (e - a).abs with hleft | hright
          · exact .inl (hmax.trans hleft)
          · exact .inr ⟨(e, a), List.mem_cons_self, hmax.trans hright⟩
        · exact .inr ⟨p, List.mem_cons_of_mem _ hp, hmp⟩

/-- The walk stops at the first pair that fails the test, whatever comes after it. -/
theorem compareFrom_of_far {before : List (Float32 × Float32)}
    (h : ∀ p ∈ before, Near tolerance p.1 p.2) (hfar : ¬ Near tolerance e a) (index : Nat)
    (largest : Float32) (rest : List (Float32 × Float32)) :
    compareFrom tolerance index largest (before ++ (e, a) :: rest) =
      .error (.element (index + before.length) e a (e - a).abs) := by
  induction before generalizing index largest with
  | nil => exact compareFrom_cons_far hfar index largest rest
  | cons pair before ih =>
      obtain ⟨e', a'⟩ := pair
      have hnear : Near tolerance e' a' := h (e', a') List.mem_cons_self
      rw [List.cons_append, compareFrom_cons_near hnear,
        ih (fun p hp => h p (List.mem_cons_of_mem _ hp)), List.length_cons, Nat.add_assoc,
        Nat.add_comm 1]

end Walk

section Outputs

variable {tolerance : Float32} {expected actual : Array Float32}

/-- The pairs of elements that a comparison walks through. -/
def pairsOf (expected actual : Array Float32) : List (Float32 × Float32) :=
  expected.toList.zip actual.toList

theorem length_pairsOf : (pairsOf expected actual).length = min expected.size actual.size :=
  List.length_zip

theorem lt_length_pairsOf {i : Nat} (he : i < expected.size) (ha : i < actual.size) :
    i < (pairsOf expected actual).length := by
  rw [length_pairsOf]
  omega

theorem getElem_pairsOf {i : Nat} (hi : i < (pairsOf expected actual).length)
    (he : i < expected.size) (ha : i < actual.size) :
    (pairsOf expected actual)[i] = (expected[i], actual[i]) :=
  List.getElem_zip

theorem exists_of_mem_pairsOf {p : Float32 × Float32} (hp : p ∈ pairsOf expected actual) :
    ∃ i, ∃ (he : i < expected.size) (ha : i < actual.size), p = (expected[i], actual[i]) := by
  obtain ⟨i, hi, rfl⟩ := List.getElem_of_mem hp
  have hmin := length_pairsOf ▸ hi
  exact ⟨i, by omega, by omega, getElem_pairsOf hi _ _⟩

/-- Outputs of one length agree, or there is a least index at which the test fails. -/
theorem agree_or_firstFar (hsize : expected.size = actual.size) :
    Agree tolerance expected actual ∨ ∃ i, FirstFar tolerance expected actual i := by
  by_cases hfar : ∃ i, ∃ (he : i < expected.size) (ha : i < actual.size),
      ¬ Near tolerance expected[i] actual[i]
  · classical
    obtain ⟨he, ha, hleast⟩ := Nat.find_spec hfar
    refine .inr ⟨Nat.find hfar, he, ha, hleast, fun j hej haj hj => ?_⟩
    by_contra hnot
    exact Nat.find_min hfar hj ⟨hej, haj, hnot⟩
  · refine .inl ⟨hsize, fun i he ha => ?_⟩
    by_contra hnot
    exact hfar ⟨i, he, ha, hnot⟩

theorem FirstFar.not_agree {i : Nat} (h : FirstFar tolerance expected actual i) :
    ¬ Agree tolerance expected actual := fun hagree =>
  h.far (hagree.near i h.expected_lt h.actual_lt)

theorem Agree.compareOutputs_eq (h : Agree tolerance expected actual) :
    ∃ m, compareOutputs tolerance expected actual = .ok m ∧
      IsLargest 0.0 (pairsOf expected actual) m := by
  have hnear : ∀ p ∈ pairsOf expected actual, Near tolerance p.1 p.2 := by
    intro p hp
    obtain ⟨i, he, ha, rfl⟩ := exists_of_mem_pairsOf hp
    exact h.near i he ha
  have hzero : (0.0 : Float32).isNaN = false := by decide +kernel
  obtain ⟨m, hm, hlargest⟩ := compareFrom_of_near hnear 0 hzero
  refine ⟨m, ?_, hlargest⟩
  rw [compareOutputs, if_neg (not_not.mpr h.size_eq)]
  exact hm

theorem FirstFar.compareOutputs_eq (hsize : expected.size = actual.size) {i : Nat}
    (h : FirstFar tolerance expected actual i) (he : i < expected.size) (ha : i < actual.size) :
    compareOutputs tolerance expected actual =
      .error (.element i expected[i] actual[i] (expected[i] - actual[i]).abs) := by
  have hlength := lt_length_pairsOf he ha
  have hbefore : ∀ p ∈ (pairsOf expected actual).take i, Near tolerance p.1 p.2 := by
    intro p hp
    obtain ⟨j, hj, rfl⟩ := List.mem_take_iff_getElem.mp hp
    rw [getElem_pairsOf (by omega) (by omega) (by omega)]
    exact h.near j (by omega) (by omega) (by omega)
  have hwalk := compareFrom_of_far hbefore h.far 0 0.0 ((pairsOf expected actual).drop (i + 1))
  rw [← getElem_pairsOf hlength he ha, ← List.drop_eq_getElem_cons hlength,
    List.take_append_drop, List.length_take, Nat.zero_add, Nat.min_eq_left hlength.le] at hwalk
  rw [compareOutputs, if_neg (not_not.mpr hsize)]
  exact hwalk

/-- The report on two outputs that do not agree: their lengths if these differ, and the elements at
the least index that fails the test otherwise. -/
inductive Reported (tolerance : Float32) (expected actual : Array Float32) :
    Discrepancy → Prop where
  | length (hsize : expected.size ≠ actual.size) :
      Reported tolerance expected actual (.length expected.size actual.size)
  | element (hsize : expected.size = actual.size) {i : Nat} (he : i < expected.size)
      (ha : i < actual.size) (hfirst : FirstFar tolerance expected actual i) :
      Reported tolerance expected actual
        (.element i expected[i] actual[i] (expected[i] - actual[i]).abs)

theorem Reported.not_agree {d : Discrepancy} (h : Reported tolerance expected actual d) :
    ¬ Agree tolerance expected actual := by
  cases h with
  | length hsize => exact fun hagree => hsize hagree.size_eq
  | element hsize he ha hfirst => exact hfirst.not_agree

theorem Reported.compareOutputs_eq {d : Discrepancy} (h : Reported tolerance expected actual d) :
    compareOutputs tolerance expected actual = .error d := by
  cases h with
  | length hsize => exact if_pos hsize
  | element hsize he ha hfirst => exact hfirst.compareOutputs_eq hsize he ha

theorem agree_or_reported (tolerance : Float32) (expected actual : Array Float32) :
    Agree tolerance expected actual ∨ ∃ d, Reported tolerance expected actual d := by
  by_cases hsize : expected.size = actual.size
  · refine (agree_or_firstFar hsize).imp_right ?_
    rintro ⟨i, hfirst⟩
    exact ⟨_, .element hsize hfirst.expected_lt hfirst.actual_lt hfirst⟩
  · exact .inr ⟨_, .length hsize⟩

theorem compareOutputs_eq_error_iff {d : Discrepancy} :
    compareOutputs tolerance expected actual = .error d ↔
      Reported tolerance expected actual d := by
  refine ⟨fun herror => ?_, Reported.compareOutputs_eq⟩
  rcases agree_or_reported tolerance expected actual with hagree | ⟨d', hreported⟩
  · obtain ⟨m, hm, -⟩ := hagree.compareOutputs_eq
    cases hm.symm.trans herror
  · cases hreported.compareOutputs_eq.symm.trans herror
    exact hreported

theorem exists_compareOutputs_eq_ok_iff :
    (∃ m, compareOutputs tolerance expected actual = .ok m) ↔
      Agree tolerance expected actual := by
  constructor
  · rintro ⟨m, hm⟩
    refine (agree_or_reported tolerance expected actual).resolve_right ?_
    rintro ⟨d, hreported⟩
    cases hreported.compareOutputs_eq.symm.trans hm
  · intro hagree
    obtain ⟨m, hm, -⟩ := hagree.compareOutputs_eq
    exact ⟨m, hm⟩

theorem isLargest_of_compareOutputs {m : Float32}
    (h : compareOutputs tolerance expected actual = .ok m) :
    IsLargest 0.0 (pairsOf expected actual) m := by
  obtain ⟨m', hm', hlargest⟩ := (exists_compareOutputs_eq_ok_iff.mp ⟨m, h⟩).compareOutputs_eq
  cases hm'.symm.trans h
  exact hlargest

/-- Outputs do not agree where one of them holds a NaN. -/
theorem Agree.isNaN_eq (h : Agree tolerance expected actual) :
    (∀ x ∈ expected, x.isNaN = false) ∧ ∀ x ∈ actual, x.isNaN = false := by
  have hnumbers : ∀ i (he : i < expected.size) (ha : i < actual.size),
      ¬ (expected[i].isNaN = true ∨ actual[i].isNaN = true) := fun i he ha hnan =>
    not_near_of_isNaN hnan (h.near i he ha)
  have hsize := h.size_eq
  constructor
  · intro x hx
    obtain ⟨i, hi, rfl⟩ := Array.getElem_of_mem hx
    exact Bool.eq_false_iff.mpr fun hnan => hnumbers i hi (by omega) (.inl hnan)
  · intro x hx
    obtain ⟨i, hi, rfl⟩ := Array.getElem_of_mem hx
    exact Bool.eq_false_iff.mpr fun hnan => hnumbers i (by omega) hi (.inr hnan)

end Outputs

/-- The text of a report on an element starts with its index. -/
theorem Discrepancy.message_element (i : Nat) (e a difference : Float32) :
    ∃ rest, (Discrepancy.element i e a difference).message = s!"element {i}: " ++ rest := by
  have hcolon : toString ": expected=" = toString ": " ++ toString "expected=" := by decide
  delta message
  simp only [hcolon, String.append_assoc]
  exact ⟨_, rfl⟩

/-- What a comparison says, for any two outputs and any tolerance, infinite and undefined ones
included.  It succeeds just if the lengths are equal and the test holds at every index; the number
that it gives is then an upper bound of the differences, and zero or one of them.  Otherwise it
reports the two lengths, or the least index at which the test fails, and the text of the report
names them.  A NaN anywhere makes it fail. -/
theorem compareOutputs_decides (tolerance : Float32) (expected actual : Array Float32) :
    ((∃ m, compareOutputs tolerance expected actual = .ok m) ↔
        expected.size = actual.size ∧
          ∀ i (he : i < expected.size) (ha : i < actual.size),
            (expected[i] - actual[i]).abs ≤ tolerance * Single.max expected[i].abs 1.0) ∧
      (∀ m, compareOutputs tolerance expected actual = .ok m →
        (∀ i (he : i < expected.size) (ha : i < actual.size),
            (expected[i] - actual[i]).abs ≤ m) ∧
          (m = 0.0 ∨ ∃ i, ∃ (he : i < expected.size) (ha : i < actual.size),
            m = (expected[i] - actual[i]).abs)) ∧
      (∀ d, compareOutputs tolerance expected actual = .error d ↔
        Reported tolerance expected actual d) ∧
      (∀ d, compareOutputs tolerance expected actual = .error d →
        expected.size ≠ actual.size ∧ d.message =
            s!"length mismatch: expected {expected.size} elements, got {actual.size}" ∨
          expected.size = actual.size ∧ ∃ i rest, FirstFar tolerance expected actual i ∧
            d.message = s!"element {i}: " ++ rest) ∧
      ((∃ x ∈ expected, x.isNaN = true) ∨ (∃ x ∈ actual, x.isNaN = true) →
        ∃ d, compareOutputs tolerance expected actual = .error d) := by
  refine ⟨?_, ?_, fun d => compareOutputs_eq_error_iff, ?_, ?_⟩
  · rw [exists_compareOutputs_eq_ok_iff]
    exact ⟨fun h => ⟨h.size_eq, h.near⟩, fun h => ⟨h.1, h.2⟩⟩
  · intro m hm
    have hlargest := isLargest_of_compareOutputs hm
    constructor
    · intro i he ha
      have hlength := lt_length_pairsOf he ha
      have hle := hlargest.le _ (List.getElem_mem hlength)
      rwa [getElem_pairsOf hlength he ha] at hle
    · refine hlargest.attained.imp_right ?_
      rintro ⟨p, hp, hm⟩
      obtain ⟨i, he, ha, rfl⟩ := exists_of_mem_pairsOf hp
      exact ⟨i, he, ha, hm⟩
  · intro d herror
    cases compareOutputs_eq_error_iff.mp herror with
    | length hsize => exact .inl ⟨hsize, rfl⟩
    | element hsize he ha hfirst =>
        obtain ⟨rest, hmessage⟩ := Discrepancy.message_element _ _ _ _
        exact .inr ⟨hsize, _, rest, hfirst, hmessage⟩
  · intro hnan
    have hdisagree : ¬ Agree tolerance expected actual := by
      intro hagree
      rcases hnan with ⟨x, hx, hnan⟩ | ⟨x, hx, hnan⟩
      · cases hnan.symm.trans (hagree.isNaN_eq.1 x hx)
      · cases hnan.symm.trans (hagree.isNaN_eq.2 x hx)
    obtain ⟨d, hreported⟩ := (agree_or_reported tolerance expected actual).resolve_left hdisagree
    exact ⟨d, hreported.compareOutputs_eq⟩

/-- A first element within the tolerance does not save an output whose second one is a NaN. -/
theorem compareOutputs_decides_undefined :
    (∃ m, compareOutputs 0.001 #[100.0] #[100.05] = .ok m) ∧
      (0.0 / 0.0 : Float32).isNaN = true ∧
      FirstFar 0.001 #[100.0, 1.0] #[100.05, 0.0 / 0.0] 1 ∧
      ∃ d, compareOutputs 0.001 #[100.0, 1.0] #[100.05, 0.0 / 0.0] = .error d := by
  have hnan : (0.0 / 0.0 : Float32).isNaN = true := by decide +kernel
  have hfirst : Near 0.001 100.0 100.05 := by
    show _ ≤ _
    decide +kernel
  refine ⟨(compareOutputs_decides _ _ _).1.mpr ⟨by simp, ?_⟩, hnan, ⟨by simp, by simp, ?_, ?_⟩,
    (compareOutputs_decides _ _ _).2.2.2.2 (.inr ⟨0.0 / 0.0, by simp, hnan⟩)⟩
  · intro i he ha
    obtain rfl : i = 0 := by simpa using he
    exact hfirst
  · exact not_near_of_isNaN (.inr hnan)
  · intro j he ha hj
    obtain rfl : j = 0 := by omega
    exact hfirst

end ConvLab
