import Mathlib.Data.List.Basic

/-!
# Groups of a list

The elements of a list may be grouped by a key: the distinct keys in the order in which they come up
first, and under each key its elements in their order.  Nothing is lost and nothing comes twice.

* `FirstOccurrences`, `firstOccurrences_eraseDups` — the distinct elements of a list;
* `perm_flatMap_filter`, `perm_groups` — the groups together hold the elements.
-/

namespace ConvLab

/-! ### Distinct elements -/

/-- The second list holds the elements of the first once each, in the order in which the first has
them first. -/
structure FirstOccurrences {α : Type} [DecidableEq α] (xs ys : List α) : Prop where
  mem_iff : ∀ x, x ∈ ys ↔ x ∈ xs
  nodup : ys.Nodup
  ordered : ys.Pairwise fun x y => xs.idxOf x < xs.idxOf y

section Distinct

variable {α : Type} [DecidableEq α]

/-- Leaving out one element keeps the order of the others. -/
theorem idxOf_lt_of_idxOf_filter_lt {x y z : α} (hx : x ≠ z) (hy : y ≠ z) {xs : List α}
    (hlt : (xs.filter fun w => !w == z).idxOf x < (xs.filter fun w => !w == z).idxOf y) :
    xs.idxOf x < xs.idxOf y := by
  induction xs with
  | nil => exact absurd hlt (Nat.lt_irrefl _)
  | cons w xs ih =>
      by_cases hw : w = z
      · subst hw
        rw [List.filter_cons_of_neg (by simp)] at hlt
        rw [List.idxOf_cons_ne _ (Ne.symm hx), List.idxOf_cons_ne _ (Ne.symm hy)]
        exact Nat.succ_lt_succ (ih hlt)
      · rw [List.filter_cons_of_pos (by simp [hw])] at hlt
        by_cases hwy : w = y
        · rw [List.idxOf_cons_eq _ hwy] at hlt
          exact absurd hlt (Nat.not_lt_zero _)
        · rw [List.idxOf_cons_ne _ hwy] at hlt ⊢
          by_cases hwx : w = x
          · rw [List.idxOf_cons_eq _ hwx]
            exact Nat.succ_pos _
          · rw [List.idxOf_cons_ne _ hwx] at hlt ⊢
            exact Nat.succ_lt_succ (ih (Nat.lt_of_succ_lt_succ hlt))

theorem pairwise_eraseDups (xs : List α) :
    xs.eraseDups.Pairwise fun x y => xs.idxOf x < xs.idxOf y := by
  -- the list without its first element's copies is shorter, so the induction is on the length
  induction hn : xs.length using Nat.strongRecOn generalizing xs with
  | ind n ih =>
      cases xs with
      | nil => simp
      | cons z xs =>
          have hne : ∀ y ∈ (xs.filter fun w => !w == z).eraseDups, y ≠ z := by
            intro y hy
            simpa using (List.mem_filter.mp (List.mem_eraseDups.mp hy)).2
          have hshorter : (xs.filter fun w => !w == z).length < n := by
            rw [← hn]
            exact Nat.lt_succ_of_le (List.length_filter_le _ xs)
          rw [List.eraseDups_cons, List.pairwise_cons]
          constructor
          · intro y hy
            rw [List.idxOf_cons_self, List.idxOf_cons_ne _ (Ne.symm (hne y hy))]
            exact Nat.succ_pos _
          · apply List.Pairwise.imp_of_mem ?_ (ih _ hshorter _ rfl)
            intro x y hx hy hlt
            rw [List.idxOf_cons_ne _ (Ne.symm (hne x hx)),
              List.idxOf_cons_ne _ (Ne.symm (hne y hy))]
            exact Nat.succ_lt_succ (idxOf_lt_of_idxOf_filter_lt (hne x hx) (hne y hy) hlt)

theorem firstOccurrences_eraseDups (xs : List α) : FirstOccurrences xs xs.eraseDups where
  mem_iff _ := List.mem_eraseDups
  nodup := by
    apply (pairwise_eraseDups xs).imp
    intro x y hlt heq
    rw [heq] at hlt
    exact Nat.lt_irrefl _ hlt
  ordered := pairwise_eraseDups xs

end Distinct

/-! ### Groups -/

/-- Elements that are grouped by a key, each group in its order, are the same elements. -/
theorem perm_flatMap_filter {α κ : Type} [DecidableEq κ] (key : α → κ) (xs : List α)
    {keys : List κ} (hnodup : keys.Nodup) :
    (keys.flatMap fun k => xs.filter (key · = k)).Perm (xs.filter (key · ∈ keys)) := by
  induction keys with
  | nil => simp
  | cons k keys ih =>
      obtain ⟨hk, hnodup⟩ := List.nodup_cons.mp hnodup
      have hgroup : xs.filter (key · = k) = (xs.filter (key · ∈ k :: keys)).filter (key · = k) := by
        rw [List.filter_filter]
        apply List.filter_congr
        intro x _
        by_cases hx : key x = k
        · simp [hx]
        · simp [hx]
      have hothers : xs.filter (key · ∈ keys) =
          (xs.filter (key · ∈ k :: keys)).filter fun x => !decide (key x = k) := by
        rw [List.filter_filter]
        apply List.filter_congr
        intro x _
        by_cases hx : key x = k
        · simp [hx, hk]
        · simp [hx]
      rw [List.flatMap_cons]
      refine ((ih hnodup).append_left _).trans ?_
      rw [hgroup, hothers]
      exact List.filter_append_perm _ _

/-- The groups under all keys together hold every element once. -/
theorem perm_groups {α κ : Type} [DecidableEq κ] (key : α → κ) {xs : List α} {keys : List κ}
    (hnodup : keys.Nodup) (hkeys : ∀ x ∈ xs, key x ∈ keys) :
    (keys.flatMap fun k => xs.filter (key · = k)).Perm xs := by
  have hall : xs.filter (key · ∈ keys) = xs := by
    apply List.filter_eq_self.mpr
    intro x hx
    exact decide_eq_true (hkeys x hx)
  exact (perm_flatMap_filter key xs hnodup).trans (.of_eq hall)

end ConvLab
