import Mathlib.Data.List.Nodup
import TextMatch.Text.Ascending

/-!
# Ascending lists as sets

The ascending list of a list's members is determined by them: neither the order of the list nor
repetitions in it matter.
-/

namespace TextMatch

variable {alpha : Type} [LT alpha] [DecidableLT alpha] {item other : alpha} {items : List alpha}

section

variable [Std.Trichotomous (α := alpha) (· < ·)]

theorem mem_insertAscending_iff :
    other ∈ insertAscending item items ↔ other = item ∨ other ∈ items := by
  fun_induction insertAscending item items with
  | case1 => rw [List.mem_singleton, or_iff_left List.not_mem_nil]
  | case2 head tail before => rw [List.mem_cons]
  | case3 head tail notBefore behind inductionHypothesis =>
      rw [List.mem_cons, inductionHypothesis, List.mem_cons, or_left_comm]
  | case4 head tail notBefore notBehind =>
      have same : item = head := Std.Trichotomous.trichotomous _ _ notBefore notBehind
      rw [same, List.mem_cons, ← or_assoc, or_self]

@[simp]
theorem mem_ascending_iff : other ∈ ascending items ↔ other ∈ items := by
  induction items with
  | nil => rfl
  | cons item items inductionHypothesis =>
      rw [ascending, List.foldr_cons, mem_insertAscending_iff, List.mem_cons]
      exact or_congr_right inductionHypothesis

end

variable [Std.Trichotomous (α := alpha) (· < ·)] [Trans (α := alpha) (· < ·) (· < ·) (· < ·)]

theorem pairwise_insertAscending (ordered : items.Pairwise (· < ·)) :
    (insertAscending item items).Pairwise (· < ·) := by
  fun_induction insertAscending item items with
  | case1 => exact List.pairwise_singleton _ _
  | case2 head tail before =>
      refine List.pairwise_cons.mpr ⟨?_, ordered⟩
      intro later member
      rcases List.mem_cons.mp member with rfl | member
      · exact before
      · exact Trans.trans before (List.rel_of_pairwise_cons ordered member)
  | case3 head tail notBefore behind inductionHypothesis =>
      obtain ⟨headLeast, tailOrdered⟩ := List.pairwise_cons.mp ordered
      refine List.pairwise_cons.mpr ⟨?_, inductionHypothesis tailOrdered⟩
      intro later member
      rcases mem_insertAscending_iff.mp member with rfl | member
      · exact behind
      · exact headLeast later member
  | case4 => exact ordered

theorem pairwise_ascending (items : List alpha) : (ascending items).Pairwise (· < ·) := by
  induction items with
  | nil => exact .nil
  | cons item items inductionHypothesis => exact pairwise_insertAscending inductionHypothesis

variable [Std.Irrefl (α := alpha) (· < ·)]

theorem nodup_ascending (items : List alpha) : (ascending items).Nodup := by
  apply (pairwise_ascending items).imp
  rintro item _ before rfl
  exact Std.Irrefl.irrefl item before

/-- Lists with the same members have the same ascending list. -/
theorem ascending_eq_of_same_members {items items' : List alpha}
    (same : ∀ item, item ∈ items ↔ item ∈ items') : ascending items = ascending items' := by
  have permuted : (ascending items).Perm (ascending items') := by
    rw [List.perm_ext_iff_of_nodup (nodup_ascending items) (nodup_ascending items')]
    intro item
    rw [mem_ascending_iff, mem_ascending_iff]
    exact same item
  apply permuted.eq_of_pairwise _ (pairwise_ascending items) (pairwise_ascending items')
  intro left right _ _ before behind
  exact absurd (Trans.trans before behind) (Std.Irrefl.irrefl left)

end TextMatch
