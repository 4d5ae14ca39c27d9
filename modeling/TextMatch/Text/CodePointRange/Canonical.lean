import TextMatch.Text.CodePointRange

/-!
# Canonical forms of ranges

The canonical form of a list of ranges covers the same numbers as the list.  The gaps between its
ranges cover all the others.
-/

namespace TextMatch.CodePointRange

/-- Joins `current` with the ranges behind it that overlap or touch it.  The ranges ascend by their
first code points, none of which lies before `current`. -/
def absorb (current : CodePointRange) : List CodePointRange → List CodePointRange
  | [] => [current]
  | next :: rest =>
      if next.first ≤ current.last + 1 then
        absorb ⟨current.first, max current.last next.last⟩ rest
      else
        current :: absorb next rest

/-- The ranges that are not empty, in the order of their first numbers. -/
def sorted (ranges : List CodePointRange) : List CodePointRange :=
  (ranges.filter fun range => decide (range.first ≤ range.last)).mergeSort
    fun left right => decide (left.first ≤ right.first)

/-- The canonical form of a list of ranges: ascending, none empty, no two touching. -/
def canonical (ranges : List CodePointRange) : List CodePointRange :=
  match sorted ranges with
  | [] => []
  | range :: rest => absorb range rest

/-- The code points from `next` on that are in none of the ranges, which are in canonical form and
start at `next` or behind it. -/
def gapsFrom (next : Nat) : List CodePointRange → List CodePointRange
  | [] => if next ≤ greatest then [⟨next, greatest⟩] else []
  | range :: rest =>
      let gap := if next < range.first then [⟨next, range.first - 1⟩] else []
      gap ++ gapsFrom (range.last + 1) rest

variable {ranges rest : List CodePointRange} {current next range : CodePointRange}
variable {code start : Nat}

/-! ## Absorption -/

/-- The one range starts no later than the other. -/
def StartsBy (left right : CodePointRange) : Prop :=
  left.first ≤ right.first

/-- A range that takes in the next one starts no later than those behind it. -/
theorem startsBy_of_joined (ascending : (current :: next :: rest).Pairwise StartsBy) (last : Nat) :
    (⟨current.first, last⟩ :: rest).Pairwise StartsBy := by
  have parts := List.pairwise_cons.mp ascending
  apply List.pairwise_cons.mpr
  constructor
  · intro later member
    exact parts.1 later (List.mem_cons_of_mem next member)
  · exact parts.2.tail

/-- Absorption neither loses a number nor adds one: what is joined overlaps or touches. -/
theorem covers_absorb (ascending : (current :: rest).Pairwise StartsBy) :
    Covers (absorb current rest) code ↔ Covers (current :: rest) code := by
  fun_induction absorb current rest with
  | case1 current => rfl
  | case2 current next rest touches inductionHypothesis =>
      have inOrder : current.first ≤ next.first :=
        List.rel_of_pairwise_cons ascending List.mem_cons_self
      rw [inductionHypothesis (startsBy_of_joined ascending _), covers_cons_iff, covers_cons_iff,
        covers_cons_iff, ← or_assoc]
      apply or_congr_left
      dsimp only
      omega
  | case3 current next rest apart inductionHypothesis =>
      rw [covers_cons_iff, covers_cons_iff, inductionHypothesis ascending.tail]

theorem startsBy_of_mem_absorb (ascending : (current :: rest).Pairwise StartsBy)
    (member : range ∈ absorb current rest) : StartsBy current range := by
  fun_induction absorb current rest with
  | case1 current =>
      rw [List.mem_singleton.mp member]
      exact Nat.le_refl _
  | case2 current next rest touches inductionHypothesis =>
      exact inductionHypothesis (startsBy_of_joined ascending _) member
  | case3 current next rest apart inductionHypothesis =>
      rcases List.mem_cons.mp member with same | behind
      · rw [same]
        exact Nat.le_refl _
      · have inOrder : StartsBy current next :=
          List.rel_of_pairwise_cons ascending List.mem_cons_self
        exact Nat.le_trans inOrder (inductionHypothesis ascending.tail behind)

theorem isCanonical_absorb (ascending : (current :: rest).Pairwise StartsBy)
    (nonempty : ∀ range ∈ current :: rest, range.first ≤ range.last) :
    IsCanonical (absorb current rest) := by
  fun_induction absorb current rest with
  | case1 current => exact ⟨nonempty, List.pairwise_singleton _ _⟩
  | case2 current next rest touches inductionHypothesis =>
      apply inductionHypothesis (startsBy_of_joined ascending _)
      intro range member
      rcases List.mem_cons.mp member with same | behind
      · have isNonempty := nonempty current List.mem_cons_self
        rw [same]
        dsimp only
        omega
      · exact nonempty range (List.mem_cons_of_mem _ (List.mem_cons_of_mem _ behind))
  | case3 current next rest apart inductionHypothesis =>
      have behind := inductionHypothesis ascending.tail fun range member =>
        nonempty range (List.mem_cons_of_mem current member)
      constructor
      · intro range member
        rcases List.mem_cons.mp member with same | later
        · rw [same]
          exact nonempty current List.mem_cons_self
        · exact behind.nonempty range later
      · apply List.pairwise_cons.mpr
        refine ⟨?_, behind.apart⟩
        intro range member
        have startsBehind : next.first ≤ range.first :=
          startsBy_of_mem_absorb ascending.tail member
        exact Nat.lt_of_lt_of_le (Nat.not_le.mp apart) startsBehind

/-! ## The canonical form -/

theorem mem_sorted_iff :
    range ∈ sorted ranges ↔ range ∈ ranges ∧ range.first ≤ range.last := by
  rw [sorted, List.mem_mergeSort, List.mem_filter, decide_eq_true_eq]

theorem pairwise_sorted (ranges : List CodePointRange) : (sorted ranges).Pairwise StartsBy := by
  have transitive : ∀ left middle right : CodePointRange,
      decide (left.first ≤ middle.first) = true → decide (middle.first ≤ right.first) = true →
        decide (left.first ≤ right.first) = true := by
    intro left middle right
    simp only [decide_eq_true_eq]
    exact Nat.le_trans
  have total : ∀ left right : CodePointRange,
      (decide (left.first ≤ right.first) || decide (right.first ≤ left.first)) = true := by
    intro left right
    simp only [Bool.or_eq_true, decide_eq_true_eq]
    exact Nat.le_total left.first right.first
  have inOrder := List.pairwise_mergeSort transitive total
    (ranges.filter fun range => decide (range.first ≤ range.last))
  exact inOrder.imp of_decide_eq_true

theorem isCanonical_canonical (ranges : List CodePointRange) : IsCanonical (canonical ranges) := by
  have ascending := pairwise_sorted ranges
  have nonempty : ∀ range ∈ sorted ranges, range.first ≤ range.last := fun range member =>
    (mem_sorted_iff.mp member).2
  rw [canonical]
  generalize sorted ranges = inOrder at ascending nonempty ⊢
  cases inOrder with
  | nil => exact isCanonical_nil
  | cons current rest => exact isCanonical_absorb ascending nonempty

theorem covers_sorted_iff (ranges : List CodePointRange) (code : Nat) :
    Covers (sorted ranges) code ↔ Covers ranges code := by
  constructor
  · intro covers
    rcases covers with ⟨range, member, bounds⟩
    exact ⟨range, (mem_sorted_iff.mp member).1, bounds⟩
  · intro covers
    rcases covers with ⟨range, member, bounds⟩
    exact ⟨range, mem_sorted_iff.mpr ⟨member, Nat.le_trans bounds.1 bounds.2⟩, bounds⟩

theorem covers_canonical_iff : Covers (canonical ranges) code ↔ Covers ranges code := by
  have ascending := pairwise_sorted ranges
  rw [← covers_sorted_iff ranges, canonical]
  generalize sorted ranges = inOrder at ascending ⊢
  cases inOrder with
  | nil => rfl
  | cons current rest => exact covers_absorb ascending

theorem isUnionOf_canonical (members : List CodePointRange) :
    IsUnionOf members (canonical members) where
  isCanonical := isCanonical_canonical members
  covers_iff := fun _ => covers_canonical_iff

/-! ## Gaps -/

/-- The gaps behind a number cover what the ranges do not cover, up to the greatest one. -/
theorem covers_gapsFrom_iff (isCanonical : IsCanonical ranges)
    (behind : ∀ range ∈ ranges, start ≤ range.first)
    (bounded : ∀ range ∈ ranges, range.last ≤ greatest) :
    Covers (gapsFrom start ranges) code ↔
      start ≤ code ∧ code ≤ greatest ∧ ¬ Covers ranges code := by
  induction ranges generalizing start with
  | nil =>
      rw [gapsFrom]
      split
      · simp [Covers]
      · rename_i past
        simp only [covers_nil_iff, not_false_eq_true, and_true, false_iff]
        omega
  | cons range rest inductionHypothesis =>
      have startsBehind := behind range List.mem_cons_self
      have isNonempty := isCanonical.nonempty range List.mem_cons_self
      have isBounded := bounded range List.mem_cons_self
      have gapIff : Covers (if start < range.first then [⟨start, range.first - 1⟩] else []) code ↔
          start ≤ code ∧ code < range.first := by
        split
        · rw [covers_singleton_iff]
          dsimp only
          omega
        · rw [covers_nil_iff, false_iff]
          omega
      have restIff := inductionHypothesis isCanonical.tail
        (fun later member => Nat.le_of_lt (List.rel_of_pairwise_cons isCanonical.apart member))
        (fun later member => bounded later (List.mem_cons_of_mem range member))
      have restBehind : Covers rest code → range.last + 1 < code := isCanonical.lt_of_covers_tail
      rw [gapsFrom, covers_append_iff, gapIff, restIff, covers_cons_iff]
      by_cases inRest : Covers rest code
      · have isBehind := restBehind inRest
        simp only [inRest, not_true_eq_false, and_false, or_false, or_true, iff_false]
        omega
      · simp only [inRest, not_false_eq_true, and_true, or_false]
        omega

end TextMatch.CodePointRange
