import Mathlib.Data.List.Pairwise
import TextMatch.Text.CodePointRange

/-!
# Canonical forms

A list of ranges in canonical form is determined by the numbers that it covers: each of its ranges
reaches as far as they do, on either side.
-/

namespace TextMatch

/-- Of two items of a list, one stands before the other. -/
theorem related_of_mem {alpha : Type} {items : List alpha} {related : alpha → alpha → Prop}
    (pairwise : items.Pairwise related) {first second : alpha} (isFirst : first ∈ items)
    (isSecond : second ∈ items) (different : first ≠ second) :
    related first second ∨ related second first := by
  have eitherWay : items.Pairwise fun first second => related first second ∨ related second first :=
    pairwise.imp Or.inl
  have symmetric : Std.Symm fun first second => related first second ∨ related second first :=
    ⟨fun _ _ => Or.symm⟩
  exact eitherWay.forall isFirst isSecond different

namespace CodePointRange

variable {ranges others rest : List CodePointRange} {range other : CodePointRange}
variable {code : Nat}

/-! ## The ends of ranges -/

/-- No two ranges touch, so that the numbers on either side of a range are not covered. -/
theorem IsCanonical.not_covers_beside (isCanonical : IsCanonical ranges) (member : range ∈ ranges)
    (beside : code + 1 = range.first ∨ code = range.last + 1) : ¬ Covers ranges code := by
  intro covers
  rcases covers with ⟨other, isOther, starts, ends⟩
  have isNonempty := isCanonical.nonempty range member
  have different : range ≠ other := by
    intro same
    rw [same] at beside
    omega
  rcases related_of_mem isCanonical.apart member isOther different with apart | apart
  · rw [Apart] at apart
    omega
  · rw [Apart] at apart
    omega

theorem exists_last_eq (covers : Covers ranges code) (notBehind : ¬ Covers ranges (code + 1)) :
    ∃ range ∈ ranges, range.last = code := by
  rcases covers with ⟨range, member, starts, ends⟩
  have notInside : ¬ code + 1 ≤ range.last := fun inside =>
    notBehind ⟨range, member, Nat.le_succ_of_le starts, inside⟩
  exact ⟨range, member, by omega⟩

theorem exists_first_eq (covers : Covers ranges (code + 1)) (notBefore : ¬ Covers ranges code) :
    ∃ range ∈ ranges, range.first = code + 1 := by
  rcases covers with ⟨range, member, starts, ends⟩
  have notInside : ¬ range.first ≤ code := fun inside =>
    notBefore ⟨range, member, inside, Nat.le_of_succ_le ends⟩
  exact ⟨range, member, by omega⟩

/-! ## Uniqueness -/

theorem IsCanonical.first_le_of_covers (isCanonical : IsCanonical (range :: rest))
    (covers : Covers (range :: rest) code) : range.first ≤ code := by
  rcases covers_cons_iff.mp covers with inside | behind
  · exact inside.1
  · have isNonempty := isCanonical.nonempty range List.mem_cons_self
    have isBehind := isCanonical.lt_of_covers_tail behind
    omega

/-- The last number of the first range is the last one up to which all numbers are covered. -/
theorem IsCanonical.last_le_of_same_first (isCanonical : IsCanonical (range :: rest))
    (sameFirst : range.first = other.first)
    (covered : ∀ code, Covers (other :: others) code → Covers (range :: rest) code) :
    other.last ≤ range.last := by
  by_contra beyond
  have isNonempty := isCanonical.nonempty range List.mem_cons_self
  have inOther : Covers (other :: others) (range.last + 1) :=
    ⟨other, List.mem_cons_self, by omega, by omega⟩
  exact isCanonical.not_covers_beside List.mem_cons_self (Or.inr rfl) (covered _ inOther)

theorem IsCanonical.head_eq_of_same_numbers (isCanonical : IsCanonical (range :: rest))
    (otherCanonical : IsCanonical (other :: others))
    (same : ∀ code, Covers (range :: rest) code ↔ Covers (other :: others) code) :
    range = other := by
  have sameFirst : range.first = other.first := by
    apply Nat.le_antisymm
    · apply isCanonical.first_le_of_covers
      exact (same _).mpr (otherCanonical.covers_first List.mem_cons_self)
    · apply otherCanonical.first_le_of_covers
      exact (same _).mp (isCanonical.covers_first List.mem_cons_self)
  have sameLast : range.last = other.last := by
    apply Nat.le_antisymm
    · exact otherCanonical.last_le_of_same_first sameFirst.symm fun code =>
        (same code).mp
    · exact isCanonical.last_le_of_same_first sameFirst fun code =>
        (same code).mpr
  cases range
  cases other
  simp_all

/-- Two lists in canonical form that cover the same numbers are equal. -/
theorem IsCanonical.eq_of_same_numbers (isCanonical : IsCanonical ranges)
    (otherCanonical : IsCanonical others) (same : ∀ code, Covers ranges code ↔ Covers others code) :
    ranges = others := by
  induction ranges generalizing others with
  | nil =>
      cases others with
      | nil => rfl
      | cons other others =>
          have covers := otherCanonical.covers_first List.mem_cons_self
          exact (covers_nil_iff.mp ((same _).mpr covers)).elim
  | cons range rest inductionHypothesis =>
      cases others with
      | nil =>
          have covers := isCanonical.covers_first List.mem_cons_self
          exact (covers_nil_iff.mp ((same _).mp covers)).elim
      | cons other others =>
          have sameHead := isCanonical.head_eq_of_same_numbers otherCanonical same
          subst sameHead
          have sameBehind : ∀ code, Covers rest code ↔ Covers others code := by
            intro code
            constructor
            · intro covers
              have behind := isCanonical.lt_of_covers_tail covers
              have either := (same code).mp (covers_cons_iff.mpr (Or.inr covers))
              exact (covers_cons_iff.mp either).resolve_left (by omega)
            · intro covers
              have behind := otherCanonical.lt_of_covers_tail covers
              have either := (same code).mpr (covers_cons_iff.mpr (Or.inr covers))
              exact (covers_cons_iff.mp either).resolve_left (by omega)
          rw [inductionHypothesis isCanonical.tail otherCanonical.tail sameBehind]

end CodePointRange

end TextMatch
