import TextMatch.Proofs.Bisections
import TextMatch.Text.CodePointSet

/-!
# Bisection of canonical ranges

Ranges in canonical form ascend and lie apart, so that bisection finds the one range that has a code
point, if there is one.
-/

namespace TextMatch

namespace CodePointRange

variable {ranges : List CodePointRange} {range : CodePointRange} {code : Nat}

/-- How a range answers when a number is looked for. -/
def compareWith (code : Nat) (range : CodePointRange) : Ordering :=
  if range.last < code then .lt
  else if code < range.first then .gt
  else .eq

theorem compareWith_eq_eq_iff :
    compareWith code range = .eq ↔ range.first ≤ code ∧ code ≤ range.last := by
  rw [compareWith]
  by_cases before : range.last < code
  · simp only [before, if_true, reduceCtorEq, false_iff]
    omega
  · by_cases behind : code < range.first
    · simp only [before, behind, if_false, if_true, reduceCtorEq, false_iff]
      omega
    · simp only [before, behind, if_false, true_iff]
      omega

theorem inOrder_compareWith {left right : CodePointRange} (apart : Apart left right)
    (nonempty : right.first ≤ right.last) (code : Nat) :
    InOrder (compareWith code) left right := by
  rw [Apart] at apart
  constructor
  · intro isRight
    rw [compareWith_eq_eq_iff] at isRight
    rw [compareWith, if_pos (by omega)]
  · intro isLeft
    rw [compareWith_eq_eq_iff] at isLeft
    rw [compareWith, if_neg (by omega), if_pos (by omega)]

theorem IsCanonical.inOrder (isCanonical : IsCanonical ranges) (code : Nat) :
    ranges.Pairwise (InOrder (compareWith code)) := by
  apply isCanonical.apart.imp_of_mem
  intro left right _ isRight apart
  exact inOrder_compareWith apart (isCanonical.nonempty right isRight) code

end CodePointRange

namespace CodePointSet

open CodePointRange

theorem probesItems_compareAt (ranges : List CodePointRange) (char : Char) :
    ProbesItems (compareAt ⟨ranges.toArray⟩ char) ranges (compareWith char.toNat) := by
  intro place
  rw [compareAt, List.getElem?_toArray]
  cases ranges[place]? <;> rfl

/-- A set has the code points that one of its ranges has. -/
theorem contains_iff_of_isCanonical {ranges : List CodePointRange} (isCanonical : IsCanonical ranges)
    (char : Char) :
    contains ⟨ranges.toArray⟩ char = true ↔ Covers ranges char.toNat := by
  rw [contains, List.size_toArray,
    (probesItems_compareAt _ char).bisect_iff (isCanonical.inOrder char.toNat)]
  simp only [compareWith_eq_eq_iff, Covers]

end CodePointSet

end TextMatch
