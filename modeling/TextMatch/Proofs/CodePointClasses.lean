import Mathlib.Data.Char
import Mathlib.Order.RelClasses
import TextMatch.CodePointClass
import TextMatch.Proofs.AscendingLists
import TextMatch.Proofs.Bisections

/-!
# Classes of listed code points

A class of listed code points has just these members, in whatever order and however often they are
listed: they are kept in ascending order, in which bisection misses none of them.
-/

namespace TextMatch

namespace CodePointClass

/-- How a listed code point answers when another one is looked for. -/
def compareWith (char member : Char) : Ordering :=
  if member < char then .lt
  else if char < member then .gt
  else .eq

theorem compareWith_eq_eq_iff {char member : Char} :
    compareWith char member = .eq ↔ member = char := by
  rw [compareWith]
  by_cases before : member < char
  · simp [before, before.ne]
  · by_cases behind : char < member
    · simp [before, behind, behind.ne']
    · have same : member = char := le_antisymm (not_lt.mp behind) (not_lt.mp before)
      simp [same]

theorem inOrder_compareWith {left right : Char} (less : left < right) (char : Char) :
    InOrder (compareWith char) left right := by
  constructor
  · intro isRight
    rw [compareWith_eq_eq_iff] at isRight
    rw [compareWith, if_pos (isRight ▸ less)]
  · intro isLeft
    rw [compareWith_eq_eq_iff] at isLeft
    subst isLeft
    rw [compareWith, if_neg (lt_asymm less), if_pos less]

theorem probesItems_compareAt (chars : List Char) (char : Char) :
    ProbesItems (compareAt chars.toArray char) chars (compareWith char) := by
  intro place
  rw [compareAt, List.getElem?_toArray]
  cases chars[place]? <;> rfl

theorem contains_oneOf_iff (chars : List Char) (char : Char) :
    (oneOf chars).contains char = true ↔ char ∈ chars := by
  have inOrder : (ascending chars).Pairwise (InOrder (compareWith char)) :=
    (pairwise_ascending chars).imp fun less => inOrder_compareWith less char
  rw [oneOf, contains, List.size_toArray, (probesItems_compareAt _ char).bisect_iff inOrder]
  simp only [compareWith_eq_eq_iff, exists_eq_right, mem_ascending_iff]

/-! ## Complements -/

theorem contains_not (members : CodePointClass) (char : Char) :
    members.not.contains char = !members.contains char := by
  cases members with
  | complement inner => rw [not, contains, Bool.not_not]
  | any => rfl
  | literal expected => rfl
  | listed chars => rfl
  | range first last => rfl
  | set members => rfl
  | anyOf classes => rfl

theorem contains_noneOf_iff (chars : List Char) (char : Char) :
    (noneOf chars).contains char = true ↔ char ∉ chars := by
  rw [noneOf, contains_not, Bool.not_eq_true', ← Bool.not_eq_true, contains_oneOf_iff]

end CodePointClass

end TextMatch
