import Mathlib.Data.Set.Insert
import Mathlib.Order.Interval.Set.Defs
import TextMatch.Proofs.CategoryTables
import TextMatch.Proofs.CodePointClasses
import TextMatch.Proofs.ReadySteps

/-!
# Classes as sets

A class of code points is built from code points, lists, ranges and categories by union and
complement, to any depth.  What it contains is the set that its description denotes, and to match it
is to capture one code point of that set.
-/

namespace TextMatch

namespace CodePointClass

variable {char : Char}

/-! ## Descriptions of classes -/

/-- The ways to describe a class. -/
inductive Description where
  | any
  | literal (char : Char)
  | oneOf (chars : List Char)
  | noneOf (chars : List Char)
  | range (first last : Char)
  | ofCategories (categories : List Category)
  | anyOf (descriptions : List Description)
  | not (inner : Description)

namespace Description

mutual

/-- The class that is built as described. -/
def toClass {tables : CategoryTables} (parser : ClassParser tables) :
    Description → Except BuildFailure CodePointClass
  | .any => .ok .any
  | .literal char => .ok (.literal char)
  | .oneOf chars => .ok (CodePointClass.oneOf chars)
  | .noneOf chars => .ok (CodePointClass.noneOf chars)
  | .range first last => .ok (.range first last)
  | .ofCategories categories => CodePointClass.ofCategories parser categories
  | .anyOf descriptions => do
      let classes ← toClasses parser descriptions
      return .anyOf classes
  | .not inner => do
      let members ← inner.toClass parser
      return members.not

def toClasses {tables : CategoryTables} (parser : ClassParser tables) :
    List Description → Except BuildFailure (List CodePointClass)
  | [] => .ok []
  | first :: rest => do
      let members ← first.toClass parser
      let classes ← toClasses parser rest
      return members :: classes

end

mutual

/-- The set that a description denotes. -/
def members (tables : CategoryTables) : Description → Set Char
  | .any => Set.univ
  | .literal char => {char}
  | .oneOf chars => {char | char ∈ chars}
  | .noneOf chars => {char | char ∈ chars}ᶜ
  | .range first last => Set.Icc first last
  | .ofCategories categories => {char | ∃ category ∈ categories, tables.Has category char}
  | .anyOf descriptions => union tables descriptions
  | .not inner => (inner.members tables)ᶜ

/-- The union of the sets that descriptions denote. -/
def union (tables : CategoryTables) : List Description → Set Char
  | [] => ∅
  | first :: rest => first.members tables ∪ union tables rest

end

end Description

/-! ## Classes and sets -/

variable {tables : CategoryTables}

theorem exists_ofCategories (parser : ClassParser tables) (categories : List Category) :
    ∃ members, ofCategories parser categories = .ok members ∧
      ∀ char, members.contains char = true ↔ ∃ category ∈ categories, tables.Has category char := by
  rcases Category.exists_union parser categories with ⟨ranges, unionEq, -⟩
  refine ⟨.set ⟨ranges.toArray⟩, by rw [ofCategories, unionEq], ?_⟩
  intro char
  rw [contains, Category.contains_iff_of_union unionEq]

namespace Description

mutual

theorem exists_toClass (parser : ClassParser tables) : ∀ description : Description,
    ∃ members, description.toClass parser = .ok members ∧
      ∀ char, members.contains char = true ↔ char ∈ description.members tables
  | .any => ⟨.any, by rw [toClass], fun char => iff_of_true rfl (Set.mem_univ char)⟩
  | .literal expected => by
      refine ⟨.literal expected, by rw [toClass], ?_⟩
      intro char
      rw [contains, members, beq_iff_eq, Set.mem_singleton_iff, eq_comm]
  | .oneOf chars => ⟨.oneOf chars, by rw [toClass], contains_oneOf_iff chars⟩
  | .noneOf chars => ⟨.noneOf chars, by rw [toClass], contains_noneOf_iff chars⟩
  | .range first last => by
      refine ⟨.range first last, by rw [toClass], ?_⟩
      intro char
      rw [contains, members, Bool.and_eq_true, decide_eq_true_eq, decide_eq_true_eq, Set.mem_Icc]
  | .ofCategories categories => by
      rw [toClass]
      exact exists_ofCategories parser categories
  | .anyOf descriptions => by
      rcases exists_toClasses parser descriptions with ⟨classes, toClassesEq, contained⟩
      refine ⟨.anyOf classes, by rw [toClass, toClassesEq]; rfl, ?_⟩
      intro char
      rw [contains, members, contained]
  | .not inner => by
      rcases exists_toClass parser inner with ⟨members, toClassEq, contained⟩
      refine ⟨members.not, by rw [toClass, toClassEq]; rfl, ?_⟩
      intro char
      rw [contains_not, Description.members, Set.mem_compl_iff, ← contained, Bool.not_eq_true',
        Bool.not_eq_true]

theorem exists_toClasses (parser : ClassParser tables) : ∀ descriptions : List Description,
    ∃ classes, toClasses parser descriptions = .ok classes ∧
      ∀ char, anyContains classes char = true ↔ char ∈ union tables descriptions
  | [] => ⟨[], by rw [toClasses], fun char => iff_of_false Bool.false_ne_true (Set.notMem_empty char)⟩
  | first :: rest => by
      rcases exists_toClass parser first with ⟨members, toClassEq, contained⟩
      rcases exists_toClasses parser rest with ⟨classes, toClassesEq, anyContained⟩
      refine ⟨members :: classes, by rw [toClasses, toClassEq, toClassesEq]; rfl, ?_⟩
      intro char
      rw [anyContains, Bool.or_eq_true, union, Set.mem_union, contained, anyContained]

end

end Description

end CodePointClass

/-! ## Matching a class -/

namespace Matcher

variable {cursor next : Cursor}

theorem run_codePoint_of_refused (members : CodePointClass) {failure : Failure}
    (refused : cursor.requireMatchable = .error failure) :
    (Matcher.codePoint members).run cursor = .failed failure := by
  rw [run, step, Step.codePoint, Step.guarded_of_refused refused, Outcome.map]

/-- Where matching may go on, a class captures one code point of its own or does not match. -/
theorem run_codePoint_of_matchable (members : CodePointClass)
    (matchable : cursor.requireMatchable = .ok ()) :
    (Matcher.codePoint members).run cursor =
      match cursor.view.decodeAt cursor.position with
      | none => .noMatch
      | some (char, count) =>
          if members.contains char then .matched (cursor.moved count) else .noMatch := by
  rw [run, step, Step.codePoint_of_matchable members matchable]
  cases cursor.view.decodeAt cursor.position with
  | none => rfl
  | some found =>
      dsimp only
      split
      · rfl
      · rfl

theorem run_codePoint_eq_matched_iff (members : CodePointClass) :
    (Matcher.codePoint members).run cursor = .matched next ↔
      cursor.requireMatchable = .ok () ∧
        ∃ char count, cursor.view.decodeAt cursor.position = some (char, count) ∧
          members.contains char = true ∧ next = cursor.moved count := by
  constructor
  · intro matched
    cases matchable : cursor.requireMatchable with
    | error failure =>
        rw [run_codePoint_of_refused members matchable] at matched
        contradiction
    | ok =>
        rw [run_codePoint_of_matchable members matchable] at matched
        cases decoded : cursor.view.decodeAt cursor.position with
        | none =>
            rw [decoded] at matched
            contradiction
        | some found =>
            rw [decoded] at matched
            by_cases isMember : members.contains found.1 = true
            · have moved : cursor.moved found.2 = next := by simpa [isMember] using matched
              exact ⟨rfl, found.1, found.2, rfl, isMember, moved.symm⟩
            · simp [isMember] at matched
  · intro captures
    rcases captures with ⟨matchable, char, count, decoded, isMember, moved⟩
    rw [run_codePoint_of_matchable members matchable, decoded, moved]
    exact if_pos isMember

theorem run_codePoint_eq_failed_iff (members : CodePointClass) {failure : Failure} :
    (Matcher.codePoint members).run cursor = .failed failure ↔
      cursor.requireMatchable = .error failure := by
  cases matchable : cursor.requireMatchable with
  | error refusal =>
      rw [run_codePoint_of_refused members matchable, Outcome.failed.injEq, Except.error.injEq]
  | ok =>
      refine iff_of_false ?_ (by simp)
      rw [run_codePoint_of_matchable members matchable]
      cases cursor.view.decodeAt cursor.position with
      | none => simp
      | some found =>
          by_cases isMember : members.contains found.1 = true
          · simp [isMember]
          · simp [isMember]

end Matcher

/-- Every description is that of a class, which contains the code points of the set that the
description denotes.  It matches just where one of them is decoded, if matching may go on there, and
captures the units of that code point. -/
theorem classes_contain_what_they_denote {tables : CategoryTables} (parser : ClassParser tables)
    (description : CodePointClass.Description) :
    ∃ members, description.toClass parser = .ok members ∧
      (∀ char, members.contains char = true ↔ char ∈ description.members tables) ∧
      ∀ cursor : Cursor,
        (∀ next, (Matcher.codePoint members).run cursor = .matched next ↔
          cursor.requireMatchable = .ok () ∧
            ∃ char count, cursor.view.decodeAt cursor.position = some (char, count) ∧
              char ∈ description.members tables ∧ next = cursor.moved count) ∧
          ∀ failure, (Matcher.codePoint members).run cursor = .failed failure ↔
            cursor.requireMatchable = .error failure := by
  rcases description.exists_toClass parser with ⟨members, toClassEq, contained⟩
  refine ⟨members, toClassEq, contained, ?_⟩
  intro cursor
  constructor
  · intro next
    rw [Matcher.run_codePoint_eq_matched_iff]
    simp only [contained]
  · exact fun failure => Matcher.run_codePoint_eq_failed_iff _

end TextMatch
