import TextMatch.Proofs.CategoryTables
import TextMatch.Text.Category.ClassParser
import TextMatch.Text.Category.Standard

/-!
# Sets of categories

The set of a list of categories has the code points of the listed categories, as ascending ranges
that bisection searches.  Two ranges are merged where no number stands between them.  The numbers of
the surrogates count here: where unassigned code points and private use are listed one by one, and
not as parts of `C`, one range ends at U+D7FF and the next one starts at U+E000, though there is no
code point between them.  Everywhere else a code point stands between any two ranges.
-/

namespace TextMatch

namespace CodePointRange

variable {left right : CodePointRange} {code : Nat}

/-- A code point stands between two ranges. -/
def Separated (left right : CodePointRange) : Prop :=
  ∃ char : Char, left.last < char.toNat ∧ char.toNat < right.first

/-- Only the surrogates stand between two ranges. -/
def MeetAtSurrogates (left right : CodePointRange) : Prop :=
  left.last = 0xD7FF ∧ right.first = 0xE000

theorem exists_char (valid : code.isValidChar) : ∃ char : Char, char.toNat = code :=
  ⟨Char.ofNatAux code valid, rfl⟩

theorem not_separated_of_meet (meet : MeetAtSurrogates left right) : ¬ Separated left right := by
  intro separated
  rcases separated with ⟨char, behind, before⟩
  rw [meet.1] at behind
  rw [meet.2] at before
  have valid : char.toNat.isValidChar := char.valid
  rw [Nat.isValidChar] at valid
  omega

/-- The number behind a range is that of a code point, unless the surrogates begin there. -/
theorem separated_or_meet (apart : Apart left right) (leftValid : left.last.isValidChar)
    (rightValid : right.first.isValidChar) :
    Separated left right ∨ MeetAtSurrogates left right := by
  rw [Apart] at apart
  rw [Nat.isValidChar] at leftValid rightValid
  by_cases atSurrogates : left.last = 0xD7FF
  · by_cases isBehind : right.first = 0xE000
    · exact Or.inr ⟨atSurrogates, isBehind⟩
    · have valid : Nat.isValidChar 0xE000 := by decide
      rcases exists_char valid with ⟨char, codeEq⟩
      exact Or.inl ⟨char, by omega, by omega⟩
  · have valid : (left.last + 1).isValidChar := by
      rw [Nat.isValidChar]
      omega
    rcases exists_char valid with ⟨char, codeEq⟩
    exact Or.inl ⟨char, by omega, by omega⟩

end CodePointRange

namespace Category

open CodePointRange

/-- Unassigned code points and private use are listed, but not as parts of `C`. -/
def SplitAtSurrogates (categories : List Category) : Prop :=
  .unassigned ∈ categories ∧ .privateUse ∈ categories ∧ .other ∉ categories

variable {tables : CategoryTables} {parser : ClassParser tables}
variable {categories others : List Category} {ranges : List CodePointRange}

/-! ## The shape of a set -/

theorem pairwise_separated_or_meet (isUnion : IsUnionOf (tables.members categories) ranges) :
    ranges.Pairwise fun left right => Separated left right ∨ MeetAtSurrogates left right := by
  apply isUnion.isCanonical.apart.imp_of_mem
  intro left right isLeft isRight apart
  exact separated_or_meet apart (CategoryTables.isValidChar_of_isUnionOf isUnion isLeft).2
    (CategoryTables.isValidChar_of_isUnionOf isUnion isRight).1

/-- Two ranges meet at the surrogates if the code points on either side are in the set and the
surrogates do not count as members. -/
theorem exists_meet_iff (isUnion : IsUnionOf (tables.members categories) ranges) :
    (∃ left ∈ ranges, ∃ right ∈ ranges, MeetAtSurrogates left right) ↔
      SplitAtSurrogates categories := by
  have before : Covers ranges 0xD7FF ↔ .unassigned ∈ categories ∨ .other ∈ categories := by
    rw [isUnion.covers_iff, CategoryTables.covers_members_before_surrogates_iff]
  have behind : Covers ranges 0xE000 ↔ .privateUse ∈ categories ∨ .other ∈ categories := by
    rw [isUnion.covers_iff, CategoryTables.covers_members_behind_surrogates_iff]
  have between : ∀ {code}, 0xD800 ≤ code → code ≤ 0xDFFF →
      (Covers ranges code ↔ .other ∈ categories) := by
    intro code atLeast atMost
    rw [isUnion.covers_iff, CategoryTables.covers_members_surrogate_iff atLeast atMost]
  constructor
  · intro meeting
    rcases meeting with ⟨left, isLeft, right, isRight, leftEnds, rightStarts⟩
    have coversLeft := isUnion.isCanonical.covers_last isLeft
    have coversRight := isUnion.isCanonical.covers_first isRight
    have notBehind := isUnion.isCanonical.not_covers_beside isLeft (Or.inr rfl)
    rw [leftEnds, before] at coversLeft
    rw [rightStarts, behind] at coversRight
    rw [leftEnds, between (by decide) (by decide)] at notBehind
    exact ⟨coversLeft.resolve_right notBehind, coversRight.resolve_right notBehind, notBehind⟩
  · intro split
    rcases split with ⟨hasUnassigned, hasPrivateUse, notListed⟩
    have notCovers : ∀ {code}, 0xD800 ≤ code → code ≤ 0xDFFF → ¬ Covers ranges code := by
      intro code atLeast atMost
      rwa [between atLeast atMost]
    rcases exists_last_eq (before.mpr (Or.inl hasUnassigned)) (notCovers (by decide) (by decide))
      with ⟨left, isLeft, leftEnds⟩
    rcases exists_first_eq (behind.mpr (Or.inl hasPrivateUse)) (notCovers (by decide) (by decide))
      with ⟨right, isRight, rightStarts⟩
    exact ⟨left, isLeft, right, isRight, leftEnds, rightStarts⟩

/-- Ranges that meet at the surrogates are not separated. -/
theorem not_pairwise_separated (isCanonical : IsCanonical ranges)
    (meeting : ∃ left ∈ ranges, ∃ right ∈ ranges, MeetAtSurrogates left right) :
    ¬ ranges.Pairwise Separated := by
  intro separated
  rcases meeting with ⟨left, isLeft, right, isRight, meet⟩
  have leftNonempty := isCanonical.nonempty left isLeft
  have rightNonempty := isCanonical.nonempty right isRight
  have ends := meet
  rw [MeetAtSurrogates] at ends
  have different : left ≠ right := by
    intro same
    rw [same] at ends
    omega
  rcases related_of_mem separated isLeft isRight different with between | between
  · exact not_separated_of_meet meet between
  · rcases between with ⟨char, behind, before⟩
    omega

/-! ## The members of a set -/

/-- The order of the list and repetitions in it do not matter. -/
theorem union_congr (same : ∀ category, category ∈ others ↔ category ∈ categories) :
    union parser others = union parser categories := by
  rcases exists_union parser others with ⟨left, leftEq, leftUnion⟩
  rcases exists_union parser categories with ⟨right, rightEq, rightUnion⟩
  have sameRanges : left = right := by
    apply leftUnion.isCanonical.eq_of_same_numbers rightUnion.isCanonical
    intro code
    rw [leftUnion.covers_iff, rightUnion.covers_iff, CategoryTables.covers_members_iff,
      CategoryTables.covers_members_iff]
    simp only [same]
  rw [leftEq, rightEq, sameRanges]

theorem contains_union_append {set otherSet : CodePointSet}
    (built : union parser categories = .ok set) (otherBuilt : union parser others = .ok otherSet) :
    ∃ united, union parser (categories ++ others) = .ok united ∧
      ∀ char, united.contains char = (set.contains char || otherSet.contains char) := by
  rcases exists_union parser (categories ++ others) with ⟨ranges, unionEq, -⟩
  refine ⟨_, unionEq, ?_⟩
  intro char
  rw [Bool.eq_iff_iff, Bool.or_eq_true, contains_iff_of_union unionEq, contains_iff_of_union built,
    contains_iff_of_union otherBuilt]
  simp only [List.mem_append, or_and_right, exists_or]

end Category

open Category CodePointRange

/-- The set of any categories can be built.  Its ranges start and end at code points and ascend,
with a code point between any two of them, but for two that meet at the surrogates if the categories
split there.  They include the code points of the parts of the listed categories, and bisection
finds these.  The set is the same in whatever order and however often categories are listed. -/
theorem category_sets_are_canonical_unions {tables : CategoryTables} (parser : ClassParser tables)
    (categories : List Category) :
    ∃ set, union parser categories = .ok set ∧
      (∀ range ∈ set.ranges, range.first ≤ range.last ∧
        range.first.isValidChar ∧ range.last.isValidChar) ∧
      (set.ranges.toList.Pairwise fun left right =>
        Separated left right ∨ MeetAtSurrogates left right) ∧
      ((∃ left ∈ set.ranges, ∃ right ∈ set.ranges, MeetAtSurrogates left right) ↔
        SplitAtSurrogates categories) ∧
      (∀ char, (∃ range ∈ set.ranges, range.includes char = true) ↔
        ∃ category ∈ categories, ∃ part ∈ category.parts, tables.Has part char) ∧
      (∀ char, set.contains char = true ↔
        ∃ range ∈ set.ranges, range.includes char = true) ∧
      (∀ others, (∀ category, category ∈ others ↔ category ∈ categories) →
        union parser others = .ok set) ∧
      ∀ others otherSet, union parser others = .ok otherSet →
        ∃ united, union parser (categories ++ others) = .ok united ∧
          ∀ char, united.contains char = (set.contains char || otherSet.contains char) := by
  rcases exists_union parser categories with ⟨ranges, built, isUnion⟩
  have included : ∀ char, (∃ range ∈ ranges, range.includes char = true) ↔
      Covers ranges char.toNat := by
    intro char
    simp only [Covers, includes, Bool.and_eq_true, decide_eq_true_eq]
  refine ⟨⟨ranges.toArray⟩, built, ?_⟩
  simp only [List.mem_toArray]
  refine ⟨?_, ?_, ?_, ?_, ?_, ?_, ?_⟩
  · intro range member
    exact ⟨isUnion.isCanonical.nonempty range member,
      CategoryTables.isValidChar_of_isUnionOf isUnion member⟩
  · exact pairwise_separated_or_meet isUnion
  · exact exists_meet_iff isUnion
  · intro char
    rw [included, isUnion.covers_iff, CategoryTables.covers_members_char_iff]
    simp only [← CategoryTables.has_iff_exists_part]
  · intro char
    rw [included, CodePointSet.contains_iff_of_isCanonical isUnion.isCanonical]
  · intro others same
    rw [union_congr same, built]
  · exact fun others otherSet otherBuilt => contains_union_append built otherBuilt

theorem category_sets_are_canonical_unions_of_relisted :
    let parser := ClassParser.uniting .standard
    let listed : List Category := [.unassigned, .separator, .privateUse, .lineSeparator]
    let relisted : List Category :=
      [.privateUse, .lineSeparator, .unassigned, .privateUse, .separator]
    (∀ category, category ∈ relisted ↔ category ∈ listed) ∧
      ∃ set, union parser listed = .ok set ∧ union parser relisted = .ok set ∧
        (∃ left ∈ set.ranges, ∃ right ∈ set.ranges, MeetAtSurrogates left right) ∧
        set.contains (Char.ofNat 0x2028) = true := by
  intro parser listed relisted
  have sameMembers : ∀ category, category ∈ relisted ↔ category ∈ listed := by
    intro category
    cases category <;> decide
  have isLineSeparator : CategoryTables.standard.Has .lineSeparator (Char.ofNat 0x2028) :=
    CategoryTables.has_iff_covers.mpr (by decide)
  rcases category_sets_are_canonical_unions parser listed with
    ⟨set, built, -, -, meeting, members, contained, same, -⟩
  have isMember := (members (Char.ofNat 0x2028)).mpr
    ⟨.separator, by decide, .lineSeparator, by decide, isLineSeparator⟩
  exact ⟨sameMembers, set, built, same relisted sameMembers,
    meeting.mpr ⟨by decide, by decide, by decide⟩, (contained _).mpr isMember⟩

/-- Unassigned code points and private use, listed one by one: no code point stands between the
range that ends at U+D7FF and the one that starts at U+E000. -/
theorem unassigned_meets_private_use :
    ∃ set, union (ClassParser.uniting .standard) [.unassigned, .privateUse] = .ok set ∧
      ¬ set.ranges.toList.Pairwise Separated := by
  rcases exists_union (ClassParser.uniting .standard) [.unassigned, .privateUse] with
    ⟨ranges, built, isUnion⟩
  have split : SplitAtSurrogates [.unassigned, .privateUse] :=
    ⟨by decide, by decide, by decide⟩
  exact ⟨_, built, not_pairwise_separated isUnion.isCanonical ((exists_meet_iff isUnion).mpr split)⟩

end TextMatch
