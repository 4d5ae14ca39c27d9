import TextMatch.Proofs.CanonicalForms
import TextMatch.Proofs.CodePointRanges
import TextMatch.Text.Category

/-!
# The tables of the categories

The numbers that the tables cover, around the surrogates in particular.  Of all categories only the
major class `C` goes on from U+D7FF, the last code point before them, to U+E000, the first one behind
them, over the numbers of the surrogates.  Hence the canonical ranges of a set of categories start
and end at code points.  Whatever parser builds it, a set has the code points that the tables have.
-/

namespace TextMatch

namespace Category

variable {category : Category}

theorem unassigned_mem_parts_iff :
    .unassigned ∈ category.parts ↔ category = .unassigned ∨ category = .other := by
  cases category <;> decide

theorem privateUse_mem_parts_iff :
    .privateUse ∈ category.parts ↔ category = .privateUse ∨ category = .other := by
  cases category <;> decide

end Category

namespace CategoryTables

open CodePointRange

variable {tables : CategoryTables} {categories : List Category} {ranges : List CodePointRange}
variable {range : CodePointRange} {code : Nat} {char : Char}

theorem has_iff_covers {category : Category} :
    tables.Has category char ↔ Covers (tables.ranges category.abbreviation) char.toNat := by
  simp only [Has, Covers, includes, Bool.and_eq_true, decide_eq_true_eq]

theorem covers_members_iff :
    Covers (tables.members categories) code ↔
      ∃ category ∈ categories, Covers (tables.ranges category.abbreviation) code :=
  covers_flatMap_iff

theorem covers_members_char_iff :
    Covers (tables.members categories) char.toNat ↔
      ∃ category ∈ categories, tables.Has category char := by
  simp only [covers_members_iff, has_iff_covers]

/-- A code point has a category if it has a part of the category. -/
theorem has_iff_exists_part {category : Category} :
    tables.Has category char ↔ ∃ part ∈ category.parts, tables.Has part char := by
  have valid : char.toNat.isValidChar := char.valid
  rw [Nat.isValidChar] at valid
  rw [has_iff_covers, tables.covers_iff]
  simp only [has_iff_covers]
  apply or_iff_left
  omega

/-! ## Around the surrogates -/

theorem covers_members_iff_part_or_surrogate :
    Covers (tables.members categories) code ↔
      (∃ category ∈ categories, ∃ part ∈ category.parts,
        Covers (tables.ranges part.abbreviation) code) ∨
        (.other ∈ categories ∧ 0xD800 ≤ code ∧ code ≤ 0xDFFF) := by
  rw [covers_members_iff]
  constructor
  · intro covers
    rcases covers with ⟨category, isListed, covers⟩
    rcases tables.covers_iff.mp covers with ofPart | ⟨isOther, surrogate⟩
    · exact Or.inl ⟨category, isListed, ofPart⟩
    · rw [isOther] at isListed
      exact Or.inr ⟨isListed, surrogate⟩
  · intro covers
    rcases covers with ⟨category, isListed, ofPart⟩ | ⟨isListed, surrogate⟩
    · exact ⟨category, isListed, tables.covers_iff.mpr (Or.inl ofPart)⟩
    · exact ⟨.other, isListed, tables.covers_iff.mpr (Or.inr ⟨rfl, surrogate⟩)⟩

/-- What only one part of `C` has is in a set if the part is listed or `C` is. -/
theorem covers_iff_of_only {only : Category}
    (isPart : ∀ {category : Category},
      only ∈ category.parts ↔ category = only ∨ category = .other)
    (covers_part_iff : ∀ {category part : Category}, part ∈ category.parts →
      (Covers (tables.ranges part.abbreviation) code ↔ part = only))
    (notSurrogate : ¬ (0xD800 ≤ code ∧ code ≤ 0xDFFF)) :
    Covers (tables.members categories) code ↔ only ∈ categories ∨ .other ∈ categories := by
  rw [covers_members_iff_part_or_surrogate]
  constructor
  · intro covers
    rcases covers with ⟨category, isListed, part, ofCategory, covers⟩ | surrogate
    · rw [(covers_part_iff ofCategory).mp covers] at ofCategory
      rcases isPart.mp ofCategory with same | same
      · exact Or.inl (same ▸ isListed)
      · exact Or.inr (same ▸ isListed)
    · exact absurd surrogate.2 notSurrogate
  · have covered : ∀ {category : Category}, only ∈ category.parts →
        Covers (tables.ranges only.abbreviation) code := fun ofCategory =>
      (covers_part_iff ofCategory).mpr rfl
    intro isListed
    rcases isListed with isListed | isListed
    · have ofCategory := isPart.mpr (Or.inl rfl)
      exact Or.inl ⟨only, isListed, only, ofCategory, covered ofCategory⟩
    · have ofCategory := isPart.mpr (Or.inr rfl)
      exact Or.inl ⟨.other, isListed, only, ofCategory, covered ofCategory⟩

/-- The last code point before the surrogates is in a set that has unassigned code points. -/
theorem covers_members_before_surrogates_iff :
    Covers (tables.members categories) 0xD7FF ↔
      .unassigned ∈ categories ∨ .other ∈ categories :=
  covers_iff_of_only Category.unassigned_mem_parts_iff tables.covers_before_surrogates_iff
    (by decide)

/-- The first code point behind the surrogates is in a set that has private use. -/
theorem covers_members_behind_surrogates_iff :
    Covers (tables.members categories) 0xE000 ↔
      .privateUse ∈ categories ∨ .other ∈ categories :=
  covers_iff_of_only Category.privateUse_mem_parts_iff tables.covers_behind_surrogates_iff
    (by decide)

/-- Only the major class `C` has the numbers of the surrogates. -/
theorem covers_members_surrogate_iff (atLeast : 0xD800 ≤ code) (atMost : code ≤ 0xDFFF) :
    Covers (tables.members categories) code ↔ .other ∈ categories := by
  rw [covers_members_iff_part_or_surrogate]
  constructor
  · intro covers
    rcases covers with ⟨category, isListed, part, isPart, covers⟩ | surrogate
    · have valid := tables.isValidChar_of_covers isPart covers
      rw [Nat.isValidChar] at valid
      omega
    · exact surrogate.1
  · exact fun isListed => Or.inr ⟨isListed, atLeast, atMost⟩

theorem le_greatest_of_covers_members (covers : Covers (tables.members categories) code) :
    code ≤ greatest := by
  rw [greatest]
  rcases covers_members_iff_part_or_surrogate.mp covers with
    ⟨category, isListed, part, isPart, covers⟩ | found
  · have valid := tables.isValidChar_of_covers isPart covers
    rw [Nat.isValidChar] at valid
    omega
  · omega

/-- `C` goes on over the surrogates, from the code point before them to the one behind. -/
theorem covers_members_around_surrogates (isListed : .other ∈ categories) (atLeast : 0xD7FF ≤ code)
    (atMost : code ≤ 0xE000) : Covers (tables.members categories) code := by
  by_cases isBefore : code = 0xD7FF
  · rw [isBefore]
    exact covers_members_before_surrogates_iff.mpr (Or.inr isListed)
  · by_cases isBehind : code = 0xE000
    · rw [isBehind]
      exact covers_members_behind_surrogates_iff.mpr (Or.inr isListed)
    · exact (covers_members_surrogate_iff (by omega) (by omega)).mpr isListed

/-- The canonical ranges of a set of categories start and end at code points. -/
theorem isValidChar_of_isUnionOf (isUnion : IsUnionOf (tables.members categories) ranges)
    (member : range ∈ ranges) : range.first.isValidChar ∧ range.last.isValidChar := by
  have coversFirst := (isUnion.covers_iff _).mp (isUnion.isCanonical.covers_first member)
  have coversLast := (isUnion.covers_iff _).mp (isUnion.isCanonical.covers_last member)
  have firstAtMost := le_greatest_of_covers_members coversFirst
  have lastAtMost := le_greatest_of_covers_members coversLast
  rw [greatest] at firstAtMost lastAtMost
  rw [Nat.isValidChar, Nat.isValidChar]
  constructor
  · by_contra invalid
    have isListed := (covers_members_surrogate_iff (by omega) (by omega)).mp coversFirst
    have before : range.first - 1 + 1 = range.first := by omega
    apply isUnion.isCanonical.not_covers_beside member (Or.inl before)
    exact (isUnion.covers_iff _).mpr
      (covers_members_around_surrogates isListed (by omega) (by omega))
  · by_contra invalid
    have isListed := (covers_members_surrogate_iff (by omega) (by omega)).mp coversLast
    apply isUnion.isCanonical.not_covers_beside member (Or.inr rfl)
    exact (isUnion.covers_iff _).mpr
      (covers_members_around_surrogates isListed (by omega) (by omega))

end CategoryTables

/-! ## The union of tables -/

open CodePointRange

/-- A parsed class that is a union has its ranges. -/
theorem ParsedClass.IsUnion.ranges {members : List CodePointRange} {parsed : ParsedClass}
    (isUnion : parsed.IsUnion members) : IsUnionOf members parsed.ranges := by
  cases parsed with
  | set ranges => exact isUnion
  | literal text =>
      rcases isUnion with ⟨char, textEq, sameNumbers⟩
      have rangesEq : (ParsedClass.literal text).ranges = [⟨char.toNat, char.toNat⟩] := by
        rw [textEq, ParsedClass.ranges, String.toList_singleton, List.map_singleton]
      rw [rangesEq]
      refine ⟨isCanonical_singleton (Nat.le_refl _), ?_⟩
      intro code
      rw [covers_singleton_iff, ← sameNumbers]
      dsimp only
      omega
  | other => exact ⟨isCanonical_nil, fun code => iff_of_false covers_nil_iff.mp (isUnion code)⟩

namespace Category

variable {tables : CategoryTables}

/-- The set of any categories can be built: no item is refused, and no class is lost because it was
simplified or because there are no items. -/
theorem exists_union (parser : ClassParser tables) (categories : List Category) :
    ∃ ranges, union parser categories = .ok ⟨ranges.toArray⟩ ∧
      IsUnionOf (tables.members categories) ranges := by
  cases categories with
  | nil => exact ⟨[], rfl, isCanonical_nil, fun code => Iff.rfl⟩
  | cons category rest =>
      rcases parser.parse_class (List.cons_ne_nil category rest) with ⟨parsed, parsedEq, isUnion⟩
      have hasItems : (classItems (category :: rest)).isEmpty = false := by
        rw [Bool.eq_false_iff, Ne, String.isEmpty_iff]
        simp [classItems, String.join_cons]
      refine ⟨parsed.ranges, ?_, isUnion.ranges⟩
      simp only [union, hasItems, parsedEq]
      rfl

/-- A set contains the code points of the listed categories. -/
theorem contains_iff_of_union {parser : ClassParser tables} {categories : List Category}
    {set : CodePointSet} (built : union parser categories = .ok set) (char : Char) :
    set.contains char = true ↔ ∃ category ∈ categories, tables.Has category char := by
  rcases exists_union parser categories with ⟨ranges, unionEq, isUnion⟩
  rw [built, Except.ok.injEq] at unionEq
  rw [unionEq, CodePointSet.contains_iff_of_isCanonical isUnion.isCanonical, isUnion.covers_iff,
    CategoryTables.covers_members_char_iff]

end Category

end TextMatch
