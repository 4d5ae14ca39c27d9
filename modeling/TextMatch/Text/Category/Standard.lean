import TextMatch.Text.Category
import TextMatch.Text.Category.Letter
import TextMatch.Text.Category.Mark
import TextMatch.Text.Category.Number
import TextMatch.Text.Category.Punctuation
import TextMatch.Text.Category.Symbol
import TextMatch.Text.CodePointRange.Canonical

/-!
# The standard tables

The tables of version 16.0 of Unicode.  The unassigned code points are those that have no other
category.
-/

namespace TextMatch

namespace Category

open CodePointRange

variable {category part : Category} {code : Nat}

/-- The code points with an assigned category, and the surrogates. -/
def assignedRanges : List CodePointRange :=
  uppercaseLetterRanges ++ lowercaseLetterRanges ++ titlecaseLetterRanges ++
    modifierLetterRanges ++ otherLetterRanges ++ nonspacingMarkRanges ++ spacingMarkRanges ++
    enclosingMarkRanges ++ decimalNumberRanges ++ letterNumberRanges ++ otherNumberRanges ++
    connectorPunctuationRanges ++ dashPunctuationRanges ++ openPunctuationRanges ++
    closePunctuationRanges ++ initialPunctuationRanges ++ finalPunctuationRanges ++
    otherPunctuationRanges ++ mathSymbolRanges ++ currencySymbolRanges ++ modifierSymbolRanges ++
    otherSymbolRanges ++ spaceSeparatorRanges ++ lineSeparatorRanges ++
    paragraphSeparatorRanges ++ controlRanges ++ formatRanges ++ privateUseRanges ++
    surrogateRanges

/-- The code points without an assigned category. -/
def unassignedRanges : List CodePointRange :=
  CodePointRange.gapsFrom 0 (CodePointRange.canonical assignedRanges)

/-- The code points of a category, and for `C` the surrogates. -/
def standardRanges : Category → List CodePointRange
  | .uppercaseLetter => uppercaseLetterRanges
  | .lowercaseLetter => lowercaseLetterRanges
  | .titlecaseLetter => titlecaseLetterRanges
  | .modifierLetter => modifierLetterRanges
  | .otherLetter => otherLetterRanges
  | .nonspacingMark => nonspacingMarkRanges
  | .spacingMark => spacingMarkRanges
  | .enclosingMark => enclosingMarkRanges
  | .decimalNumber => decimalNumberRanges
  | .letterNumber => letterNumberRanges
  | .otherNumber => otherNumberRanges
  | .connectorPunctuation => connectorPunctuationRanges
  | .dashPunctuation => dashPunctuationRanges
  | .openPunctuation => openPunctuationRanges
  | .closePunctuation => closePunctuationRanges
  | .initialPunctuation => initialPunctuationRanges
  | .finalPunctuation => finalPunctuationRanges
  | .otherPunctuation => otherPunctuationRanges
  | .mathSymbol => mathSymbolRanges
  | .currencySymbol => currencySymbolRanges
  | .modifierSymbol => modifierSymbolRanges
  | .otherSymbol => otherSymbolRanges
  | .spaceSeparator => spaceSeparatorRanges
  | .lineSeparator => lineSeparatorRanges
  | .paragraphSeparator => paragraphSeparatorRanges
  | .control => controlRanges
  | .format => formatRanges
  | .privateUse => privateUseRanges
  | .unassigned => unassignedRanges
  | .letter =>
      uppercaseLetterRanges ++ lowercaseLetterRanges ++ titlecaseLetterRanges ++
        modifierLetterRanges ++ otherLetterRanges
  | .mark => nonspacingMarkRanges ++ spacingMarkRanges ++ enclosingMarkRanges
  | .number => decimalNumberRanges ++ letterNumberRanges ++ otherNumberRanges
  | .punctuation =>
      connectorPunctuationRanges ++ dashPunctuationRanges ++ openPunctuationRanges ++
        closePunctuationRanges ++ initialPunctuationRanges ++ finalPunctuationRanges ++
        otherPunctuationRanges
  | .symbol =>
      mathSymbolRanges ++ currencySymbolRanges ++ modifierSymbolRanges ++ otherSymbolRanges
  | .separator => spaceSeparatorRanges ++ lineSeparatorRanges ++ paragraphSeparatorRanges
  | .other =>
      controlRanges ++ formatRanges ++ privateUseRanges ++ surrogateRanges ++ unassignedRanges

/-- The table with a name. -/
def standardRangesNamed (name : String) : List CodePointRange :=
  match ofAbbreviation? name with
  | some category => category.standardRanges
  | none => []

theorem standardRangesNamed_abbreviation (category : Category) :
    standardRangesNamed category.abbreviation = category.standardRanges := by
  rw [standardRangesNamed, ofAbbreviation?_abbreviation]

theorem covers_surrogateRanges_iff :
    Covers surrogateRanges code ↔ 0xD800 ≤ code ∧ code ≤ 0xDFFF :=
  covers_singleton_iff

theorem covers_standardRanges_iff :
    Covers category.standardRanges code ↔
      (∃ part ∈ category.parts, Covers part.standardRanges code) ∨
        (category = .other ∧ 0xD800 ≤ code ∧ code ≤ 0xDFFF) := by
  cases category <;>
    simp only [parts, standardRanges, covers_append_iff, covers_surrogateRanges_iff, List.mem_cons,
      List.not_mem_nil, or_false, exists_eq_or_imp, exists_eq_left, reduceCtorEq, false_and,
      true_and, or_assoc]
  -- The surrogates stand before the unassigned code points in the table of `C`.
  rw [or_comm (a := 0xD800 ≤ code ∧ code ≤ 0xDFFF)]

/-! ## Around the surrogates -/

/-- The categories that have a table of their own, unlike the unassigned code points. -/
def assigned : List Category :=
  [.uppercaseLetter, .lowercaseLetter, .titlecaseLetter, .modifierLetter, .otherLetter,
    .nonspacingMark, .spacingMark, .enclosingMark, .decimalNumber, .letterNumber, .otherNumber,
    .connectorPunctuation, .dashPunctuation, .openPunctuation, .closePunctuation,
    .initialPunctuation, .finalPunctuation, .otherPunctuation, .mathSymbol, .currencySymbol,
    .modifierSymbol, .otherSymbol, .spaceSeparator, .lineSeparator, .paragraphSeparator, .control,
    .format, .privateUse]

/-- The tables end before U+D7FF or start behind the surrogates, and behind U+E000 but for private
use. -/
theorem tables_beside_surrogates :
    ∀ category ∈ assigned, ∀ range ∈ category.standardRanges, range.last < 0xD7FF ∨
      (0xE000 ≤ range.first ∧ range.last ≤ greatest ∧
        (range.first = 0xE000 → category = .privateUse)) := by
  decide +kernel

theorem covers_assigned (isAssigned : category ∈ assigned)
    (covers : Covers category.standardRanges code) :
    code < 0xD7FF ∨
      (0xE000 ≤ code ∧ code ≤ greatest ∧ (code = 0xE000 → category = .privateUse)) := by
  rcases covers with ⟨range, member, starts, ends⟩
  rcases tables_beside_surrogates category isAssigned range member with before | behind
  · exact Or.inl (Nat.lt_of_le_of_lt ends before)
  · refine Or.inr ⟨Nat.le_trans behind.1 starts, Nat.le_trans ends behind.2.1, ?_⟩
    intro isFirst
    exact behind.2.2 (by omega)

theorem covers_privateUse : Covers (standardRanges .privateUse) 0xE000 := by
  decide

/-! ## Unassigned code points -/

theorem covers_assignedRanges_iff :
    Covers assignedRanges code ↔
      (∃ category ∈ assigned, Covers category.standardRanges code) ∨
        (0xD800 ≤ code ∧ code ≤ 0xDFFF) := by
  unfold assignedRanges
  simp only [assigned, standardRanges, covers_append_iff, covers_surrogateRanges_iff, List.mem_cons,
    List.not_mem_nil, or_false, exists_eq_or_imp, exists_eq_left, or_assoc]

theorem le_greatest_of_covers_assignedRanges (covers : Covers assignedRanges code) :
    code ≤ greatest := by
  rcases covers_assignedRanges_iff.mp covers with ⟨category, isAssigned, covers⟩ | surrogate
  · have bounds := covers_assigned isAssigned covers
    rw [greatest] at bounds ⊢
    omega
  · exact Nat.le_trans surrogate.2 (by decide)

/-- What has no other category, and is no surrogate, is unassigned. -/
theorem covers_unassignedRanges_iff :
    Covers unassignedRanges code ↔ code ≤ greatest ∧ ¬ Covers assignedRanges code := by
  have isCanonical := isCanonical_canonical assignedRanges
  have bounded : ∀ range ∈ canonical assignedRanges, range.last ≤ greatest := by
    intro range member
    have covers := covers_canonical_iff.mp (isCanonical.covers_last member)
    exact le_greatest_of_covers_assignedRanges covers
  rw [unassignedRanges, covers_gapsFrom_iff isCanonical (fun _ _ => Nat.zero_le _) bounded,
    covers_canonical_iff]
  simp only [Nat.zero_le, true_and]

theorem covers_unassigned : Covers (standardRanges .unassigned) 0xD7FF := by
  apply covers_unassignedRanges_iff.mpr
  refine ⟨by decide, ?_⟩
  intro covers
  rcases covers_assignedRanges_iff.mp covers with ⟨category, isAssigned, covers⟩ | surrogate
  · have bounds := covers_assigned isAssigned covers
    omega
  · omega

theorem eq_unassigned_or_mem_assigned_of_mem_parts (isPart : part ∈ category.parts) :
    part = .unassigned ∨ part ∈ assigned := by
  cases category <;> revert part <;> decide

/-- What a part of a category has around the surrogates. -/
theorem covers_part (isPart : part ∈ category.parts) (covers : Covers part.standardRanges code) :
    code.isValidChar ∧ (code = 0xD7FF → part = .unassigned) ∧
      (code = 0xE000 → part = .privateUse) := by
  rw [Nat.isValidChar]
  rcases eq_unassigned_or_mem_assigned_of_mem_parts isPart with unassigned | isAssigned
  · subst unassigned
    rcases covers_unassignedRanges_iff.mp covers with ⟨atMost, notAssigned⟩
    have notSurrogate : ¬ (0xD800 ≤ code ∧ code ≤ 0xDFFF) := fun surrogate =>
      notAssigned (covers_assignedRanges_iff.mpr (Or.inr surrogate))
    have notPrivate : code ≠ 0xE000 := by
      intro isPrivate
      apply notAssigned
      rw [isPrivate]
      exact covers_assignedRanges_iff.mpr (Or.inl ⟨.privateUse, by decide, covers_privateUse⟩)
    rw [greatest] at atMost
    exact ⟨by omega, fun _ => rfl, fun isPrivate => absurd isPrivate notPrivate⟩
  · have bounds := covers_assigned isAssigned covers
    rw [greatest] at bounds
    refine ⟨by omega, fun isBefore => by omega, ?_⟩
    intro isPrivate
    exact (bounds.resolve_left (by omega)).2.2 isPrivate

end Category

open Category

/-- The tables of Unicode. -/
def CategoryTables.standard : CategoryTables where
  ranges := standardRangesNamed
  covers_iff := by
    intro category code
    simp only [standardRangesNamed_abbreviation]
    exact covers_standardRanges_iff
  isValidChar_of_covers := by
    intro category part code isPart covers
    rw [standardRangesNamed_abbreviation] at covers
    exact (covers_part isPart covers).1
  covers_before_surrogates_iff := by
    intro category part isPart
    rw [standardRangesNamed_abbreviation]
    constructor
    · exact fun covers => (covers_part isPart covers).2.1 rfl
    · exact fun unassigned => unassigned ▸ covers_unassigned
  covers_behind_surrogates_iff := by
    intro category part isPart
    rw [standardRangesNamed_abbreviation]
    constructor
    · exact fun covers => (covers_part isPart covers).2.2 rfl
    · exact fun privateUse => privateUse ▸ covers_privateUse

end TextMatch
