import TextMatch.Text.Category
import TextMatch.Text.CodePointRange.Canonical

/-!
# A parser of classes of categories

A class in brackets is read item by item, and its members are the union of the tables with the names
that it lists, in canonical form.
-/

namespace TextMatch

open CodePointRange

/-! ## Simplified classes -/

/-- The class with the members of a list of ranges, in its simplest form. -/
def ParsedClass.ofRanges (members : List CodePointRange) : ParsedClass :=
  match canonical members with
  | [] => .other
  | [range] =>
      if range.first = range.last then .literal (String.singleton (Char.ofNat range.first))
      else .set [range]
  | several => .set several

theorem ParsedClass.isUnion_ofRanges {members : List CodePointRange}
    (valid : ∀ code, (∀ other, Covers members other ↔ other = code) → code.isValidChar) :
    (ofRanges members).IsUnion members := by
  have isUnion := isUnionOf_canonical members
  rw [ofRanges]
  split
  · rename_i empty
    intro code covers
    rw [← isUnion.covers_iff, empty] at covers
    exact covers_nil_iff.mp covers
  · rename_i range single
    rw [single] at isUnion
    split
    · rename_i isSingle
      have onlyNumber : ∀ other, Covers members other ↔ other = range.first := by
        intro other
        rw [← isUnion.covers_iff, covers_singleton_iff]
        omega
      have codeEq : (Char.ofNat range.first).toNat = range.first := by
        rw [Char.ofNat, dif_pos (valid range.first onlyNumber)]
        rfl
      refine ⟨Char.ofNat range.first, rfl, ?_⟩
      intro code
      rw [codeEq, onlyNumber]
    · exact isUnion
  · exact isUnion

/-! ## Reading a class -/

/-- The names that the items of a class list, up to the bracket that closes it.  Within an item, the
characters of its name that have been read so far are kept, the last one first. -/
def readItems : Option (List Char) → List Char → Option (List String)
  | none, [']'] => some []
  | none, '\\' :: 'p' :: '\x7b' :: rest => readItems (some []) rest
  | some name, '\x7d' :: rest => (readItems none rest).map (String.ofList name.reverse :: ·)
  | some name, char :: rest => readItems (some (char :: name)) rest
  | _, _ => none

/-- The names that a class lists. -/
def readClass : List Char → Option (List String)
  | '[' :: rest => readItems none rest
  | _ => none

theorem readItems_name {before name rest : List Char} (unclosed : '\x7d' ∉ name) :
    readItems (some before) (name ++ '\x7d' :: rest) =
      (readItems none rest).map (String.ofList (before.reverse ++ name) :: ·) := by
  induction name generalizing before with
  | nil => rw [List.nil_append, readItems, List.append_nil]
  | cons char name inductionHypothesis =>
      rw [List.mem_cons, not_or] at unclosed
      rw [List.cons_append, readItems, inductionHypothesis unclosed.2, List.reverse_cons,
        List.append_assoc, List.singleton_append]
      exact fun closes => unclosed.1 closes.symm

namespace Category

theorem unclosed_abbreviation (category : Category) : '\x7d' ∉ category.abbreviation.toList := by
  cases category <;> decide

theorem readItems_classItems (categories : List Category) :
    readItems none ((classItems categories).toList ++ [']']) =
      some (categories.map abbreviation) := by
  induction categories with
  | nil => rfl
  | cons category rest inductionHypothesis =>
      have itemFirst : (classItems (category :: rest)).toList ++ [']'] =
          '\\' :: 'p' :: '\x7b' ::
            (category.abbreviation.toList ++ '\x7d' :: ((classItems rest).toList ++ [']'])) := by
        simp [classItems]
      rw [itemFirst, readItems, readItems_name (unclosed_abbreviation category),
        inductionHypothesis, List.reverse_nil, List.nil_append, String.ofList_toList,
        Option.map_some, List.map_cons]

theorem readClass_classItems (categories : List Category) :
    readClass ("[" ++ classItems categories ++ "]").toList =
      some (categories.map abbreviation) := by
  have bracketFirst : ("[" ++ classItems categories ++ "]").toList =
      '[' :: ((classItems categories).toList ++ [']']) := by
    simp
  rw [bracketFirst, readClass, readItems_classItems]

end Category

/-! ## Uniting tables -/

namespace CategoryTables

variable (tables : CategoryTables)

/-- A set of categories has no single number that is a surrogate: only `C` has surrogates, and it
has the code point before them as well. -/
theorem isValidChar_of_only_number {categories : List Category} {code : Nat}
    (only : ∀ other, Covers (tables.members categories) other ↔ other = code) :
    code.isValidChar := by
  rcases covers_flatMap_iff.mp ((only code).mpr rfl) with ⟨category, isListed, covers⟩
  rcases tables.covers_iff.mp covers with ⟨part, isPart, ofPart⟩ | ⟨isOther, surrogate⟩
  · exact tables.isValidChar_of_covers isPart ofPart
  · have isPart : Category.unassigned ∈ Category.parts category := by
      rw [isOther]
      decide
    have ofPart := (tables.covers_before_surrogates_iff isPart).mpr rfl
    have before := (only 0xD7FF).mp (covers_flatMap_iff.mpr
      ⟨category, isListed, tables.covers_iff.mpr (Or.inl ⟨.unassigned, isPart, ofPart⟩)⟩)
    omega

/-- Looks up the names that a class lists. -/
def parseClass (text : String) : Except String ParsedClass :=
  match readClass text.toList with
  | none => .error "not a class of categories"
  | some names =>
      if names.all fun name => (Category.ofAbbreviation? name).isSome then
        .ok (ParsedClass.ofRanges (names.flatMap tables.ranges))
      else
        .error "unknown category"

theorem parseClass_classItems (categories : List Category) :
    tables.parseClass ("[" ++ Category.classItems categories ++ "]") =
      .ok (ParsedClass.ofRanges (tables.members categories)) := by
  have known : ((categories.map Category.abbreviation).all fun name =>
      (Category.ofAbbreviation? name).isSome) = true := by
    simp [Category.ofAbbreviation?_abbreviation]
  simp only [parseClass, Category.readClass_classItems, known, if_true, List.flatMap_map, members]

end CategoryTables

/-- The parser that unites the tables with the names that a class lists. -/
def ClassParser.uniting (tables : CategoryTables) : ClassParser tables where
  parse := tables.parseClass
  parse_class := by
    intro categories _
    refine ⟨_, tables.parseClass_classItems categories, ?_⟩
    exact ParsedClass.isUnion_ofRanges fun code => tables.isValidChar_of_only_number

end TextMatch
