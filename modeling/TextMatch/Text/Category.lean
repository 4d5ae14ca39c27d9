import TextMatch.Text.CodePointSet

/-!
# General categories

Every code point has exactly one general category, written as a major class and a subclass
(`Lu`, `Nd`); a major class alone (`L`, `N`) stands for all of its subclasses.  The surrogates are
part of the major class `C`, but no character is one, and they have no category of their own here.

Which code points a category has is said by the tables of a character database.  The set of several
categories is built by a parser of classes of code points, which is given the names of the
categories and looks them up in its tables.  Neither the tables nor the parser are fixed here: a set
of categories relies on what is stated of them, and on nothing else.
-/

namespace TextMatch

/-- The general categories and the major classes that unite them. -/
inductive Category where
  | uppercaseLetter
  | lowercaseLetter
  | titlecaseLetter
  | modifierLetter
  | otherLetter
  | nonspacingMark
  | spacingMark
  | enclosingMark
  | decimalNumber
  | letterNumber
  | otherNumber
  | connectorPunctuation
  | dashPunctuation
  | openPunctuation
  | closePunctuation
  | initialPunctuation
  | finalPunctuation
  | otherPunctuation
  | mathSymbol
  | currencySymbol
  | modifierSymbol
  | otherSymbol
  | spaceSeparator
  | lineSeparator
  | paragraphSeparator
  | control
  | format
  | privateUse
  | unassigned
  | letter
  | mark
  | number
  | punctuation
  | symbol
  | separator
  | other
deriving DecidableEq, Repr

namespace Category

/-- The usual abbreviation of a category. -/
def abbreviation : Category → String
  | .uppercaseLetter => "Lu"
  | .lowercaseLetter => "Ll"
  | .titlecaseLetter => "Lt"
  | .modifierLetter => "Lm"
  | .otherLetter => "Lo"
  | .nonspacingMark => "Mn"
  | .spacingMark => "Mc"
  | .enclosingMark => "Me"
  | .decimalNumber => "Nd"
  | .letterNumber => "Nl"
  | .otherNumber => "No"
  | .connectorPunctuation => "Pc"
  | .dashPunctuation => "Pd"
  | .openPunctuation => "Ps"
  | .closePunctuation => "Pe"
  | .initialPunctuation => "Pi"
  | .finalPunctuation => "Pf"
  | .otherPunctuation => "Po"
  | .mathSymbol => "Sm"
  | .currencySymbol => "Sc"
  | .modifierSymbol => "Sk"
  | .otherSymbol => "So"
  | .spaceSeparator => "Zs"
  | .lineSeparator => "Zl"
  | .paragraphSeparator => "Zp"
  | .control => "Cc"
  | .format => "Cf"
  | .privateUse => "Co"
  | .unassigned => "Cn"
  | .letter => "L"
  | .mark => "M"
  | .number => "N"
  | .punctuation => "P"
  | .symbol => "S"
  | .separator => "Z"
  | .other => "C"

def all : List Category :=
  [.uppercaseLetter, .lowercaseLetter, .titlecaseLetter, .modifierLetter, .otherLetter,
    .nonspacingMark, .spacingMark, .enclosingMark, .decimalNumber, .letterNumber, .otherNumber,
    .connectorPunctuation, .dashPunctuation, .openPunctuation, .closePunctuation,
    .initialPunctuation, .finalPunctuation, .otherPunctuation, .mathSymbol, .currencySymbol,
    .modifierSymbol, .otherSymbol, .spaceSeparator, .lineSeparator, .paragraphSeparator, .control,
    .format, .privateUse, .unassigned, .letter, .mark, .number, .punctuation, .symbol, .separator,
    .other]

/-- The category with an abbreviation. -/
def ofAbbreviation? (text : String) : Option Category :=
  all.find? fun category => category.abbreviation == text

theorem ofAbbreviation?_abbreviation (category : Category) :
    ofAbbreviation? category.abbreviation = some category := by
  cases category <;> decide

/-- The categories without subclasses that make up a category. -/
def parts : Category → List Category
  | .letter =>
      [.uppercaseLetter, .lowercaseLetter, .titlecaseLetter, .modifierLetter, .otherLetter]
  | .mark => [.nonspacingMark, .spacingMark, .enclosingMark]
  | .number => [.decimalNumber, .letterNumber, .otherNumber]
  | .punctuation =>
      [.connectorPunctuation, .dashPunctuation, .openPunctuation, .closePunctuation,
        .initialPunctuation, .finalPunctuation, .otherPunctuation]
  | .symbol => [.mathSymbol, .currencySymbol, .modifierSymbol, .otherSymbol]
  | .separator => [.spaceSeparator, .lineSeparator, .paragraphSeparator]
  | .other => [.control, .format, .privateUse, .unassigned]
  | minor => [minor]

end Category

open CodePointRange

/-! ## Tables and parsers -/

/-- The tables of a character database, by the names of the categories.  What is stated of them says
how the major classes are made up, and who the neighbours of the surrogates are. -/
structure CategoryTables where
  ranges : String → List CodePointRange
  /-- A category has what its parts have, and the numbers of the surrogates count as `C`. -/
  covers_iff : ∀ {category : Category} {code : Nat},
    Covers (ranges category.abbreviation) code ↔
      (∃ part ∈ category.parts, Covers (ranges part.abbreviation) code) ∨
        (category = .other ∧ 0xD800 ≤ code ∧ code ≤ 0xDFFF)
  /-- No part has surrogates. -/
  isValidChar_of_covers : ∀ {category part : Category} {code : Nat}, part ∈ category.parts →
    Covers (ranges part.abbreviation) code → code.isValidChar
  /-- The last code point before the surrogates is unassigned. -/
  covers_before_surrogates_iff : ∀ {category part : Category}, part ∈ category.parts →
    (Covers (ranges part.abbreviation) 0xD7FF ↔ part = .unassigned)
  /-- The first code point behind the surrogates is for private use. -/
  covers_behind_surrogates_iff : ∀ {category part : Category}, part ∈ category.parts →
    (Covers (ranges part.abbreviation) 0xE000 ↔ part = .privateUse)

/-- A code point has a category if one of the ranges of the category includes it. -/
def CategoryTables.Has (tables : CategoryTables) (category : Category) (char : Char) : Prop :=
  ∃ range ∈ tables.ranges category.abbreviation, range.includes char = true

/-- The ranges of all the categories of a list. -/
def CategoryTables.members (tables : CategoryTables) (categories : List Category) :
    List CodePointRange :=
  categories.flatMap fun category => tables.ranges category.abbreviation

/-- What a class of code points is parsed as. -/
inductive ParsedClass where
  | set (ranges : List CodePointRange)
  /-- A class of a single code point, as the text that it matches. -/
  | literal (text : String)
  /-- Anything else, such as a class without members. -/
  | other

namespace ParsedClass

/-- The ranges of a class. -/
def ranges : ParsedClass → List CodePointRange
  | .set ranges => ranges
  | .literal text => text.toList.map fun char => ⟨char.toNat, char.toNat⟩
  | .other => []

/-- A class has the members of the given ranges, in canonical form. -/
def IsUnion (members : List CodePointRange) : ParsedClass → Prop
  | .set ranges => IsUnionOf members ranges
  | .literal text => ∃ char, text = String.singleton char ∧
      ∀ code, code = char.toNat ↔ Covers members code
  | .other => ∀ code, ¬ Covers members code

end ParsedClass

namespace Category

/-- The items of a class that has the members of the categories, one item for each of them. -/
def classItems (categories : List Category) : String :=
  String.join (categories.map fun category => "\\p\x7b" ++ category.abbreviation ++ "\x7d")

end Category

/-- A parser of classes of code points.  Any parser may do, as long as it reads a class of one or
several names of categories as the canonical union of their tables. -/
structure ClassParser (tables : CategoryTables) where
  /-- The class that a text describes, or what is wrong with the text. -/
  parse : String → Except String ParsedClass
  parse_class : ∀ {categories : List Category}, categories ≠ [] →
    ∃ parsed, parse ("[" ++ Category.classItems categories ++ "]") = .ok parsed ∧
      parsed.IsUnion (tables.members categories)

/-- The code points that belong to at least one of the categories. -/
def Category.union {tables : CategoryTables} (parser : ClassParser tables)
    (categories : List Category) : Except String CodePointSet :=
  let items := classItems categories
  if items.isEmpty then
    .ok ⟨#[]⟩
  else do
    let parsed ← parser.parse ("[" ++ items ++ "]")
    return ⟨parsed.ranges.toArray⟩

end TextMatch
