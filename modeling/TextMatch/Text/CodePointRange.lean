/-!
# Ranges of code points

A class of code points is a list of inclusive ranges of numbers.  In canonical form the ranges
ascend, and between any two of them there is a number that belongs to neither.  The numbers of the
surrogates count like any others, though no character has them.
-/

namespace TextMatch

/-- The code points from `first` to `last`, both included. -/
structure CodePointRange where
  first : Nat
  last : Nat
deriving DecidableEq, Repr

namespace CodePointRange

def includes (range : CodePointRange) (char : Char) : Bool :=
  decide (range.first ≤ char.toNat) && decide (char.toNat ≤ range.last)

/-- The last code point. -/
def greatest : Nat := 0x10FFFF

/-- One of the ranges has the number. -/
def Covers (ranges : List CodePointRange) (code : Nat) : Prop :=
  ∃ range ∈ ranges, range.first ≤ code ∧ code ≤ range.last

instance (ranges : List CodePointRange) (code : Nat) : Decidable (Covers ranges code) :=
  inferInstanceAs (Decidable (∃ range ∈ ranges, range.first ≤ code ∧ code ≤ range.last))

/-- A number that is in neither range lies between them. -/
def Apart (left right : CodePointRange) : Prop :=
  left.last + 1 < right.first

/-- The ranges ascend, none is empty, and no two touch. -/
structure IsCanonical (ranges : List CodePointRange) : Prop where
  nonempty : ∀ range ∈ ranges, range.first ≤ range.last
  apart : ranges.Pairwise Apart

/-- The ranges are the union of the members in canonical form. -/
structure IsUnionOf (members ranges : List CodePointRange) : Prop where
  isCanonical : IsCanonical ranges
  covers_iff : ∀ code, Covers ranges code ↔ Covers members code

variable {ranges others rest : List CodePointRange} {range : CodePointRange} {code : Nat}

/-! ## Numbers covered -/

theorem covers_nil_iff : Covers [] code ↔ False := by
  simp only [Covers, List.not_mem_nil, false_and, exists_false]

theorem covers_cons_iff :
    Covers (range :: rest) code ↔
      (range.first ≤ code ∧ code ≤ range.last) ∨ Covers rest code := by
  simp only [Covers, List.mem_cons, exists_eq_or_imp]

theorem covers_singleton_iff : Covers [range] code ↔ range.first ≤ code ∧ code ≤ range.last := by
  rw [covers_cons_iff, covers_nil_iff, or_false]

theorem covers_append_iff :
    Covers (ranges ++ others) code ↔ Covers ranges code ∨ Covers others code := by
  simp only [Covers, List.mem_append, or_and_right, exists_or]

theorem covers_flatMap_iff {alpha : Type} {items : List alpha}
    {rangesOf : alpha → List CodePointRange} :
    Covers (items.flatMap rangesOf) code ↔ ∃ item ∈ items, Covers (rangesOf item) code := by
  constructor
  · intro covers
    rcases covers with ⟨range, member, bounds⟩
    rcases List.mem_flatMap.mp member with ⟨item, isItem, ofItem⟩
    exact ⟨item, isItem, range, ofItem, bounds⟩
  · intro covers
    rcases covers with ⟨item, isItem, range, ofItem, bounds⟩
    exact ⟨range, List.mem_flatMap.mpr ⟨item, isItem, ofItem⟩, bounds⟩

/-! ## Canonical ranges -/

theorem isCanonical_nil : IsCanonical [] :=
  ⟨List.forall_mem_nil _, .nil⟩

theorem isCanonical_singleton (nonempty : range.first ≤ range.last) : IsCanonical [range] where
  nonempty := by
    intro single member
    rw [List.mem_singleton.mp member]
    exact nonempty
  apart := List.pairwise_singleton Apart range

theorem IsCanonical.covers_first (isCanonical : IsCanonical ranges) (member : range ∈ ranges) :
    Covers ranges range.first :=
  ⟨range, member, Nat.le_refl _, isCanonical.nonempty range member⟩

theorem IsCanonical.covers_last (isCanonical : IsCanonical ranges) (member : range ∈ ranges) :
    Covers ranges range.last :=
  ⟨range, member, isCanonical.nonempty range member, Nat.le_refl _⟩

theorem IsCanonical.tail (isCanonical : IsCanonical (range :: rest)) : IsCanonical rest where
  nonempty := fun later member => isCanonical.nonempty later (List.mem_cons_of_mem range member)
  apart := isCanonical.apart.tail

/-- What the other ranges cover lies apart from the first one. -/
theorem IsCanonical.lt_of_covers_tail (isCanonical : IsCanonical (range :: rest))
    (covers : Covers rest code) : range.last + 1 < code := by
  rcases covers with ⟨later, member, starts, -⟩
  have apart : Apart range later := List.rel_of_pairwise_cons isCanonical.apart member
  exact Nat.lt_of_lt_of_le apart starts

end CodePointRange

end TextMatch
