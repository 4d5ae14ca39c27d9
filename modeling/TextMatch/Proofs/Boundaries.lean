import TextMatch.Text.View

/-!
# Boundaries

An offset is a boundary unless it lies between the two units of a surrogate pair.  Going from code
point to code point visits every boundary and, behind the first place, nothing else; an encoded word
neither starts nor ends inside a pair.
-/

namespace TextMatch

namespace CodeUnit

theorem isHigh_iff {unit : CodeUnit} :
    isHigh unit = true ↔ 0xD800 ≤ unit.toNat ∧ unit.toNat ≤ 0xDBFF := by
  rw [isHigh, Bool.and_eq_true, decide_eq_true_eq, decide_eq_true_eq, UInt16.le_iff_toNat_le,
    UInt16.le_iff_toNat_le]
  rfl

theorem isLow_iff {unit : CodeUnit} :
    isLow unit = true ↔ 0xDC00 ≤ unit.toNat ∧ unit.toNat ≤ 0xDFFF := by
  rw [isLow, Bool.and_eq_true, decide_eq_true_eq, decide_eq_true_eq, UInt16.le_iff_toNat_le,
    UInt16.le_iff_toNat_le]
  rfl

theorem isLow_eq_false_of_isHigh {unit : CodeUnit} (high : isHigh unit = true) :
    isLow unit = false := by
  rw [isHigh_iff] at high
  rw [← Bool.not_eq_true, isLow_iff]
  omega

theorem isHigh_eq_false_of_isLow {unit : CodeUnit} (low : isLow unit = true) :
    isHigh unit = false := by
  by_cases high : isHigh unit = true
  · rw [isLow_eq_false_of_isHigh high] at low
    contradiction
  · simpa using high

/-- A code point is encoded as one unit that is no surrogate, or as a pair. -/
theorem ofChar_cases (char : Char) :
    (∃ unit, ofChar char = [unit] ∧ isHigh unit = false ∧ isLow unit = false) ∨
      ∃ high low, ofChar char = [high, low] ∧ isHigh high = true ∧ isLow low = true := by
  have scalar : char.toNat < 0xD800 ∨ 0xDFFF < char.toNat ∧ char.toNat < 0x110000 := char.valid
  by_cases basic : char.toNat < 0x10000
  · refine Or.inl ⟨UInt16.ofNat char.toNat, by simp [ofChar, basic], ?_⟩
    have same : (UInt16.ofNat char.toNat).toNat = char.toNat := by
      simpa using Nat.mod_eq_of_lt basic
    rw [← Bool.not_eq_true, ← Bool.not_eq_true, isHigh_iff, isLow_iff, same]
    omega
  · refine Or.inr ⟨UInt16.ofNat (0xD800 + (char.toNat - 0x10000) / 0x400),
      UInt16.ofNat (0xDC00 + (char.toNat - 0x10000) % 0x400), by simp [ofChar, basic], ?_⟩
    have highBound : 0xD800 + (char.toNat - 0x10000) / 0x400 < 0x10000 := by omega
    have lowBound : 0xDC00 + (char.toNat - 0x10000) % 0x400 < 0x10000 := by omega
    rw [isHigh_iff, isLow_iff, UInt16.toNat_ofNat_of_lt' highBound,
      UInt16.toNat_ofNat_of_lt' lowBound]
    omega

@[simp]
theorem ofChars_nil : ofChars [] = [] :=
  rfl

@[simp]
theorem ofChars_cons (char : Char) (word : List Char) :
    ofChars (char :: word) = ofChar char ++ ofChars word :=
  List.flatMap_cons

end CodeUnit

namespace View

variable {view : View} {index : Nat}

/-! ## Units -/

theorem exists_unit?_of_lt (inside : index < view.length) :
    ∃ unit, view.unit? index = some unit := by
  have startLe := view.start_le_stop
  have stopLe := view.stop_le_size
  have inSource : view.start + index < view.source.size := by
    rw [length] at inside
    omega
  exact ⟨view.source[view.start + index], by simp [unit?, inside, inSource]⟩

theorem unit?_eq_none_of_le (outside : view.length ≤ index) : view.unit? index = none := by
  simp [unit?, Nat.not_lt.mpr outside]

/-! ## Pairs and boundaries -/

/-- The offset does not lie between the units of a surrogate pair. -/
def IsBoundary (view : View) (index : Nat) : Prop :=
  index = 0 ∨ view.hasPairAt (index - 1) = false

instance (view : View) (index : Nat) : Decidable (view.IsBoundary index) :=
  inferInstanceAs (Decidable (_ ∨ _))

theorem isBoundary_zero : view.IsBoundary 0 :=
  Or.inl rfl

theorem isBoundary_succ_iff : view.IsBoundary (index + 1) ↔ view.hasPairAt index = false := by
  simp [IsBoundary]

theorem hasPairAt_iff :
    view.hasPairAt index = true ↔
      ∃ high low, view.unit? index = some high ∧ view.unit? (index + 1) = some low ∧
        CodeUnit.isHigh high = true ∧ CodeUnit.isLow low = true := by
  simp only [hasPairAt, unitPasses, Bool.and_eq_true, Option.any_eq_true]
  constructor
  · rintro ⟨⟨high, highAt, isHigh⟩, low, lowAt, isLow⟩
    exact ⟨high, low, highAt, lowAt, isHigh, isLow⟩
  · rintro ⟨high, low, highAt, lowAt, isHigh, isLow⟩
    exact ⟨⟨high, highAt, isHigh⟩, low, lowAt, isLow⟩

theorem hasPairAt_eq_false_of_not_isHigh {unit : CodeUnit}
    (found : view.unit? index = some unit) (notHigh : CodeUnit.isHigh unit = false) :
    view.hasPairAt index = false := by
  simp [hasPairAt, unitPasses, found, notHigh]

/-- An offset at which no low surrogate stands is a boundary. -/
theorem isBoundary_of_not_isLow {unit : CodeUnit}
    (found : view.unit? index = some unit) (notLow : CodeUnit.isLow unit = false) :
    view.IsBoundary index := by
  cases index with
  | zero => exact isBoundary_zero
  | succ before =>
      rw [isBoundary_succ_iff]
      simp [hasPairAt, unitPasses, found, notLow]

theorem isBoundary_length : view.IsBoundary view.length := by
  cases lengthEq : view.length with
  | zero => exact isBoundary_zero
  | succ before =>
      rw [isBoundary_succ_iff]
      simp [hasPairAt, unitPasses, unit?_eq_none_of_le (Nat.le_of_eq lengthEq)]

/-! ## From code point to code point -/

/-- The units of a pair are decoded together. -/
theorem decodeAt_of_pair {high low : CodeUnit} (highAt : view.unit? index = some high)
    (lowAt : view.unit? (index + 1) = some low) (isHigh : CodeUnit.isHigh high = true)
    (isLow : CodeUnit.isLow low = true) :
    view.decodeAt index = some (CodeUnit.pair high low, 2) := by
  simp only [decodeAt, highAt, lowAt, isHigh, isLow, Bool.and_self, if_true]

/-- A unit that begins no pair is decoded alone. -/
theorem decodeAt_of_noPair {unit : CodeUnit} (found : view.unit? index = some unit)
    (noPair : view.hasPairAt index = false) :
    view.decodeAt index = some (CodeUnit.alone unit, 1) := by
  rw [decodeAt, found]
  cases nextFound : view.unit? (index + 1) with
  | none => rfl
  | some next =>
      simp only [hasPairAt, unitPasses, found, nextFound, Option.any_some] at noPair
      simp only [noPair, Bool.false_eq_true, if_false]

theorem exists_decodeAt_of_lt (inside : index < view.length) :
    ∃ char, view.decodeAt index = some (char, if view.hasPairAt index then 2 else 1) := by
  cases isPair : view.hasPairAt index with
  | true =>
      obtain ⟨high, low, highAt, lowAt, isHigh, isLow⟩ := hasPairAt_iff.mp isPair
      exact ⟨_, decodeAt_of_pair highAt lowAt isHigh isLow⟩
  | false =>
      obtain ⟨unit, found⟩ := exists_unit?_of_lt inside
      exact ⟨_, decodeAt_of_noPair found isPair⟩

theorem length_le_of_decodeAt_eq_none (ends : view.decodeAt index = none) :
    view.length ≤ index := by
  rw [← Nat.not_lt]
  intro inside
  obtain ⟨char, decoded⟩ := exists_decodeAt_of_lt inside
  rw [decoded] at ends
  contradiction

theorem decodeAt_of_outside (outside : view.length ≤ index) : view.decodeAt index = none := by
  rw [decodeAt, unit?_eq_none_of_le outside]

theorem length_of_decodeAt {char : Char} {count : Nat}
    (decoded : view.decodeAt index = some (char, count)) :
    count = if view.hasPairAt index then 2 else 1 := by
  obtain ⟨char', decoded'⟩ := exists_decodeAt_of_lt (bounds_of_decodeAt decoded).1
  rw [decoded] at decoded'
  simp only [Option.some.injEq, Prod.mk.injEq] at decoded'
  exact decoded'.2

theorem codePointLengthAt_of_decodeAt {char : Char} {count : Nat}
    (decoded : view.decodeAt index = some (char, count)) :
    view.codePointLengthAt index = count := by
  simp [codePointLengthAt, decoded]

theorem add_le_length_of_decodeAt {char : Char} {count : Nat}
    (decoded : view.decodeAt index = some (char, count)) :
    index + count ≤ view.length := by
  have inside := (bounds_of_decodeAt decoded).1
  have countEq := length_of_decodeAt decoded
  by_cases isPair : view.hasPairAt index = true
  · obtain ⟨-, low, -, lowAt, -⟩ := hasPairAt_iff.mp isPair
    have lowInside := lt_length_of_unit? lowAt
    simp only [isPair, if_true] at countEq
    omega
  · simp only [isPair] at countEq
    simp only [Bool.false_eq_true, if_false] at countEq
    omega

/-- The place behind a code point is a boundary. -/
theorem isBoundary_add_of_decodeAt {char : Char} {count : Nat}
    (decoded : view.decodeAt index = some (char, count)) :
    view.IsBoundary (index + count) := by
  have countEq := length_of_decodeAt decoded
  by_cases isPair : view.hasPairAt index = true
  · obtain ⟨-, low, -, lowAt, -, isLow⟩ := hasPairAt_iff.mp isPair
    simp only [isPair, if_true] at countEq
    subst countEq
    exact isBoundary_succ_iff.mpr <|
      hasPairAt_eq_false_of_not_isHigh lowAt (CodeUnit.isHigh_eq_false_of_isLow isLow)
  · have noPair : view.hasPairAt index = false := by simpa using isPair
    simp only [noPair, Bool.false_eq_true, if_false] at countEq
    subst countEq
    exact isBoundary_succ_iff.mpr noPair

/-- There is no boundary inside a code point. -/
theorem add_le_of_isBoundary {char : Char} {count later : Nat}
    (decoded : view.decodeAt index = some (char, count))
    (behind : index < later) (boundary : view.IsBoundary later) :
    index + count ≤ later := by
  have countEq := length_of_decodeAt decoded
  by_cases isPair : view.hasPairAt index = true
  · simp only [isPair, if_true] at countEq
    have notNext : later ≠ index + 1 := by
      rintro rfl
      rw [isBoundary_succ_iff, isPair] at boundary
      contradiction
    omega
  · simp only [isPair, Bool.false_eq_true, if_false] at countEq
    omega

/-- An offset that is no boundary lies between the units of a pair, which starts at a boundary. -/
theorem exists_pair_of_not_isBoundary (notBoundary : ¬ view.IsBoundary (index + 1)) :
    ∃ high low, view.IsBoundary index ∧ view.unit? index = some high ∧
      view.unit? (index + 1) = some low ∧ CodeUnit.isHigh high = true ∧
      CodeUnit.isLow low = true := by
  rw [isBoundary_succ_iff, Bool.not_eq_false] at notBoundary
  obtain ⟨high, low, highAt, lowAt, isHigh, isLow⟩ := hasPairAt_iff.mp notBoundary
  have start := isBoundary_of_not_isLow highAt (CodeUnit.isLow_eq_false_of_isHigh isHigh)
  exact ⟨high, low, start, highAt, lowAt, isHigh, isLow⟩

/-- Every boundary behind the start of the text is the end of a code point that starts at one. -/
theorem exists_decodeAt_of_isBoundary (boundary : view.IsBoundary (index + 1))
    (inside : index < view.length) :
    ∃ start char count, view.IsBoundary start ∧
      view.decodeAt start = some (char, count) ∧ start + count = index + 1 := by
  by_cases startsHere : view.IsBoundary index
  · obtain ⟨char, decoded⟩ := exists_decodeAt_of_lt inside
    rw [isBoundary_succ_iff.mp boundary, if_neg Bool.false_ne_true] at decoded
    exact ⟨index, char, 1, startsHere, decoded, rfl⟩
  · cases index with
    | zero => exact absurd isBoundary_zero startsHere
    | succ before =>
        obtain ⟨high, low, start, highAt, lowAt, isHigh, isLow⟩ :=
          exists_pair_of_not_isBoundary startsHere
        exact ⟨before, _, 2, start, decodeAt_of_pair highAt lowAt isHigh isLow, rfl⟩

/-- Inside a pair, the second unit of it is decoded alone. -/
theorem decodeAt_of_not_isBoundary (notBoundary : ¬ view.IsBoundary index) :
    view.decodeAt index = some (CodeUnit.replacement, 1) := by
  cases index with
  | zero => exact absurd isBoundary_zero notBoundary
  | succ before =>
      obtain ⟨high, low, -, -, lowAt, -, isLow⟩ := exists_pair_of_not_isBoundary notBoundary
      have noPair :=
        hasPairAt_eq_false_of_not_isHigh lowAt (CodeUnit.isHigh_eq_false_of_isLow isLow)
      rw [decodeAt_of_noPair lowAt noPair, CodeUnit.alone, isLow, Bool.or_true, if_pos rfl]

/-! ## Encoded words -/

theorem add_length_le_of_startsWithAt {expected : List CodeUnit} :
    ∀ {index : Nat}, view.startsWithAt index expected = true →
      index + expected.length ≤ view.length := by
  induction expected with
  | nil =>
      intro index occurs
      simpa [startsWithAt] using occurs
  | cons unit rest inductionHypothesis =>
      intro index occurs
      simp only [startsWithAt, Bool.and_eq_true] at occurs
      have bound := inductionHypothesis occurs.2
      simp only [List.length_cons]
      omega

theorem startsWithAt_append (front back : List CodeUnit) :
    ∀ index, view.startsWithAt index (front ++ back) = true ↔
      view.startsWithAt index front = true ∧
        view.startsWithAt (index + front.length) back = true := by
  induction front with
  | nil =>
      intro index
      simp only [List.nil_append, startsWithAt, List.length_nil, Nat.add_zero, decide_eq_true_eq]
      constructor
      · intro occurs
        have bound := add_length_le_of_startsWithAt occurs
        exact ⟨by omega, occurs⟩
      · exact fun occurs => occurs.2
  | cons unit rest inductionHypothesis =>
      intro index
      have offsets : index + 1 + rest.length = index + (rest.length + 1) := by omega
      simp only [List.cons_append, startsWithAt, Bool.and_eq_true, inductionHypothesis,
        List.length_cons, offsets, and_assoc]

/-- A word that is not empty starts at a boundary. -/
theorem isBoundary_of_startsWithAt {word : List Char} (nonempty : word ≠ [])
    (occurs : view.startsWithAt index (CodeUnit.ofChars word) = true) :
    view.IsBoundary index := by
  cases word with
  | nil => contradiction
  | cons char rest =>
      rw [CodeUnit.ofChars_cons, startsWithAt_append] at occurs
      rcases CodeUnit.ofChar_cases char with
        ⟨unit, encoded, -, notLow⟩ | ⟨high, low, encoded, isHigh, -⟩
      · rw [encoded] at occurs
        simp only [startsWithAt, Bool.and_eq_true, beq_iff_eq] at occurs
        exact isBoundary_of_not_isLow occurs.1.1 notLow
      · rw [encoded] at occurs
        simp only [startsWithAt, Bool.and_eq_true, beq_iff_eq] at occurs
        exact isBoundary_of_not_isLow occurs.1.1 (CodeUnit.isLow_eq_false_of_isHigh isHigh)

/-- A word that occurs at a boundary ends at a boundary. -/
theorem isBoundary_add_of_startsWithAt {word : List Char} :
    ∀ {index : Nat}, view.IsBoundary index →
      view.startsWithAt index (CodeUnit.ofChars word) = true →
      view.IsBoundary (index + (CodeUnit.ofChars word).length) := by
  induction word with
  | nil =>
      intro index boundary _
      simpa using boundary
  | cons char rest inductionHypothesis =>
      intro index _ occurs
      rw [CodeUnit.ofChars_cons, startsWithAt_append] at occurs
      have behindFirst : view.IsBoundary (index + (CodeUnit.ofChar char).length) := by
        rcases CodeUnit.ofChar_cases char with
          ⟨unit, encoded, notHigh, -⟩ | ⟨high, low, encoded, -, isLow⟩
        · rw [encoded] at occurs ⊢
          simp only [startsWithAt, Bool.and_eq_true, beq_iff_eq] at occurs
          exact isBoundary_succ_iff.mpr <|
            hasPairAt_eq_false_of_not_isHigh occurs.1.1 notHigh
        · rw [encoded] at occurs ⊢
          simp only [startsWithAt, Bool.and_eq_true, beq_iff_eq] at occurs
          exact isBoundary_succ_iff.mpr <|
            hasPairAt_eq_false_of_not_isHigh occurs.1.2.1
              (CodeUnit.isHigh_eq_false_of_isLow isLow)
      have behindRest := inductionHypothesis behindFirst occurs.2
      simpa [Nat.add_assoc] using behindRest

end View

end TextMatch
