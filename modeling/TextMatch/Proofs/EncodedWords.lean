import TextMatch.Proofs.CaseFolding
import TextMatch.Proofs.Slices

/-!
# Encoded words

A word is decoded from where it stands encoded.  Decoding from one place is one course: of two lists
of code points decoded from there, one goes on where the other ends.
-/

namespace TextMatch

namespace CodeUnit

variable {char : Char} {unit high low : CodeUnit}

theorem alone_of_ofChar (encoded : ofChar char = [unit]) : alone unit = char := by
  have notSurrogate : isHigh unit = false ∧ isLow unit = false := by
    rcases ofChar_cases char with ⟨single, singleEq, notHigh, notLow⟩ | ⟨high, low, pairEq, -⟩
    · rw [encoded] at singleEq
      rw [(List.cons.inj singleEq).1]
      exact ⟨notHigh, notLow⟩
    · rw [encoded] at pairEq
      exact absurd (congrArg List.length pairEq) (by simp)
  by_cases basic : char.toNat < 0x10000
  · rw [ofChar, if_pos basic] at encoded
    have unitEq : unit.toNat = char.toNat := by
      rw [← (List.cons.inj encoded).1, UInt16.toNat_ofNat_of_lt' basic]
    rw [alone, notSurrogate.1, notSurrogate.2, Bool.or_self, if_neg Bool.false_ne_true, unitEq,
      Char.ofNat_toNat]
  · rw [ofChar, if_neg basic] at encoded
    exact absurd (congrArg List.length encoded) (by simp)

theorem pair_of_ofChar (encoded : ofChar char = [high, low]) : pair high low = char := by
  have supplementary : ¬ char.toNat < 0x10000 := by
    intro basic
    rw [ofChar, if_pos basic] at encoded
    exact absurd (congrArg List.length encoded) (by simp)
  have inRange : char.toNat < 0x110000 := by
    have scalar : char.toNat < 0xD800 ∨ 0xDFFF < char.toNat ∧ char.toNat < 0x110000 := char.valid
    omega
  rw [ofChar, if_neg supplementary] at encoded
  obtain ⟨highEq, lowEq⟩ := List.cons.inj encoded
  have highBound : 0xD800 + (char.toNat - 0x10000) / 0x400 < 0x10000 := by omega
  have lowBound : 0xDC00 + (char.toNat - 0x10000) % 0x400 < 0x10000 := by omega
  have highNat : high.toNat = 0xD800 + (char.toNat - 0x10000) / 0x400 := by
    rw [← highEq, UInt16.toNat_ofNat_of_lt' highBound]
  have lowNat : low.toNat = 0xDC00 + (char.toNat - 0x10000) % 0x400 := by
    rw [← (List.cons.inj lowEq).1, UInt16.toNat_ofNat_of_lt' lowBound]
  have joined : 0x10000 + (high.toNat - 0xD800) * 0x400 + (low.toNat - 0xDC00) = char.toNat := by
    omega
  rw [pair, joined, Char.ofNat_toNat]

/-- A unit that is no surrogate encodes the code point that it is decoded as. -/
theorem ofChar_alone (notHigh : isHigh unit = false) (notLow : isLow unit = false) :
    ofChar (alone unit) = [unit] := by
  have bound : unit.toNat < 0x10000 := unit.toNat_lt
  have scalar : unit.toNat.isValidChar := by
    rw [← Bool.not_eq_true, isHigh_iff] at notHigh
    rw [← Bool.not_eq_true, isLow_iff] at notLow
    rw [Nat.isValidChar]
    omega
  have aloneEq : alone unit = Char.ofNat unit.toNat := by
    rw [alone, notHigh, notLow, Bool.or_self, if_neg Bool.false_ne_true]
  rw [aloneEq, ofChar, CaseFold.toNat_ofNat scalar, if_pos bound, UInt16.ofNat_toNat]

/-- A surrogate pair encodes the code point that it is decoded as. -/
theorem ofChar_pair (isHighUnit : isHigh high = true) (isLowUnit : isLow low = true) :
    ofChar (pair high low) = [high, low] := by
  rw [isHigh_iff] at isHighUnit
  rw [isLow_iff] at isLowUnit
  have scalar : (0x10000 + (high.toNat - 0xD800) * 0x400 + (low.toNat - 0xDC00)).isValidChar := by
    rw [Nat.isValidChar]
    omega
  have supplementary :
      ¬ 0x10000 + (high.toNat - 0xD800) * 0x400 + (low.toNat - 0xDC00) < 0x10000 := by
    omega
  have highEq : 0xD800 + (0x10000 + (high.toNat - 0xD800) * 0x400 + (low.toNat - 0xDC00) -
      0x10000) / 0x400 = high.toNat := by
    omega
  have lowEq : 0xDC00 + (0x10000 + (high.toNat - 0xD800) * 0x400 + (low.toNat - 0xDC00) -
      0x10000) % 0x400 = low.toNat := by
    omega
  rw [ofChar, pair, CaseFold.toNat_ofNat scalar, if_neg supplementary, highEq, lowEq,
    UInt16.ofNat_toNat, UInt16.ofNat_toNat]

theorem length_ofChar_pos (char : Char) : 0 < (ofChar char).length := by
  rcases ofChar_cases char with ⟨unit, encoded, -⟩ | ⟨high, low, encoded, -⟩
  · rw [encoded]
    exact Nat.one_pos
  · rw [encoded]
    exact Nat.two_pos

theorem ofChars_append (front back : List Char) :
    ofChars (front ++ back) = ofChars front ++ ofChars back :=
  List.flatMap_append

theorem eq_nil_of_length_ofChars {word : List Char} (empty : (ofChars word).length = 0) :
    word = [] := by
  cases word with
  | nil => rfl
  | cons char rest =>
      have positive := length_ofChar_pos char
      rw [ofChars_cons, List.length_append] at empty
      omega

end CodeUnit

namespace View

variable {view : View} {index stop stop' : Nat} {chars chars' : List Char}

theorem startsWithAt_iff {expected : List CodeUnit} (inside : index ≤ view.length) :
    view.startsWithAt index expected = true ↔ expected <+: view.units.drop index := by
  refine ⟨prefix_of_startsWithAt, ?_⟩
  induction expected generalizing index with
  | nil =>
      intro _
      rwa [startsWithAt, decide_eq_true_eq]
  | cons unit rest inductionHypothesis =>
      intro isPrefix
      have before : index < view.units.length := by
        have positive := isPrefix.length_le
        rw [List.length_cons, List.length_drop] at positive
        omega
      rw [List.drop_eq_getElem_cons before, List.cons_prefix_cons] at isPrefix
      obtain ⟨unitEq, restPrefix⟩ := isPrefix
      rw [startsWithAt, Bool.and_eq_true, beq_iff_eq, ← units_getElem?,
        List.getElem?_eq_getElem before, unitEq]
      rw [length_units] at before
      exact ⟨rfl, inductionHypothesis before restPrefix⟩

/-! ## Decoding -/

/-- An encoded code point is decoded. -/
theorem decodeAt_of_startsWithAt {char : Char}
    (occurs : view.startsWithAt index (CodeUnit.ofChar char) = true) :
    view.decodeAt index = some (char, (CodeUnit.ofChar char).length) := by
  rcases CodeUnit.ofChar_cases char with
    ⟨unit, encoded, notHigh, -⟩ | ⟨high, low, encoded, isHigh, isLow⟩
  · have alone := CodeUnit.alone_of_ofChar encoded
    rw [encoded] at occurs ⊢
    simp only [startsWithAt, Bool.and_eq_true, beq_iff_eq] at occurs
    rw [decodeAt, occurs.1]
    cases view.unit? (index + 1) with
    | none => simp only [alone, List.length_singleton]
    | some next =>
        simp only [notHigh, Bool.false_and, Bool.false_eq_true, if_false, alone,
          List.length_singleton]
  · have pair := CodeUnit.pair_of_ofChar encoded
    rw [encoded] at occurs ⊢
    simp only [startsWithAt, Bool.and_eq_true, beq_iff_eq] at occurs
    simp only [decodeAt, occurs.1, occurs.2.1, isHigh, isLow, Bool.and_self, if_true, pair,
      List.length_cons, List.length_nil]

/-- A code point is encoded where it is decoded, unless it stands for a surrogate without its
partner. -/
theorem startsWithAt_of_decodeAt {char : Char} {count : Nat}
    (decoded : view.decodeAt index = some (char, count)) (known : char ≠ CodeUnit.replacement) :
    view.startsWithAt index (CodeUnit.ofChar char) = true ∧
      count = (CodeUnit.ofChar char).length := by
  have inside := add_le_length_of_decodeAt decoded
  cases isPair : view.hasPairAt index with
  | true =>
      obtain ⟨high, low, highAt, lowAt, isHigh, isLow⟩ := hasPairAt_iff.mp isPair
      rw [decodeAt_of_pair highAt lowAt isHigh isLow] at decoded
      obtain ⟨rfl, rfl⟩ := Prod.mk.inj (Option.some.inj decoded)
      rw [CodeUnit.ofChar_pair isHigh isLow]
      simp only [startsWithAt, highAt, lowAt, beq_self_eq_true, Bool.true_and, decide_eq_true_eq]
      exact ⟨inside, rfl⟩
  | false =>
      obtain ⟨unit, found⟩ := exists_unit?_of_lt (bounds_of_decodeAt decoded).1
      rw [decodeAt_of_noPair found isPair] at decoded
      obtain ⟨rfl, rfl⟩ := Prod.mk.inj (Option.some.inj decoded)
      have noSurrogate : (CodeUnit.isHigh unit || CodeUnit.isLow unit) = false := by
        rw [← Bool.not_eq_true]
        intro surrogate
        rw [CodeUnit.alone, if_pos surrogate] at known
        contradiction
      rw [Bool.or_eq_false_iff] at noSurrogate
      rw [CodeUnit.ofChar_alone noSurrogate.1 noSurrogate.2]
      simp only [startsWithAt, found, beq_self_eq_true, Bool.true_and, decide_eq_true_eq]
      exact ⟨inside, rfl⟩

/-- The code points decoded one behind the other from `index` on, and where the last one ends. -/
inductive Decodes (view : View) : Nat → List Char → Nat → Prop
  | nil {index : Nat} : Decodes view index [] index
  | cons {index count stop : Nat} {char : Char} {chars : List Char} :
      view.decodeAt index = some (char, count) → Decodes view (index + count) chars stop →
      Decodes view index (char :: chars) stop

theorem Decodes.le (decodes : view.Decodes index chars stop) : index ≤ stop := by
  induction decodes with
  | nil => exact Nat.le_refl _
  | cons _ _ inductionHypothesis => exact Nat.le_of_add_right_le inductionHypothesis

theorem Decodes.lt (decodes : view.Decodes index chars stop) (nonempty : chars ≠ []) :
    index < stop := by
  cases decodes with
  | nil => contradiction
  | cons decoded further =>
      have positive := (bounds_of_decodeAt decoded).2
      have forward := further.le
      omega

theorem Decodes.le_length (decodes : view.Decodes index chars stop)
    (inside : index ≤ view.length) : stop ≤ view.length := by
  induction decodes with
  | nil => exact inside
  | cons decoded _ inductionHypothesis =>
      exact inductionHypothesis (add_le_length_of_decodeAt decoded)

theorem decodes_nil_iff : view.Decodes index [] stop ↔ stop = index := by
  constructor
  · intro decodes
    cases decodes
    rfl
  · rintro rfl
    exact .nil

theorem Decodes.eq_nil (decodes : view.Decodes index chars index) : chars = [] := by
  cases decodes with
  | nil => rfl
  | cons decoded further =>
      have positive := (bounds_of_decodeAt decoded).2
      have behind := further.le
      omega

/-- Of two lists decoded from one place, one goes on where the other ends. -/
theorem Decodes.comparable (left : view.Decodes index chars stop)
    (right : view.Decodes index chars' stop') :
    (∃ more, chars' = chars ++ more ∧ view.Decodes stop more stop') ∨
      ∃ more, chars = chars' ++ more ∧ view.Decodes stop' more stop := by
  induction left generalizing chars' with
  | nil => exact .inl ⟨chars', rfl, right⟩
  | cons decoded further inductionHypothesis =>
      cases right with
      | nil => exact .inr ⟨_, rfl, .cons decoded further⟩
      | cons decoded' further' =>
          obtain ⟨rfl, rfl⟩ := Prod.mk.inj (Option.some.inj (decoded.symm.trans decoded'))
          rcases inductionHypothesis further' with ⟨more, rfl, rest⟩ | ⟨more, rfl, rest⟩
          · exact .inl ⟨more, rfl, rest⟩
          · exact .inr ⟨more, rfl, rest⟩

theorem Decodes.unique (left : view.Decodes index chars stop)
    (right : view.Decodes index chars' stop) : chars = chars' := by
  rcases left.comparable right with ⟨more, rfl, rest⟩ | ⟨more, rfl, rest⟩
  · rw [rest.eq_nil, List.append_nil]
  · rw [rest.eq_nil, List.append_nil]

theorem Decodes.append {middle : Nat} (front : view.Decodes index chars middle)
    (back : view.Decodes middle chars' stop) : view.Decodes index (chars ++ chars') stop := by
  induction front with
  | nil => exact back
  | cons decoded _ inductionHypothesis => exact .cons decoded (inductionHypothesis back)

theorem Decodes.exists_middle (decodes : view.Decodes index (chars ++ chars') stop) :
    ∃ middle, view.Decodes index chars middle ∧ view.Decodes middle chars' stop := by
  induction chars generalizing index with
  | nil => exact ⟨index, .nil, decodes⟩
  | cons char rest inductionHypothesis =>
      cases decodes with
      | cons decoded further =>
          obtain ⟨middle, front, back⟩ := inductionHypothesis further
          exact ⟨middle, .cons decoded front, back⟩

theorem Decodes.stop_unique (left : view.Decodes index chars stop)
    (right : view.Decodes index chars stop') : stop = stop' := by
  rcases left.comparable right with ⟨more, same, rest⟩ | ⟨more, same, rest⟩
  · rw [List.self_eq_append_right.mp same, decodes_nil_iff] at rest
    exact rest.symm
  · rw [List.self_eq_append_right.mp same, decodes_nil_iff] at rest
    exact rest

/-- Every boundary is reached from the start of the text. -/
theorem exists_decodes_of_isBoundary (index : Nat) (boundary : view.IsBoundary index)
    (inside : index ≤ view.length) : ∃ front, view.Decodes 0 front index := by
  cases index with
  | zero => exact ⟨[], .nil⟩
  | succ before =>
      obtain ⟨start, char, count, startBoundary, decoded, endEq⟩ :=
        exists_decodeAt_of_isBoundary boundary inside
      have bounds := bounds_of_decodeAt decoded
      obtain ⟨front, decodes⟩ :=
        exists_decodes_of_isBoundary start startBoundary (Nat.le_of_lt bounds.1)
      refine ⟨front ++ [char], decodes.append (.cons decoded ?_)⟩
      rw [endEq]
      exact .nil
termination_by index

theorem indexedCodePointsFrom_of_decodeAt (decoded : view.decodeAt index = some (char, count)) :
    view.indexedCodePointsFrom index =
      (index, char) :: view.indexedCodePointsFrom (index + count) := by
  rw [indexedCodePointsFrom]
  split
  · rename_i absent
    rw [decoded] at absent
    contradiction
  · rename_i found
    rw [decoded] at found
    obtain ⟨rfl, rfl⟩ := Prod.mk.inj (Option.some.inj found)
    rfl

theorem indexedCodePointsFrom_of_outside (outside : view.length ≤ index) :
    view.indexedCodePointsFrom index = [] := by
  rw [indexedCodePointsFrom]
  split
  · rfl
  · rename_i found
    exact absurd (bounds_of_decodeAt found).1 (Nat.not_lt.mpr outside)

theorem indexedCodePointsFrom_length : view.indexedCodePointsFrom view.length = [] :=
  indexedCodePointsFrom_of_outside (Nat.le_refl _)

/-- What is decoded from a place comes first among the code points from there on. -/
theorem Decodes.codePointsFrom (decodes : view.Decodes index chars stop) :
    (view.indexedCodePointsFrom index).map Prod.snd =
      chars ++ (view.indexedCodePointsFrom stop).map Prod.snd := by
  induction decodes with
  | nil => rfl
  | cons decoded _ inductionHypothesis =>
      rw [indexedCodePointsFrom_of_decodeAt decoded, List.map_cons, inductionHypothesis,
        List.cons_append]

theorem Decodes.codePoints (decodes : view.Decodes 0 chars view.length) :
    view.codePoints = chars := by
  rw [View.codePoints, indexedCodePoints, decodes.codePointsFrom, indexedCodePointsFrom_length,
    List.map_nil, List.append_nil]

theorem decodes_codePoints (view : View) : view.Decodes 0 view.codePoints view.length := by
  obtain ⟨chars, decodes⟩ :=
    exists_decodes_of_isBoundary view.length isBoundary_length (Nat.le_refl _)
  rwa [decodes.codePoints]

/-- A word is decoded from where it stands encoded. -/
theorem decodes_of_startsWithAt {word : List Char} :
    ∀ {index : Nat}, view.startsWithAt index (CodeUnit.ofChars word) = true →
      view.Decodes index word (index + (CodeUnit.ofChars word).length) := by
  induction word with
  | nil => exact fun _ => .nil
  | cons char rest inductionHypothesis =>
      intro index occurs
      rw [CodeUnit.ofChars_cons, startsWithAt_append] at occurs
      rw [CodeUnit.ofChars_cons, List.length_append, ← Nat.add_assoc]
      exact .cons (decodeAt_of_startsWithAt occurs.1) (inductionHypothesis occurs.2)

theorem startsWithAt_of_decodes (decodes : view.Decodes index chars stop)
    (inside : index ≤ view.length) (known : CodeUnit.replacement ∉ chars) :
    view.startsWithAt index (CodeUnit.ofChars chars) = true := by
  induction decodes with
  | nil => rwa [CodeUnit.ofChars_nil, startsWithAt, decide_eq_true_eq]
  | cons decoded _ inductionHypothesis =>
      rw [List.mem_cons, not_or] at known
      obtain ⟨occurs, countEq⟩ := startsWithAt_of_decodeAt decoded (Ne.symm known.1)
      rw [CodeUnit.ofChars_cons, startsWithAt_append, ← countEq]
      exact ⟨occurs, inductionHypothesis (add_le_length_of_decodeAt decoded) known.2⟩

theorem units_ofString (text : String) :
    (View.ofString text).units = CodeUnit.ofChars text.toList := by
  simp only [units, ofString, ofChars, ofUnits, Array.extract_size]

theorem length_ofString (text : String) :
    (View.ofString text).length = (CodeUnit.ofChars text.toList).length := by
  rw [← length_units, units_ofString]

theorem startsWithAt_ofString (text : String) :
    (View.ofString text).startsWithAt 0 (CodeUnit.ofChars text.toList) = true := by
  rw [startsWithAt_iff (Nat.zero_le _)]
  exact ⟨[], by rw [List.append_nil, List.drop_zero, units_ofString]⟩

theorem decodes_ofString (text : String) :
    (View.ofString text).Decodes 0 text.toList (View.ofString text).length := by
  have decodes := decodes_of_startsWithAt (startsWithAt_ofString text)
  rwa [Nat.zero_add, ← length_ofString] at decodes

/-! ## Spelling -/

/-- The `length` units from `index` on spell a word, in its own units or, if case is ignored, in
code points that fold to it. -/
def Spells (view : View) (ignoresCase : Bool) (index : Nat) (word : List Char) (length : Nat) :
    Prop :=
  if ignoresCase then
    ∃ chars, view.Decodes index chars (index + length) ∧ chars.map CaseFold.fold = word
  else
    CodeUnit.ofChars word <+: view.units.drop index ∧ length = (CodeUnit.ofChars word).length

variable {ignoresCase : Bool} {word longer : List Char} {length length' : Nat}

theorem spells_heeding_iff_startsWithAt (inside : index ≤ view.length) :
    view.Spells false index word length ↔
      view.startsWithAt index (CodeUnit.ofChars word) = true ∧
        length = (CodeUnit.ofChars word).length := by
  rw [Spells, if_neg Bool.false_ne_true, startsWithAt_iff inside]

theorem spells_nil_iff : view.Spells ignoresCase index [] length ↔ length = 0 := by
  cases ignoresCase with
  | false =>
      simp only [Spells, Bool.false_eq_true, if_false, CodeUnit.ofChars_nil, List.nil_prefix,
        List.length_nil, true_and]
  | true =>
      simp only [Spells, if_true]
      constructor
      · rintro ⟨chars, decodes, folded⟩
        rw [List.map_eq_nil_iff.mp folded, decodes_nil_iff] at decodes
        exact Nat.add_eq_left.mp decodes
      · rintro rfl
        exact ⟨[], .nil, rfl⟩

/-- Of two words that are spelled from one place, the one with more units takes more of the text. -/
theorem Spells.le (shorter : view.Spells ignoresCase index word length)
    (longerSpelled : view.Spells ignoresCase index longer length')
    (atLeast : (CodeUnit.ofChars word).length ≤ (CodeUnit.ofChars longer).length) :
    length ≤ length' := by
  cases ignoresCase with
  | false =>
      simp only [Spells, Bool.false_eq_true, if_false] at shorter longerSpelled
      rw [shorter.2, longerSpelled.2]
      exact atLeast
  | true =>
      simp only [Spells, if_true] at shorter longerSpelled
      obtain ⟨chars, decodes, rfl⟩ := shorter
      obtain ⟨chars', decodes', rfl⟩ := longerSpelled
      rcases decodes.comparable decodes' with ⟨more, rfl, rest⟩ | ⟨more, rfl, rest⟩
      · exact Nat.le_of_add_le_add_left rest.le
      · rw [List.map_append, CodeUnit.ofChars_append, List.length_append] at atLeast
        have nothing : more.map CaseFold.fold = [] :=
          CodeUnit.eq_nil_of_length_ofChars (by omega)
        rw [List.map_eq_nil_iff.mp nothing, decodes_nil_iff] at rest
        omega

/-- All of a string spells the string itself, or what it folds to, and nothing else. -/
theorem spells_ofString_iff (text : String) :
    (View.ofString text).Spells ignoresCase 0 word (View.ofString text).length ↔
      word = if ignoresCase then text.toList.map CaseFold.fold else text.toList := by
  have decodes := decodes_ofString text
  cases ignoresCase with
  | false =>
      simp only [Spells, Bool.false_eq_true, if_false, List.drop_zero]
      constructor
      · rintro ⟨isPrefix, lengthEq⟩
        have occurs := (startsWithAt_iff (Nat.zero_le _)).mpr isPrefix
        have wordDecodes := decodes_of_startsWithAt occurs
        rw [Nat.zero_add, ← lengthEq] at wordDecodes
        exact wordDecodes.unique decodes
      · rintro rfl
        rw [← length_units, units_ofString]
        exact ⟨List.prefix_refl _, rfl⟩
  | true =>
      simp only [Spells, if_true, Nat.zero_add]
      constructor
      · rintro ⟨chars, charsDecode, rfl⟩
        rw [charsDecode.unique decodes]
      · rintro rfl
        exact ⟨text.toList, decodes, rfl⟩

end View

end TextMatch
