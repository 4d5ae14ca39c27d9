import TextMatch.Proofs.EncodedWords
import TextMatch.Proofs.ReadySteps
import TextMatch.Proofs.SameText

/-!
# Reading back

At a boundary, the code point before is read from the text before alone, and it is what its units
are decoded as.  Inside a surrogate pair it is the code point of the whole pair, although the pair
ends only behind that place: the text before reads as a lone surrogate there.
-/

namespace TextMatch

/-- The code point of a pair does not stand for a surrogate without its partner. -/
theorem CodeUnit.pair_ne_replacement {high low : CodeUnit} (isHigh : isHigh high = true)
    (isLow : isLow low = true) : pair high low ≠ replacement := by
  intro same
  have two : (ofChar (pair high low)).length = 2 := by
    rw [ofChar_pair isHigh isLow, List.length_cons, List.length_singleton]
  have one : (ofChar replacement).length = 1 := by decide
  rw [same, one] at two
  exact absurd two (by decide)

namespace View

variable {view front : View} {index count : Nat} {char : Char}

/-! ## The code point before -/

/-- One unit behind a boundary, the code point that starts at the boundary is read. -/
theorem codePointBefore_succ (boundary : view.IsBoundary index)
    (decoded : view.decodeAt index = some (char, count)) :
    view.codePointBefore (index + 1) = some (char, 1) := by
  have inside := (bounds_of_decodeAt decoded).1
  have noPairBefore : ¬ (2 ≤ index + 1 ∧ view.hasPairAt (index + 1 - 2) = true) := by
    rintro ⟨behindStart, pairBefore⟩
    rcases boundary with atStart | noPair
    · omega
    · rw [show index + 1 - 2 = index - 1 by omega, noPair] at pairBefore
      contradiction
  rw [codePointBefore, if_neg (by omega), if_neg noPairBefore, Nat.add_sub_cancel, codePointAt,
    decoded, Option.map_some, Option.map_some]

/-- Where a code point ends that starts at a boundary, it is the one before. -/
theorem codePointBefore_of_decodeAt (boundary : view.IsBoundary index)
    (decoded : view.decodeAt index = some (char, count)) :
    view.codePointBefore (index + count) = some (char, count) := by
  have inside := add_le_length_of_decodeAt decoded
  have countEq := length_of_decodeAt decoded
  by_cases isPair : view.hasPairAt index = true
  · rw [if_pos isPair] at countEq
    subst countEq
    rw [codePointBefore, if_neg (by omega), if_pos ⟨Nat.le_add_left 2 index, isPair⟩,
      Nat.add_sub_cancel, codePointAt, decoded, Option.map_some, Option.map_some]
  · rw [if_neg isPair] at countEq
    subst countEq
    exact codePointBefore_succ boundary decoded

/-! ## The text before -/

/-- How the code point before `index` relates to the `units` from its start to `index`, and to the
`front` of the view, which ends at `index`. -/
structure ReadsBack (view : View) (index : Nat) (char : Char) (count : Nat) (front units : View) :
    Prop where
  fromView : view.codePointBefore index = some (char, count)
  count_le : count ≤ index
  frontSliced : view.slice 0 index = .ok front
  unitsSliced : view.slice (index - count) index = .ok units
  fromFront : front.codePointBefore index = some (char, count) ↔ view.IsBoundary index
  fromUnits : units.codePoints = [char] ↔ view.IsBoundary index

/-- A single unit is decoded alone where it is cut off from what follows. -/
theorem decodeAt_of_slice_unit {unit : CodeUnit} {first : Nat} {piece : View}
    (sliced : view.slice first (index + 1) = .ok piece) (ordered : first ≤ index)
    (found : view.unit? index = some unit) :
    piece.decodeAt (index - first) = some (CodeUnit.alone unit, 1) := by
  have unitAt : piece.unit? (index - first) = some unit := by
    rw [unit?_of_slice sliced, if_pos (by omega), Nat.add_sub_cancel' ordered, found]
  have nothingBehind : piece.unit? (index - first + 1) = none := by
    rw [unit?_of_slice sliced, if_neg (by omega)]
  rw [decodeAt, unitAt, nothingBehind]

theorem exists_readsBack_of_isBoundary (boundary : view.IsBoundary (index + 1))
    (inside : index < view.length) :
    ∃ char count front units, view.ReadsBack (index + 1) char count front units := by
  obtain ⟨start, char, count, startBoundary, decoded, endEq⟩ :=
    exists_decodeAt_of_isBoundary boundary inside
  rw [← endEq] at boundary ⊢
  have bound := add_le_length_of_decodeAt decoded
  have positive := (bounds_of_decodeAt decoded).2
  obtain ⟨front, frontSliced⟩ := exists_slice (Nat.zero_le (start + count)) bound
  obtain ⟨units, unitsSliced⟩ := exists_slice (Nat.le_add_right start count) bound
  have decodedIn : front.decodeAt start = some (char, count) := by
    apply decodeAt_of_slice frontSliced
    · rwa [Nat.zero_add]
    · exact Nat.le_refl _
  have startsIn : front.IsBoundary start :=
    isBoundary_of_slice frontSliced (Nat.lt_add_of_pos_right positive) startBoundary
  have decodedAlone : units.decodeAt 0 = some (char, count) :=
    decodeAt_of_slice unitsSliced decoded (by omega)
  have decodes : units.Decodes 0 [char] units.length := by
    rw [length_of_slice unitsSliced, Nat.add_sub_cancel_left]
    refine .cons decodedAlone ?_
    rw [Nat.zero_add]
    exact .nil
  refine ⟨char, count, front, units, ?_⟩
  exact {
    fromView := codePointBefore_of_decodeAt startBoundary decoded
    count_le := Nat.le_add_left _ _
    frontSliced := frontSliced
    unitsSliced := by rwa [Nat.add_sub_cancel]
    fromFront := iff_of_true (codePointBefore_of_decodeAt startsIn decodedIn) boundary
    fromUnits := iff_of_true decodes.codePoints boundary }

/-- Inside a pair the whole pair is read, of which the text before has only a lone surrogate. -/
theorem exists_readsBack_of_not_isBoundary (notBoundary : ¬ view.IsBoundary (index + 1)) :
    ∃ char count front units, view.ReadsBack (index + 1) char count front units := by
  obtain ⟨high, low, start, highAt, lowAt, isHigh, isLow⟩ :=
    exists_pair_of_not_isBoundary notBoundary
  have decoded := decodeAt_of_pair highAt lowAt isHigh isLow
  have lone : CodeUnit.alone high = CodeUnit.replacement := by
    rw [CodeUnit.alone, isHigh, Bool.true_or, if_pos rfl]
  have distinct := CodeUnit.pair_ne_replacement isHigh isLow
  have inside : index + 1 ≤ view.length := lt_length_of_unit? highAt
  obtain ⟨front, frontSliced⟩ := exists_slice (Nat.zero_le (index + 1)) inside
  obtain ⟨units, unitsSliced⟩ := exists_slice (Nat.le_add_right index 1) inside
  have frontBefore : front.codePointBefore (index + 1) = some (CodeUnit.replacement, 1) := by
    rw [← lone]
    apply codePointBefore_succ
    · exact isBoundary_of_slice frontSliced (Nat.lt_succ_self index) start
    · exact decodeAt_of_slice_unit frontSliced (Nat.zero_le _) highAt
  have unitsDecode : units.Decodes 0 [CodeUnit.replacement] units.length := by
    have decodedAlone := decodeAt_of_slice_unit unitsSliced (Nat.le_refl _) highAt
    rw [Nat.sub_self, lone] at decodedAlone
    rw [length_of_slice unitsSliced, Nat.add_sub_cancel_left]
    exact .cons decodedAlone .nil
  refine ⟨CodeUnit.pair high low, 1, front, units, ?_⟩
  exact {
    fromView := codePointBefore_succ start decoded
    count_le := Nat.le_add_left _ _
    frontSliced := frontSliced
    unitsSliced := by rwa [Nat.add_sub_cancel]
    fromFront := by
      refine iff_of_false ?_ notBoundary
      rw [frontBefore]
      intro same
      exact distinct (Prod.mk.inj (Option.some.inj same)).1.symm
    fromUnits := by
      refine iff_of_false ?_ notBoundary
      rw [unitsDecode.codePoints]
      intro same
      exact distinct (List.cons.inj same).1.symm }

theorem exists_readsBack (behindStart : 0 < index) (inside : index ≤ view.length) :
    ∃ char count front units, view.ReadsBack index char count front units := by
  obtain ⟨before, rfl⟩ := Nat.exists_eq_succ_of_ne_zero (Nat.ne_of_gt behindStart)
  by_cases boundary : view.IsBoundary (before + 1)
  · exact exists_readsBack_of_isBoundary boundary inside
  · exact exists_readsBack_of_not_isBoundary boundary

/-- Before a boundary, the same code point is read whatever units follow. -/
theorem codePointBefore_congr {left right : View} (inside : index ≤ left.length)
    (inside' : index ≤ right.length) (same : left.units.take index = right.units.take index)
    (boundary : left.IsBoundary index) (boundary' : right.IsBoundary index) :
    left.codePointBefore index = right.codePointBefore index := by
  cases index with
  | zero => rfl
  | succ before =>
      obtain ⟨_, _, front, _, reads⟩ := exists_readsBack (Nat.succ_pos before) inside
      obtain ⟨_, _, front', _, reads'⟩ := exists_readsBack (Nat.succ_pos before) inside'
      have sameFront : front.SameText front' := by
        rw [SameText, units_of_slice reads.frontSliced, units_of_slice reads'.frontSliced]
        exact same
      have fromFront := reads.fromFront.mpr boundary
      have fromFront' := reads'.fromFront.mpr boundary'
      rw [reads.fromView, reads'.fromView, ← fromFront, ← fromFront', sameFront.codePointBefore]

end View

/-! ## Looking behind -/

theorem Matcher.run_behind_of_ready (members : CodePointClass) {cursor : Cursor}
    (ready : cursor.Ready) :
    (Matcher.behind members).run cursor =
      if !cursor.isAtStart && (cursor.previousCodePoint.any fun previous =>
          members.contains previous.1) then
        .matched cursor
      else
        .noMatch := by
  rw [Matcher.run, Matcher.step, Step.behind, Step.require, Step.guarded_of_ready _ ready]
  split
  · rfl
  · rfl

/-- What stands before an offset is read from the text before it just where the offset is a
boundary.  At boundaries behind the same text, a look behind comes to the same, whatever follows. -/
theorem boundaries_are_read_back (view : View) (index : Nat) (inside : index ≤ view.length) :
    (0 < index → ∃ char count front units, view.ReadsBack index char count front units) ∧
      ∀ (members : CodePointClass) (left right : Cursor), left.Ready → right.Ready →
        left.view = view → left.position = index → right.position = index →
        right.view.units.take index = view.units.take index →
        view.IsBoundary index → right.view.IsBoundary index →
        ((Matcher.behind members).run left = .matched left ∧
            (Matcher.behind members).run right = .matched right) ∨
          ((Matcher.behind members).run left = .noMatch ∧
            (Matcher.behind members).run right = .noMatch) := by
  refine ⟨fun behindStart => View.exists_readsBack behindStart inside, ?_⟩
  rintro members left right ready ready' rfl rfl samePosition sameBefore boundary boundary'
  have samePrevious : left.previousCodePoint = right.previousCodePoint := by
    rw [Cursor.previousCodePoint, Cursor.previousCodePoint, samePosition]
    have inside' := ready'.position_le
    rw [samePosition] at inside'
    exact View.codePointBefore_congr inside inside' sameBefore.symm boundary boundary'
  rw [Matcher.run_behind_of_ready members ready, Matcher.run_behind_of_ready members ready',
    ← samePrevious, Cursor.isAtStart, Cursor.isAtStart, samePosition]
  split
  · exact .inl ⟨rfl, rfl⟩
  · exact .inr ⟨rfl, rfl⟩

theorem boundaries_are_read_back_behind_letters :
    let view := View.ofString "a😀b"
    let left := Cursor.fresh view 1
    let right := Cursor.fresh (View.ofUnits #[0x61, 0xDE00]) 1
    let letter : CodePointClass := .range 'a' 'z'
    (∃ front units, view.ReadsBack 3 '😀' 2 front units) ∧
      (Matcher.behind letter).run left = .matched left ∧
      (Matcher.behind letter).run right = .matched right := by
  intro view left right letter
  constructor
  · obtain ⟨char, count, front, units, back⟩ :=
      (boundaries_are_read_back view 3 (by decide)).1 (by decide)
    have read : view.codePointBefore 3 = some ('😀', 2) := by decide +kernel
    rw [back.fromView] at read
    obtain ⟨rfl, rfl⟩ := Prod.mk.inj (Option.some.inj read)
    exact ⟨front, units, back⟩
  · have ready : left.Ready := Cursor.ready_fresh (by decide)
    have ready' : right.Ready := Cursor.ready_fresh (by decide)
    have looks := (boundaries_are_read_back view 1 (by decide)).2 letter left right ready ready'
      rfl rfl rfl (by decide) (by decide) (by decide)
    rcases looks with matched | ⟨misses, -⟩
    · exact matched
    · have matched : (Matcher.behind letter).run left = .matched left := by decide +kernel
      rw [misses] at matched
      contradiction

/-- Inside a pair, what is read back is not in the text before. -/
theorem pairs_are_read_ahead :
    let view := View.ofString "😀"
    let smile : CodePointClass := .literal '😀'
    view.codePointBefore 1 = some ('😀', 1) ∧
      (Matcher.behind smile).run (Cursor.fresh view 1) = .matched (Cursor.fresh view 1) ∧
      ∃ front, view.slice 0 1 = .ok front ∧
        front.codePointBefore 1 = some (CodeUnit.replacement, 1) ∧
        front.codePoints = [CodeUnit.replacement] ∧
        (Matcher.behind smile).run (Cursor.fresh front 1) = .noMatch := by
  intro view smile
  refine ⟨by decide +kernel, by decide +kernel, _, rfl, by decide +kernel, by decide +kernel,
    by decide +kernel⟩

end TextMatch
