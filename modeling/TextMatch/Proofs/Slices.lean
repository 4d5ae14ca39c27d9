import TextMatch.Proofs.Boundaries

/-!
# Slices

Slices that meet have the units of the slice that spans both.  They have its text as well if they
meet at a boundary.
-/

namespace TextMatch

/-! ## Decoding in two parts -/

/-- A text may be decoded in two parts if no pair is cut apart. -/
theorem CodeUnit.decode_append {front back : List CodeUnit}
    (apart : ∀ high low, front.getLast? = some high → back.head? = some low →
      (isHigh high && isLow low) = false) :
    decode (front ++ back) = decode front ++ decode back := by
  fun_induction decode front with
  | case1 => rfl
  | case2 unit =>
      cases back with
      | nil => rfl
      | cons low rest =>
          have notPair := apart unit low rfl rfl
          simp [decode, notPair]
  | case3 high low rest isPair inductionHypothesis =>
      have restDecoded : decode (rest ++ back) = decode rest ++ decode back := by
        apply inductionHypothesis
        intro last next isLast isNext
        apply apart last next _ isNext
        simp [isLast, List.getLast?_cons]
      simp [decode, isPair, restDecoded]
  | case4 unit next rest notPair inductionHypothesis =>
      have restDecoded := inductionHypothesis fun last first isLast isFirst =>
        apart last first (by simpa using isLast) isFirst
      rw [List.cons_append] at restDecoded
      simp [decode, notPair, restDecoded]

namespace View

variable {view piece : View} {first last : Nat}

/-! ## Windows -/

theorem exists_slice (ordered : first ≤ last) (inside : last ≤ view.length) :
    ∃ piece, view.slice first last = .ok piece := by
  simp [slice, ordered, inside]

theorem bounds_of_slice (sliced : view.slice first last = .ok piece) :
    first ≤ last ∧ last ≤ view.length := by
  rw [slice] at sliced
  split at sliced
  · assumption
  · contradiction

/-- A slice is a window on the same text. -/
theorem window_of_slice (sliced : view.slice first last = .ok piece) :
    piece.source = view.source ∧ piece.start = view.start + first ∧
      piece.stop = view.start + last := by
  rw [slice] at sliced
  split at sliced
  · injection sliced with pieceEq
    subst piece
    exact ⟨rfl, rfl, rfl⟩
  · contradiction

theorem length_of_slice (sliced : view.slice first last = .ok piece) :
    piece.length = last - first := by
  obtain ⟨-, startEq, stopEq⟩ := window_of_slice sliced
  rw [length]
  omega

theorem isEmpty_iff_of_slice (sliced : view.slice first last = .ok piece) :
    piece.isEmpty = true ↔ first = last := by
  have ordered := (bounds_of_slice sliced).1
  simp only [isEmpty, length_of_slice sliced, beq_iff_eq]
  omega

theorem slice_whole (view : View) : view.slice 0 view.length = .ok view := by
  have ordered := view.start_le_stop
  have stopEq : view.start + view.length = view.stop := by
    rw [length]
    omega
  simp only [slice, Nat.zero_le, Nat.le_refl, and_self, dite_true, Nat.add_zero, stopEq]

/-! ## Units and texts -/

theorem units_getElem? (view : View) (index : Nat) : view.units[index]? = view.unit? index := by
  have startLe := view.start_le_stop
  have stopLe := view.stop_le_size
  rw [units, unit?, length, Array.getElem?_toList, Array.getElem?_extract, Nat.min_eq_left stopLe]

theorem length_units (view : View) : view.units.length = view.length := by
  have stopLe := view.stop_le_size
  rw [units, length, Array.length_toList, Array.size_extract, Nat.min_eq_left stopLe]

theorem drop_units {index : Nat} {unit : CodeUnit} (found : view.unit? index = some unit) :
    view.units.drop index = unit :: view.units.drop (index + 1) := by
  rw [← units_getElem?] at found
  obtain ⟨inside, unitEq⟩ := List.getElem?_eq_some_iff.mp found
  rw [List.drop_eq_getElem_cons inside, unitEq]

theorem prefix_of_startsWithAt {expected : List CodeUnit} :
    ∀ {index : Nat}, view.startsWithAt index expected = true →
      expected <+: view.units.drop index := by
  induction expected with
  | nil => exact fun _ => List.nil_prefix
  | cons unit rest inductionHypothesis =>
      intro index occurs
      simp only [startsWithAt, Bool.and_eq_true, beq_iff_eq] at occurs
      obtain ⟨unitAt, restOccurs⟩ := occurs
      rw [drop_units unitAt]
      exact (List.prefix_cons_inj unit).mpr (inductionHypothesis restOccurs)

theorem unit?_of_slice (sliced : view.slice first last = .ok piece) (index : Nat) :
    piece.unit? index = if index < last - first then view.unit? (first + index) else none := by
  obtain ⟨sourceEq, startEq, -⟩ := window_of_slice sliced
  obtain ⟨ordered, inside⟩ := bounds_of_slice sliced
  unfold unit?
  rw [length_of_slice sliced]
  by_cases before : index < last - first
  · have insideView : first + index < view.length := by omega
    have sameUnit : piece.start + index = view.start + (first + index) := by omega
    simp only [before, insideView, if_true, sourceEq, sameUnit]
  · simp only [before, if_false]

theorem units_of_slice (sliced : view.slice first last = .ok piece) :
    piece.units = (view.units.drop first).take (last - first) := by
  apply List.ext_getElem?
  intro index
  rw [units_getElem?, unit?_of_slice sliced, List.getElem?_take, List.getElem?_drop,
    units_getElem?]

/-- A code point is decoded from a slice that has all its units. -/
theorem decodeAt_of_slice {index count : Nat} {char : Char}
    (sliced : view.slice first last = .ok piece)
    (decoded : view.decodeAt (first + index) = some (char, count))
    (inside : index + count ≤ last - first) : piece.decodeAt index = some (char, count) := by
  have positive := (bounds_of_decodeAt decoded).2
  have unitEq : piece.unit? index = view.unit? (first + index) := by
    rw [unit?_of_slice sliced, if_pos (by omega)]
  have nextEq := unit?_of_slice sliced (index + 1)
  by_cases further : index + 1 < last - first
  · rw [if_pos further, ← Nat.add_assoc] at nextEq
    rw [decodeAt, unitEq, nextEq]
    exact decoded
  · -- The slice ends behind the unit, which is decoded alone in the view as well.
    rw [if_neg further] at nextEq
    obtain ⟨unit, found⟩ := exists_unit?_of_lt (bounds_of_decodeAt decoded).1
    have noPair : view.hasPairAt (first + index) = false := by
      have countEq := length_of_decodeAt decoded
      rw [Bool.eq_false_iff]
      intro isPair
      rw [if_pos isPair] at countEq
      omega
    rw [decodeAt_of_noPair found noPair] at decoded
    rw [decodeAt, unitEq, nextEq, found]
    exact decoded

/-- What comes first in a view has the boundaries that lie inside it. -/
theorem isBoundary_of_slice {index : Nat} (sliced : view.slice 0 last = .ok piece)
    (before : index < last) (boundary : view.IsBoundary index) : piece.IsBoundary index := by
  have unitEq : ∀ place, place < last → piece.unit? place = view.unit? place := by
    intro place placeBefore
    rw [unit?_of_slice sliced, if_pos (by omega), Nat.zero_add]
  cases index with
  | zero => exact isBoundary_zero
  | succ earlier =>
      rw [isBoundary_succ_iff, hasPairAt, unitPasses, unitPasses] at boundary ⊢
      rwa [unitEq _ (Nat.lt_of_succ_lt before), unitEq _ before]

variable {front back whole : View} {middle : Nat}

theorem units_of_slices (frontSliced : view.slice first middle = .ok front)
    (backSliced : view.slice middle last = .ok back)
    (sliced : view.slice first last = .ok whole) :
    whole.units = front.units ++ back.units := by
  have frontBounds := bounds_of_slice frontSliced
  have backBounds := bounds_of_slice backSliced
  have lengths : last - first = (middle - first) + (last - middle) := by omega
  have offsets : first + (middle - first) = middle := by omega
  rw [units_of_slice sliced, units_of_slice frontSliced, units_of_slice backSliced, lengths,
    List.take_add, List.drop_drop, offsets]

theorem text_of_slices (frontSliced : view.slice first middle = .ok front)
    (backSliced : view.slice middle last = .ok back)
    (sliced : view.slice first last = .ok whole) (boundary : view.IsBoundary middle) :
    whole.text = front.text ++ back.text := by
  unfold text
  rw [units_of_slices frontSliced backSliced sliced, ← String.ofList_append]
  congr 1
  apply CodeUnit.decode_append
  intro high low isLast isFirst
  rw [List.getLast?_eq_getElem?, units_getElem?, length_units, unit?_of_slice frontSliced,
    length_of_slice frontSliced] at isLast
  rw [List.head?_eq_getElem?, units_getElem?, unit?_of_slice backSliced] at isFirst
  have lastInside := (Option.ite_none_right_eq_some.mp isLast).1
  have highAt := (Option.ite_none_right_eq_some.mp isLast).2
  have lowAt := (Option.ite_none_right_eq_some.mp isFirst).2
  obtain ⟨before, rfl⟩ : ∃ before, middle = before + 1 := ⟨middle - 1, by omega⟩
  have highOffset : first + (before + 1 - first - 1) = before := by omega
  rw [highOffset] at highAt
  rw [isBoundary_succ_iff] at boundary
  simpa [hasPairAt, unitPasses, highAt, lowAt] using boundary

end View

end TextMatch
