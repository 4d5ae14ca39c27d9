import Mathlib.Algebra.GroupWithZero.Nat
import TextMatch.Proofs.ReadingBack

/-!
# The tiling of a text by its code points

From code point to code point every unit is covered once, by a surrogate pair or alone.  What is
decoded encodes the text again, except that the replacement character stands for each surrogate
without its partner, and the way back from the end meets the same code points.
-/

namespace TextMatch

namespace CodeUnit

/-- The number of units that encode a code point. -/
def unitCount (char : Char) : Nat :=
  if char.toNat < 0x10000 then 1 else 2

theorem length_ofChar (char : Char) : (ofChar char).length = unitCount char := by
  rw [ofChar, unitCount]
  split
  · rfl
  · rfl

end CodeUnit

namespace View

variable {view : View} {index first last count : Nat} {char : Char}
  {items : List (Nat × Char)}

/-! ## Tiles -/

/-- What stands at an offset, as a code point and a number of units: a surrogate pair, or a unit
that begins none. -/
inductive Covers (view : View) (index : Nat) : Char → Nat → Prop
  | pair {high low : CodeUnit} : view.unit? index = some high → view.unit? (index + 1) = some low →
      CodeUnit.isHigh high = true → CodeUnit.isLow low = true →
      Covers view index (CodeUnit.pair high low) 2
  | single {unit : CodeUnit} : view.unit? index = some unit → view.hasPairAt index = false →
      Covers view index (CodeUnit.alone unit) 1

theorem Covers.decodeAt (covers : view.Covers index char count) :
    view.decodeAt index = some (char, count) := by
  cases covers with
  | pair highAt lowAt isHigh isLow => exact decodeAt_of_pair highAt lowAt isHigh isLow
  | single found noPair => exact decodeAt_of_noPair found noPair

theorem covers_of_decodeAt (decoded : view.decodeAt index = some (char, count)) :
    view.Covers index char count := by
  cases isPair : view.hasPairAt index with
  | true =>
      obtain ⟨high, low, highAt, lowAt, isHigh, isLow⟩ := hasPairAt_iff.mp isPair
      rw [decodeAt_of_pair highAt lowAt isHigh isLow] at decoded
      obtain ⟨rfl, rfl⟩ := Prod.mk.inj (Option.some.inj decoded)
      exact .pair highAt lowAt isHigh isLow
  | false =>
      obtain ⟨unit, found⟩ := exists_unit?_of_lt (bounds_of_decodeAt decoded).1
      rw [decodeAt_of_noPair found isPair] at decoded
      obtain ⟨rfl, rfl⟩ := Prod.mk.inj (Option.some.inj decoded)
      exact .single found isPair

/-- The units `first..last` are covered by code points, each from where the one before it ends. -/
inductive Tiles (view : View) : Nat → List (Nat × Char) → Nat → Prop
  | nil {index : Nat} : Tiles view index [] index
  | cons {index last : Nat} {char : Char} {items : List (Nat × Char)} :
      view.Covers index char (view.codePointLengthAt index) →
      Tiles view (index + view.codePointLengthAt index) items last →
      Tiles view index ((index, char) :: items) last

theorem tiles_indexedCodePointsFrom (view : View) (index : Nat) (inside : index ≤ view.length) :
    view.Tiles index (view.indexedCodePointsFrom index) view.length := by
  fun_induction indexedCodePointsFrom view index with
  | case1 index ends =>
      rw [Nat.le_antisymm inside (length_le_of_decodeAt_eq_none ends)]
      exact .nil
  | case2 index char count decoded inductionHypothesis =>
      have further := inductionHypothesis (add_le_length_of_decodeAt decoded)
      obtain rfl := codePointLengthAt_of_decodeAt decoded
      exact .cons (covers_of_decodeAt decoded) further

/-! ## Encoding again -/

/-- Whether a surrogate stands at `index` that is no part of a pair. -/
def isLoneAt (view : View) (index : Nat) : Bool :=
  view.unitPasses (fun unit => CodeUnit.isHigh unit || CodeUnit.isLow unit) index &&
    !view.hasPairAt index && decide (view.IsBoundary index)

/-- The units of a view, with the replacement character in place of each surrogate without its
partner. -/
def mendedUnits (view : View) : List CodeUnit :=
  view.units.mapIdx fun index unit => if view.isLoneAt index then 0xFFFD else unit

theorem length_mendedUnits (view : View) : view.mendedUnits.length = view.length := by
  rw [mendedUnits, List.length_mapIdx, length_units]

theorem drop_mendedUnits {unit : CodeUnit} (found : view.unit? index = some unit) :
    view.mendedUnits.drop index =
      (if view.isLoneAt index then 0xFFFD else unit) :: view.mendedUnits.drop (index + 1) := by
  have mended : view.mendedUnits[index]? =
      some (if view.isLoneAt index then 0xFFFD else unit) := by
    rw [mendedUnits, List.getElem?_mapIdx, units_getElem?, found, Option.map_some]
  obtain ⟨inside, unitEq⟩ := List.getElem?_eq_some_iff.mp mended
  rw [List.drop_eq_getElem_cons inside, unitEq]

/-- At a boundary, a unit that begins no pair is encoded again as it is, unless it is lone. -/
theorem ofChar_alone_of_noPair {unit : CodeUnit} (boundary : view.IsBoundary index)
    (found : view.unit? index = some unit) (noPair : view.hasPairAt index = false) :
    CodeUnit.ofChar (CodeUnit.alone unit) = [if view.isLoneAt index then 0xFFFD else unit] := by
  have loneEq : view.isLoneAt index = (CodeUnit.isHigh unit || CodeUnit.isLow unit) := by
    rw [isLoneAt, unitPasses, found, Option.any_some, noPair, Bool.not_false, Bool.and_true,
      decide_eq_true boundary, Bool.and_true]
  rw [loneEq]
  cases surrogate : CodeUnit.isHigh unit || CodeUnit.isLow unit with
  | true =>
      rw [CodeUnit.alone, if_pos surrogate, if_pos rfl]
      rfl
  | false =>
      obtain ⟨notHigh, notLow⟩ := Bool.or_eq_false_iff.mp surrogate
      rw [CodeUnit.ofChar_alone notHigh notLow, if_neg Bool.false_ne_true]

/-- What is covered at a boundary is encoded again by the units that stand there. -/
theorem Covers.drop_mendedUnits (covers : view.Covers index char count)
    (boundary : view.IsBoundary index) :
    view.mendedUnits.drop index =
      CodeUnit.ofChar char ++ view.mendedUnits.drop (index + count) := by
  cases covers with
  | pair highAt lowAt isHigh isLow =>
      have isPair := hasPairAt_iff.mpr ⟨_, _, highAt, lowAt, isHigh, isLow⟩
      have highKept : view.isLoneAt index = false := by
        rw [isLoneAt, isPair, Bool.not_true, Bool.and_false, Bool.false_and]
      have lowKept : view.isLoneAt (index + 1) = false := by
        have inside : ¬ view.IsBoundary (index + 1) := by
          rw [isBoundary_succ_iff, isPair]
          exact Bool.noConfusion
        rw [isLoneAt, decide_eq_false inside, Bool.and_false]
      rw [View.drop_mendedUnits highAt, View.drop_mendedUnits lowAt, highKept, lowKept,
        CodeUnit.ofChar_pair isHigh isLow]
      rfl
  | single found noPair =>
      rw [View.drop_mendedUnits found, ofChar_alone_of_noPair boundary found noPair]
      rfl

theorem Tiles.drop_mendedUnits (tiles : view.Tiles first items last)
    (boundary : view.IsBoundary first) :
    view.mendedUnits.drop first =
      CodeUnit.ofChars (items.map Prod.snd) ++ view.mendedUnits.drop last := by
  induction tiles with
  | nil => rfl
  | cons covers _ inductionHypothesis =>
      have behind := isBoundary_add_of_decodeAt covers.decodeAt
      rw [covers.drop_mendedUnits boundary, inductionHypothesis behind, List.map_cons,
        CodeUnit.ofChars_cons, List.append_assoc]

theorem ofChars_codePoints (view : View) :
    CodeUnit.ofChars view.codePoints = view.mendedUnits := by
  have tiles := tiles_indexedCodePointsFrom view 0 (Nat.zero_le _)
  have covered := tiles.drop_mendedUnits isBoundary_zero
  rw [← length_mendedUnits, List.drop_length, List.append_nil, List.drop_zero] at covered
  exact covered.symm

/-! ## The text -/

theorem Covers.decode_units (covers : view.Covers index char count) :
    CodeUnit.decode (view.units.drop index) =
      char :: CodeUnit.decode (view.units.drop (index + count)) := by
  cases covers with
  | pair highAt lowAt isHigh isLow =>
      rw [drop_units highAt, drop_units lowAt, CodeUnit.decode, isHigh, isLow, Bool.and_self,
        if_pos rfl]
  | @single unit found noPair =>
      rw [drop_units found]
      cases nextFound : view.unit? (index + 1) with
      | none =>
          have nothing : view.units.drop (index + 1) = [] := by
            rw [List.drop_eq_nil_iff]
            rwa [← units_getElem?, List.getElem?_eq_none_iff] at nextFound
          rw [nothing, CodeUnit.decode, CodeUnit.decode]
      | some next =>
          have apart : (CodeUnit.isHigh unit && CodeUnit.isLow next) = false := by
            rwa [hasPairAt, unitPasses, unitPasses, found, nextFound, Option.any_some,
              Option.any_some] at noPair
          rw [drop_units nextFound, CodeUnit.decode, apart, if_neg Bool.false_ne_true]

theorem Tiles.decode_units (tiles : view.Tiles first items last) :
    CodeUnit.decode (view.units.drop first) =
      items.map Prod.snd ++ CodeUnit.decode (view.units.drop last) := by
  induction tiles with
  | nil => rfl
  | cons covers _ inductionHypothesis =>
      rw [covers.decode_units, inductionHypothesis, List.map_cons, List.cons_append]

theorem toList_text (view : View) : view.text.toList = view.codePoints := by
  have tiles := tiles_indexedCodePointsFrom view 0 (Nat.zero_le _)
  have decoded := tiles.decode_units
  rw [← length_units, List.drop_length, List.drop_zero, CodeUnit.decode, List.append_nil]
    at decoded
  rw [text, String.toList_ofList, decoded, View.codePoints, indexedCodePoints]

theorem text_ofString (text : String) : (View.ofString text).text = text := by
  rw [← String.toList_inj, toList_text, (decodes_ofString text).codePoints]

/-! ## The way back -/

theorem bounds_of_codePointBefore (read : view.codePointBefore index = some (char, count)) :
    0 < count ∧ count ≤ index := by
  rw [codePointBefore] at read
  split at read
  · contradiction
  · split at read
    · obtain ⟨_, -, itemEq⟩ := Option.map_eq_some_iff.mp read
      obtain ⟨-, rfl⟩ := Prod.mk.inj itemEq
      omega
    · obtain ⟨_, -, itemEq⟩ := Option.map_eq_some_iff.mp read
      obtain ⟨-, rfl⟩ := Prod.mk.inj itemEq
      omega

/-- The code points before `index`, from there back: where each starts, and its number of units. -/
def codePointsBack (view : View) (index : Nat) : List (Nat × Char × Nat) :=
  match _read : view.codePointBefore index with
  | none => []
  | some (char, count) => (index - count, char, count) :: view.codePointsBack (index - count)
termination_by index
decreasing_by
  have bounds := bounds_of_codePointBefore _read
  omega

theorem codePointsBack_zero : view.codePointsBack 0 = [] := by
  rw [codePointsBack]
  rfl

theorem codePointsBack_of_codePointBefore
    (read : view.codePointBefore index = some (char, count)) :
    view.codePointsBack index =
      (index - count, char, count) :: view.codePointsBack (index - count) := by
  rw [codePointsBack]
  split
  · rename_i absent
    rw [read] at absent
    contradiction
  · rename_i found
    rw [read] at found
    obtain ⟨rfl, rfl⟩ := Prod.mk.inj (Option.some.inj found)
    rfl

/-- The way back over tiles meets them in reverse. -/
theorem Tiles.codePointsBack (tiles : view.Tiles first items last)
    (boundary : view.IsBoundary first) :
    view.codePointsBack last =
      (items.map fun item => (item.1, item.2, view.codePointLengthAt item.1)).reverse ++
        view.codePointsBack first := by
  induction tiles with
  | nil => rfl
  | @cons index last char items covers _ inductionHypothesis =>
      have decoded := covers.decodeAt
      have read := codePointBefore_of_decodeAt boundary decoded
      rw [inductionHypothesis (isBoundary_add_of_decodeAt decoded),
        codePointsBack_of_codePointBefore read, Nat.add_sub_cancel, List.map_cons,
        List.reverse_cons, List.append_assoc, List.singleton_append]

/-! ## Strings -/

/-- In a text that ends with a word, each code point of the word stands behind the units of those
before it. -/
theorem getElem?_indexedCodePointsFrom {word : List Char} :
    ∀ {index : Nat}, view.startsWithAt index (CodeUnit.ofChars word) = true →
      index + (CodeUnit.ofChars word).length = view.length → ∀ place : Nat,
      (view.indexedCodePointsFrom index)[place]? = word[place]?.map fun char =>
        (index + ((word.take place).map CodeUnit.unitCount).sum, char) := by
  induction word with
  | nil =>
      intro index _ ends place
      rw [CodeUnit.ofChars_nil, List.length_nil, Nat.add_zero] at ends
      rw [ends, indexedCodePointsFrom_length, List.getElem?_nil, List.getElem?_nil, Option.map_none]
  | cons char rest inductionHypothesis =>
      intro index occurs ends place
      rw [CodeUnit.ofChars_cons, startsWithAt_append] at occurs
      rw [CodeUnit.ofChars_cons, List.length_append, ← Nat.add_assoc] at ends
      rw [indexedCodePointsFrom_of_decodeAt (decodeAt_of_startsWithAt occurs.1)]
      cases place with
      | zero => rfl
      | succ before =>
          rw [List.getElem?_cons_succ, List.getElem?_cons_succ,
            inductionHypothesis occurs.2 ends before, List.take_succ_cons, List.map_cons,
            List.sum_cons, CodeUnit.length_ofChar, Nat.add_assoc]

/-! ## Exact decoding -/

/-- The code points of a view account for its units, and both ways through the view agree. -/
structure ExactlyDecoded (view : View) : Prop where
  tiled : view.Tiles 0 view.indexedCodePoints view.length
  encodedAgain : CodeUnit.ofChars view.codePoints = view.mendedUnits
  shown : view.text.toList = view.codePoints
  readBack : view.codePointsBack view.length =
    (view.indexedCodePoints.map fun item =>
      (item.1, item.2, view.codePointLengthAt item.1)).reverse

theorem exactlyDecoded (view : View) : view.ExactlyDecoded where
  tiled := tiles_indexedCodePointsFrom view 0 (Nat.zero_le _)
  encodedAgain := ofChars_codePoints view
  shown := toList_text view
  readBack := by
    have tiles := tiles_indexedCodePointsFrom view 0 (Nat.zero_le _)
    rw [tiles.codePointsBack isBoundary_zero, codePointsBack_zero, List.append_nil,
      indexedCodePoints]

end View

/-- The code points of a string are decoded from it, each at the sum of the lengths of those before
it.  Of any units, the code points tile the text, encode it up to its lone surrogates, and are met
in reverse on the way back. -/
theorem decoding_is_exact :
    (∀ text : String, (View.ofString text).codePoints = text.toList ∧
      ∀ place : Nat, (View.ofString text).indexedCodePoints[place]? =
        text.toList[place]?.map fun char =>
          (((text.toList.take place).map CodeUnit.unitCount).sum, char)) ∧
      ∀ view : View, view.ExactlyDecoded := by
  refine ⟨fun text => ⟨(View.decodes_ofString text).codePoints, fun place => ?_⟩,
    View.exactlyDecoded⟩
  have ends : 0 + (CodeUnit.ofChars text.toList).length = (View.ofString text).length := by
    rw [Nat.zero_add, View.length_ofString]
  have stands := View.getElem?_indexedCodePointsFrom (View.startsWithAt_ofString text) ends place
  rwa [Nat.zero_add] at stands

end TextMatch
