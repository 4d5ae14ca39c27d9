import TextMatch.LiteralSet
import TextMatch.Proofs.Outcomes
import TextMatch.Proofs.Slices

/-!
# Views of the same text

Two views may show the same units at different places of different backing texts.  Whatever is read
from one of them is then read from the other at the same offset, and the same slices can be taken.
-/

namespace TextMatch

namespace View

/-- The views show the same units, wherever they lie. -/
def SameText (left right : View) : Prop :=
  left.units = right.units

/-- The two pieces are the same slice, each of its own view: their ranges differ as those of the
views do. -/
def SameSlice (left right piece piece' : View) : Prop :=
  ∃ first last, left.slice first last = .ok piece ∧ right.slice first last = .ok piece'

variable {left right piece piece' : View}

/-- The same slices of two views differ in their ranges as the views do. -/
theorem SameSlice.ranges (slices : left.SameSlice right piece piece') :
    (piece.source = left.source ∧ piece'.source = right.source) ∧
      piece.start + right.start = piece'.start + left.start ∧
      piece.stop + right.start = piece'.stop + left.start := by
  obtain ⟨first, last, sliced, sliced'⟩ := slices
  obtain ⟨sourceEq, startEq, stopEq⟩ := window_of_slice sliced
  obtain ⟨sourceEq', startEq', stopEq'⟩ := window_of_slice sliced'
  exact ⟨⟨sourceEq, sourceEq'⟩, by omega, by omega⟩

/-! ## Reading -/

theorem SameText.unit? (same : left.SameText right) (index : Nat) :
    left.unit? index = right.unit? index := by
  rw [← units_getElem?, ← units_getElem?, same]

theorem SameText.length (same : left.SameText right) : left.length = right.length := by
  rw [← length_units, ← length_units, same]

theorem SameText.addOffset (same : SameText left right) (offset count : Nat) :
    left.addOffset offset count = right.addOffset offset count := by
  rw [View.addOffset, View.addOffset, offsetBound, offsetBound, same.length]

theorem SameText.decodeAt (same : left.SameText right) (index : Nat) :
    left.decodeAt index = right.decodeAt index := by
  simp only [View.decodeAt, same.unit?]

theorem SameText.codePointAt (same : left.SameText right) (index : Nat) :
    left.codePointAt index = right.codePointAt index := by
  simp only [View.codePointAt, same.decodeAt]

theorem SameText.codePointLengthAt (same : left.SameText right) (index : Nat) :
    left.codePointLengthAt index = right.codePointLengthAt index := by
  simp only [View.codePointLengthAt, same.decodeAt]

theorem SameText.hasPairAt (same : left.SameText right) (index : Nat) :
    left.hasPairAt index = right.hasPairAt index := by
  simp only [View.hasPairAt, View.unitPasses, same.unit?]

theorem SameText.codePointBefore (same : left.SameText right) (index : Nat) :
    left.codePointBefore index = right.codePointBefore index := by
  simp only [View.codePointBefore, same.hasPairAt, same.length, same.codePointAt]

theorem SameText.startsWithAt (same : left.SameText right) (expected : List CodeUnit) :
    ∀ index, left.startsWithAt index expected = right.startsWithAt index expected := by
  induction expected with
  | nil =>
      intro index
      simp only [View.startsWithAt, same.length]
  | cons unit rest inductionHypothesis =>
      intro index
      simp only [View.startsWithAt, same.unit?, inductionHypothesis]

theorem SameText.endsWithAt (same : left.SameText right) (index : Nat)
    (expected : List CodeUnit) :
    left.endsWithAt index expected = right.endsWithAt index expected := by
  simp only [View.endsWithAt, same.length, same.startsWithAt]

/-! ## Words -/

theorem SameText.foldedEnd? (same : left.SameText right) (word : List Char) :
    ∀ index, LiteralSet.foldedEnd? left index word = LiteralSet.foldedEnd? right index word := by
  induction word with
  | nil => exact fun _ => rfl
  | cons char rest inductionHypothesis =>
      intro index
      simp only [LiteralSet.foldedEnd?, same.decodeAt, inductionHypothesis]

theorem SameText.lengthOfWordAt? (same : left.SameText right) (set : LiteralSet) (index : Nat) :
    set.lengthOfWordAt? left index = set.lengthOfWordAt? right index := by
  funext word
  simp only [LiteralSet.lengthOfWordAt?, same.foldedEnd?, same.startsWithAt]

theorem SameText.longestAt? (same : left.SameText right) (set : LiteralSet) (index : Nat) :
    set.longestAt? left index = set.longestAt? right index := by
  simp only [LiteralSet.longestAt?, LiteralSet.bucketAt, same.codePointAt, same.lengthOfWordAt?]

end View

end TextMatch
