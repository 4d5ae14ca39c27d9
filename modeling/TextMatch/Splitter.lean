import TextMatch.Matcher

/-!
# Splitters

A splitter cuts a text into segments.  Every segment has a content, which is captured under the
name of its group, and a delimiter behind it, which becomes the ghost of the segment.  The last
segment may do without a delimiter where the text ends or an end mark follows.
-/

namespace TextMatch

/-- How a text is cut into segments. -/
structure Splitter where
  content : Group
  delimiter : Matcher
  /-- What stands behind the last segment, if anything but the end of the text may. -/
  endMark : Option Matcher

namespace Splitter

def endsAt (splitter : Splitter) (view : View) (offset : Nat) : Except Failure Bool :=
  match splitter.endMark with
  | none => .ok false
  | some endMark =>
      if offset ≤ view.length then do
        let cursor ← Cursor.atOffset view offset
        let found ← (endMark.run cursor).toExcept
        return found.isSome
      else
        .ok false

/-- Where the segment behind one that spans `offset..stop` begins.  An empty segment is followed by
a code point that belongs to no segment. -/
def nextOffset (view : View) (offset stop : Nat) : Nat :=
  if offset < stop then stop else offset + view.codePointLengthAt offset

theorem lt_nextOffset {view : View} {offset : Nat} (stop : Nat)
    (inside : offset < view.length) :
    offset < nextOffset view offset stop := by
  unfold nextOffset
  split
  · assumption
  · have positive : 0 < view.codePointLengthAt offset := by
      have found : ∃ unit, view.unit? offset = some unit := by
        have startLe := view.start_le_stop
        have stopLe := view.stop_le_size
        rw [View.length] at inside
        refine ⟨view.source[view.start + offset], ?_⟩
        simp [View.unit?, View.length, inside]
      obtain ⟨unit, found⟩ := found
      rw [View.codePointLengthAt, View.decodeAt]
      simp only [found]
      repeat' split
      all_goals simp
    omega

/-- The segments from an offset on. -/
def segmentsFrom (splitter : Splitter) (view : View) (offset : Nat) : Outcome (List Capture) :=
  if _inside : offset < view.length then do
    let cursor ← .ofExcept (Cursor.atOffset view offset)
    let (behind, segment) ← splitter.content.capture cursor
    match Step.ghost splitter.delimiter.step behind with
    | .failed failure => .failed failure
    | .matched (delimited, _) => do
        let whole ← .ofExcept (view.slice offset delimited.position)
        let delimitedSegment := { segment with whole }
        let next := nextOffset view offset delimited.position
        if ← .ofExcept (splitter.endsAt view next) then
          return [delimitedSegment]
        else
          let later ← splitter.segmentsFrom view next
          return delimitedSegment :: later
    | .noMatch =>
        if behind.isAtEnd then
          return [segment]
        else if ← .ofExcept (splitter.endsAt view behind.position) then
          return [segment]
        else
          .noMatch
  else
    .matched []
termination_by view.length - offset
decreasing_by
  have moved := lt_nextOffset delimited.position _inside
  omega

def split (splitter : Splitter) (view : View) : Outcome (List Capture) :=
  splitter.segmentsFrom view 0

end Splitter

end TextMatch
