import TextMatch.Proofs.CursorOrder
import TextMatch.Splitter

/-!
# Runs of splitters

A splitter goes from segment to segment.  At each place it captures the content and, behind it, the
delimiter; it ends with the text, at the end mark, or at a last segment that has no delimiter.
-/

namespace TextMatch.Splitter

open Outcome (Meets)

variable {splitter : Splitter} {view : View} {offset stop : Nat} {segment : Capture}

/-- The segment begins at `offset`, and the delimiter behind it ends at `stop`. -/
inductive Delimits (splitter : Splitter) (view : View) (offset : Nat) : Capture → Nat → Prop
  | intro {behind delimited : Cursor} {segment : Capture} {captures : List Capture}
      {whole : View} :
      offset < view.length →
      splitter.content.capture (Cursor.fresh view offset) = .matched (behind, segment) →
      Step.ghost splitter.delimiter.step behind = .matched (delimited, captures) →
      view.slice offset delimited.position = .ok whole →
      Delimits splitter view offset { segment with whole } delimited.position

/-- The segments of a run from an offset on. -/
inductive Splits (splitter : Splitter) (view : View) : Nat → List Capture → Prop
  | finished {offset : Nat} : view.length ≤ offset → Splits splitter view offset []
  /-- The last segment does without a delimiter. -/
  | last {offset : Nat} {behind : Cursor} {segment : Capture} :
      offset < view.length →
      splitter.content.capture (Cursor.fresh view offset) = .matched (behind, segment) →
      Step.ghost splitter.delimiter.step behind = .noMatch →
      (behind.isAtEnd = true ∨ splitter.endsAt view behind.position = .ok true) →
      Splits splitter view offset [segment]
  /-- The end mark stands behind the delimiter. -/
  | ended {offset stop : Nat} {segment : Capture} :
      Delimits splitter view offset segment stop →
      splitter.endsAt view (nextOffset view offset stop) = .ok true →
      Splits splitter view offset [segment]
  | next {offset stop : Nat} {segment : Capture} {later : List Capture} :
      Delimits splitter view offset segment stop →
      splitter.endsAt view (nextOffset view offset stop) = .ok false →
      Splits splitter view (nextOffset view offset stop) later →
      Splits splitter view offset (segment :: later)

/-- The places where a splitter looks for a segment, or finds the end of the text. -/
inductive Scans (splitter : Splitter) (view : View) : Nat → Prop
  | start : Scans splitter view 0
  | next {offset stop : Nat} {segment : Capture} :
      Scans splitter view offset → Delimits splitter view offset segment stop →
      splitter.endsAt view (nextOffset view offset stop) = .ok false →
      Scans splitter view (nextOffset view offset stop)

theorem splits_of_segmentsFrom (splitter : Splitter) (view : View) (offset : Nat) :
    (splitter.segmentsFrom view offset).Meets (Splits splitter view offset) fun _ => True := by
  rw [segmentsFrom]
  split
  · rename_i inside
    apply Meets.of_ok (Cursor.atOffset_of_le (Nat.le_of_lt inside))
    apply Meets.bind (Outcome.meets_self (splitter.content.capture _))
    rintro ⟨behind, segment⟩ captured
    cases ghost : Step.ghost splitter.delimiter.step behind with
    | failed failure => simp [ghost]
    | noMatch =>
        simp only [ghost]
        split
        · rename_i atEnd
          exact .last inside captured ghost (Or.inl atEnd)
        · apply Meets.ofExcept_bind _ fun _ _ => trivial
          intro ends endsEq
          cases ends with
          | true => exact .last inside captured ghost (Or.inr endsEq)
          | false => trivial
    | matched result =>
        obtain ⟨delimited, captures⟩ := result
        simp only [ghost]
        apply Meets.ofExcept_bind _ fun _ _ => trivial
        intro whole sliced
        have delimits := Delimits.intro inside captured ghost sliced
        apply Meets.ofExcept_bind _ fun _ _ => trivial
        intro ends endsEq
        cases ends with
        | true => exact .ended delimits endsEq
        | false =>
            have moved := lt_nextOffset delimited.position inside
            apply Meets.bind (splits_of_segmentsFrom splitter view _)
            exact fun _ later => .next delimits endsEq later
  · rename_i outside
    exact .finished (Nat.not_lt.mp outside)
termination_by view.length - offset

theorem splits_of_split {segments : List Capture} (split : splitter.split view = .matched segments) :
    Splits splitter view 0 segments :=
  (splitter.splits_of_segmentsFrom view 0).of_matched split

/-- A delimiter lies behind its content. -/
theorem Delimits.reached (delimits : Delimits splitter view offset segment stop) :
    ∃ delimited, (Cursor.fresh view offset).Reached delimited ∧ delimited.position = stop := by
  obtain ⟨inside, captured, ghost, -⟩ := delimits
  have ready := Cursor.ready_fresh (Nat.le_of_lt inside)
  have behindReached := (splitter.content.meets_capture ready.reached).of_matched captured
  have built : (Step.ghost splitter.delimiter.step).Built := .ghost splitter.delimiter.built_step
  exact ⟨_, (built.orderly _ _ behindReached).of_matched ghost, rfl⟩

end TextMatch.Splitter
