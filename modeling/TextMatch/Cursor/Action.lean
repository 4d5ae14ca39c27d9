import TextMatch.Matcher

/-!
# Actions on a cursor

A cursor can be driven step by step.  An action that breaks a rule of use leaves the cursor as it
was.
-/

namespace TextMatch.Cursor

/-- One step in the life of a cursor. -/
inductive Action where
  | advance (count : UInt64)
  | advanceGhost (count : UInt64)
  | advanceStart
  | advanceCodePoint
  | invalidate
  | freshAtPosition
  | freshAtCaptureEnd
  /-- Match, and give the cursor up if there is no match. -/
  | apply (matcher : Matcher)

/-- The cursor behind a move, or the same cursor if the move fails. -/
def settleMove (cursor : Cursor) (moved : Except Failure Cursor) : Except Failure Bool × Cursor :=
  match moved with
  | .ok next => (.ok true, next)
  | .error failure => (.error failure, cursor)

/-- Matches in place.  The answer is whether the text matched; if it did not, the cursor is given
up. -/
def apply (cursor : Cursor) (matcher : Matcher) : Except Failure Bool × Cursor :=
  match cursor.requireValid with
  | .error failure => (.error failure, cursor)
  | .ok () =>
      match matcher.run cursor with
      | .matched next => (.ok true, next)
      | .noMatch => (.ok false, cursor.invalidate)
      | .failed failure => (.error failure, cursor)

/-- Performs an action.  The answer is whether it took effect. -/
def perform (cursor : Cursor) : Action → Except Failure Bool × Cursor
  | .advance count => cursor.settleMove (cursor.advance count.toNat)
  | .advanceGhost count => cursor.settleMove (cursor.advanceGhost count.toNat)
  | .advanceStart => cursor.settleMove cursor.advanceStart
  | .advanceCodePoint => cursor.settleMove cursor.advanceCodePoint
  | .invalidate => (.ok true, cursor.invalidate)
  | .freshAtPosition => cursor.settleMove cursor.freshAtPosition
  | .freshAtCaptureEnd => cursor.settleMove cursor.freshAtCaptureEnd
  | .apply matcher => cursor.apply matcher

end TextMatch.Cursor
