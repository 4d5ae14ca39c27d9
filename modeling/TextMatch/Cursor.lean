import TextMatch.Text.View

/-!
# Cursors

A cursor records how far an attempt to match has come.  The text from `start` to `captureEnd` is
captured; matching goes on at `position`.  The two ends differ only behind a ghost: text that was
looked at for the sake of the match, is not part of the capture, and is left for the next attempt.
Nothing may be matched behind a ghost.
-/

namespace TextMatch

/-- The state of an attempt to match. -/
structure Cursor where
  view : View
  start : Nat
  /-- The end of the capture. -/
  captureEnd : Nat
  /-- Where matching goes on. -/
  position : Nat
  /-- Whether the cursor may still be used.  It is given up after a mismatch. -/
  isValid : Bool
deriving DecidableEq, Repr

namespace Cursor

/-! ## Fresh cursors -/

/-- A cursor at `offset` that has captured nothing. -/
def fresh (view : View) (offset : Nat) : Cursor where
  view := view
  start := offset
  captureEnd := offset
  position := offset
  isValid := true

def ofView (view : View) : Cursor :=
  fresh view 0

def atOffset (view : View) (offset : Nat) : Except Failure Cursor :=
  if offset ≤ view.length then
    .ok (fresh view offset)
  else
    .error (.offsetOutOfRange offset view.length)

/-- A fresh cursor where matching goes on, for assertions about the text there. -/
def freshAtPosition (cursor : Cursor) : Except Failure Cursor :=
  atOffset cursor.view cursor.position

/-- A fresh cursor behind the capture, for the next attempt.  A ghost is left for it to read. -/
def freshAtCaptureEnd (cursor : Cursor) : Except Failure Cursor :=
  atOffset cursor.view cursor.captureEnd

/-! ## Inspection -/

def isAtStart (cursor : Cursor) : Bool :=
  cursor.position == 0

def isAtEnd (cursor : Cursor) : Bool :=
  cursor.position == cursor.view.length

def isEmptyMatch (cursor : Cursor) : Bool :=
  cursor.captureEnd == cursor.start

def hasGhost (cursor : Cursor) : Bool :=
  decide (cursor.captureEnd < cursor.position)

def remaining (cursor : Cursor) : Nat :=
  cursor.view.length - cursor.position

def captured (cursor : Cursor) : Except Failure View :=
  cursor.view.slice cursor.start cursor.captureEnd

def ghost (cursor : Cursor) : Except Failure View :=
  cursor.view.slice cursor.captureEnd cursor.position

def whole (cursor : Cursor) : Except Failure View :=
  cursor.view.slice cursor.start cursor.position

def rest (cursor : Cursor) : Except Failure View :=
  cursor.view.slice cursor.position cursor.view.length

def currentCodePoint (cursor : Cursor) : Option Char :=
  cursor.view.codePointAt cursor.position

/-- The code point before the place where matching goes on, with its number of units. -/
def previousCodePoint (cursor : Cursor) : Option (Char × Nat) :=
  cursor.view.codePointBefore cursor.position

/-! ## Rules of use -/

/-- A cursor that was given up is of no further use. -/
def requireValid (cursor : Cursor) : Except Failure Unit :=
  if cursor.isValid then .ok () else .error .invalidated

/-- A search starts from a cursor that has captured nothing. -/
def requireFresh (cursor : Cursor) : Except Failure Unit := do
  cursor.requireValid
  if cursor.isEmptyMatch then .ok () else .error (.notFresh cursor.start cursor.captureEnd)

/-- Nothing may be matched behind a ghost. -/
def requireNoGhost (cursor : Cursor) : Except Failure Unit :=
  if cursor.hasGhost then
    .error (.matchAfterGhost cursor.captureEnd cursor.position)
  else
    .ok ()

/-- What every matcher asks of a cursor before it looks at the text. -/
def requireMatchable (cursor : Cursor) : Except Failure Unit := do
  cursor.requireValid
  cursor.requireNoGhost

/-- A move by `count` units must not lead past the end of the text.  A move by so many units that the
offset wraps around passes this test, for it leads back. -/
def requireRoom (cursor : Cursor) (count : Nat) : Except Failure Unit :=
  if cursor.view.length < cursor.view.addOffset cursor.position count then
    .error (.outOfBounds cursor.position count cursor.view.length)
  else
    .ok ()

/-! ## Moves -/

def invalidate (cursor : Cursor) : Cursor :=
  { cursor with isValid := false }

/-- The cursor with its capture and its position moved on by `count` units. -/
def moved (cursor : Cursor) (count : Nat) : Cursor :=
  { cursor with
    captureEnd := cursor.view.addOffset cursor.captureEnd count
    position := cursor.view.addOffset cursor.position count }

/-- The cursor with only its position moved on by `count` units. -/
def movedGhost (cursor : Cursor) (count : Nat) : Cursor :=
  { cursor with position := cursor.view.addOffset cursor.position count }

/-- Captures the next `count` units. -/
def advance (cursor : Cursor) (count : Nat) : Except Failure Cursor := do
  cursor.requireMatchable
  cursor.requireRoom count
  return cursor.moved count

/-- Opens a ghost of `count` units, or makes the ghost that much longer. -/
def advanceGhost (cursor : Cursor) (count : Nat) : Except Failure Cursor := do
  cursor.requireValid
  cursor.requireRoom count
  return cursor.movedGhost count

/-- Captures the next code point. -/
def advanceCodePoint (cursor : Cursor) : Except Failure Cursor :=
  match cursor.view.codePointLengthAt cursor.position with
  | 0 => do
      cursor.requireMatchable
      .error (.outOfBounds cursor.position 1 cursor.view.length)
  | count + 1 => cursor.advance (count + 1)

/-- Moves the start of a fresh cursor to the next code point. -/
def advanceStart (cursor : Cursor) : Except Failure Cursor := do
  cursor.requireFresh
  cursor.requireNoGhost
  match cursor.view.codePointLengthAt cursor.start with
  | 0 => .error (.outOfBounds cursor.start 1 cursor.view.length)
  | count + 1 =>
      return { cursor with
        start := cursor.start + (count + 1)
        captureEnd := cursor.start + (count + 1)
        position := cursor.start + (count + 1) }

end Cursor

end TextMatch
