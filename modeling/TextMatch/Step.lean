import TextMatch.Capture
import TextMatch.CodePointClass
import TextMatch.Cursor
import TextMatch.LiteralSet
import TextMatch.Outcome

/-!
# Steps

A step tries to match at a cursor.  If it matches, it yields the cursor behind the match and the
captures recorded on the way.  This module has the steps that read the text themselves and the ways
to build steps from steps.
-/

namespace TextMatch

/-- An attempt to match at a cursor, with the captures it records. -/
abbrev Step := Cursor → Outcome (Cursor × List Capture)

/-- Makes an attempt only at a cursor at which matching may go on. -/
def guarded {alpha : Type} (attempt : Cursor → Outcome alpha) (cursor : Cursor) : Outcome alpha := do
  .ofExcept cursor.requireMatchable
  attempt cursor

/-- Conditions on the place where matching goes on. -/
inductive Anchor where
  | textStart
  | textEnd
  | notTextStart
  | notTextEnd
deriving DecidableEq, Repr

/-- Whether the cursor stands at a place that meets the condition. -/
def Anchor.holds : Anchor → Cursor → Bool
  | .textStart, cursor => cursor.isAtStart
  | .textEnd, cursor => cursor.isAtEnd
  | .notTextStart, cursor => !cursor.isAtStart
  | .notTextEnd, cursor => !cursor.isAtEnd

namespace Step

/-! ## Steps that read the text -/

/-- Goes on without moving if the cursor passes a test. -/
def require (test : Cursor → Bool) : Step :=
  guarded fun cursor => if test cursor then .matched (cursor, []) else .noMatch

/-- Captures one code point of a class. -/
def codePoint (members : CodePointClass) : Step :=
  guarded fun cursor =>
    match cursor.currentCodePoint with
    | none => .noMatch
    | some char =>
        if members.contains char then do
          let next ← .ofExcept cursor.advanceCodePoint
          return (next, [])
        else
          .noMatch

/-- Captures the longest word of a set. -/
def literals (set : LiteralSet) : Step :=
  guarded fun cursor =>
    match set.longestAt? cursor.view cursor.position with
    | none => .noMatch
    | some length => do
        let next ← .ofExcept (cursor.advance length)
        return (next, [])

/-- Goes on if the code point before the cursor belongs to a class. -/
def behind (members : CodePointClass) : Step :=
  require fun cursor =>
    !cursor.isAtStart && cursor.previousCodePoint.any fun previous => members.contains previous.1

/-- Goes on if one of the words ends at the cursor.  No word ends at the start of the text. -/
def behindWord (words : List (List Char)) : Step :=
  require fun cursor =>
    !cursor.isAtStart &&
      words.any fun word => cursor.view.endsWithAt cursor.position (CodeUnit.ofChars word)

/-! ## Steps built from steps -/

/-- Forgets the captures of a step. -/
def silent (step : Step) : Step := fun cursor =>
  (step cursor).map fun result => (result.1, [])

/-- Makes the steps one behind the other, and joins their captures. -/
def follow : List Step → Step
  | [], cursor => .matched (cursor, [])
  | step :: rest, cursor => do
      let (middle, captures) ← step cursor
      let (next, more) ← follow rest middle
      return (next, captures ++ more)

def sequence (steps : List Step) : Step :=
  guarded (follow steps)

/-- Tries the steps in turn. -/
def choose : List Step → Step
  | [], _ => .noMatch
  | step :: rest, cursor => (step cursor).orElse fun _ => choose rest cursor

def firstOf (steps : List Step) : Step :=
  guarded (choose steps)

/-- The step if it matches, and otherwise nothing. -/
def optional (step : Step) : Step :=
  guarded fun cursor => (step cursor).orElse fun _ => .matched (cursor, [])

/-- Goes on without moving if the step does not match. -/
def negation (step : Step) : Step :=
  guarded fun cursor =>
    match step cursor with
    | .matched _ => .noMatch
    | .noMatch => .matched (cursor, [])
    | .failed failure => .failed failure

/-- Goes on without moving if the step matches on a fresh cursor. -/
def ahead (step : Step) : Step :=
  guarded fun cursor => do
    let fresh ← .ofExcept cursor.freshAtPosition
    let _ ← step fresh
    return (cursor, [])

/-- Turns the text that the step reads into a ghost. -/
def ghost (step : Step) : Step :=
  guarded fun cursor => do
    let (inner, _) ← step cursor
    let next ← .ofExcept (cursor.advanceGhost (inner.position - cursor.position))
    return (next, [])

/-- Records the text of a step under a name, with the captures of the step inside. -/
def group (name : String) (step : Step) : Cursor → Outcome (Cursor × Capture) :=
  guarded fun cursor => do
    let (next, children) ← step cursor
    let whole ← .ofExcept (next.view.slice cursor.position next.position)
    let content ← .ofExcept (next.view.slice cursor.position next.captureEnd)
    return (next, { name, whole, content, children })

end Step

end TextMatch
