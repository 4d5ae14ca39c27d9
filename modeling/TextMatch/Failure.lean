/-!
# Failures

A failure is a broken rule of use, in contrast to text that merely does not match.  Failures abort
an attempt at once: no alternative, optional part or negation recovers from one.  What cannot be
built never comes to an attempt.
-/

namespace TextMatch

/-- The rules whose violation aborts an attempt. -/
inductive Failure where
  | invalidated
  /-- Matching was to go on behind the ghost that spans `captureEnd..position`. -/
  | matchAfterGhost (captureEnd position : Nat)
  /-- A search was to start from a cursor that has already captured `start..captureEnd`. -/
  | notFresh (start captureEnd : Nat)
  /-- A match at `offset` captured nothing, so that a search would never get past it. -/
  | zeroWidthMatch (offset : Nat)
  /-- A move by `count` code units from `offset` leads past the end of a text of `length`. -/
  | outOfBounds (offset count length : Nat)
  /-- The range `first..last` is decreasing or reaches past a text of `length`. -/
  | sliceOutOfRange (first last length : Nat)
  /-- The offset lies past the end of a text of `length`. -/
  | offsetOutOfRange (offset length : Nat)
deriving DecidableEq, Repr

/-- The wording of a failure. -/
def Failure.message : Failure → String
  | .invalidated =>
      "navigator has been invalidated by a failed match"
  | .matchAfterGhost captureEnd position =>
      s!"cannot match further after a ghost capture (ghost spans {captureEnd}..{position})"
  | .notFresh start captureEnd =>
      s!"navigator is not fresh: capture already spans {start}..{captureEnd}"
  | .zeroWidthMatch offset =>
      s!"find-all produced a zero-width match at {offset}, which would never advance"
  | .outOfBounds offset count length =>
      s!"cannot move {count} code units from {offset} past the end of the slice (length {length})"
  | .sliceOutOfRange first last length =>
      s!"slice {first}..{last} out of range for text view of length {length}"
  | .offsetOutOfRange offset length =>
      s!"offset {offset} out of range for text view of length {length}"

/-- Why a class of code points cannot be built. -/
inductive BuildFailure where
  /-- The parser of classes refuses the class of some categories. -/
  | category (error : String)
deriving DecidableEq, Repr

/-- The wording of a failure to build. -/
def BuildFailure.message : BuildFailure → String
  | .category error => "failed to compile the general category table: " ++ error

end TextMatch
