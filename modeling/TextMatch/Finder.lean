import TextMatch.Cursor.Progress
import TextMatch.LiteralSet.Scan
import TextMatch.Matcher

/-!
# Finders

A finder looks for the leftmost match of a matcher, or the leftmost of the words of a set, from a
place of a text on.
-/

namespace TextMatch

/-- What a finder looks for. -/
inductive Target where
  | matcher (matcher : Matcher)
  /-- The leftmost occurrence of a word, and the longest one there. -/
  | literals (set : LiteralSet)
      (search : LiteralSet.ByteSearch set.byteWords := .linear set.byteWords)

/-- What to look for, and the category of what is found. -/
structure Finder where
  category : String
  target : Target

/-- The result of one search. -/
structure Found where
  /-- The text between the start of the search and the match, or the end of the text. -/
  fragment : View
  matched : Option Cursor

namespace Finder

/-- The words that a finder looks for, if it looks for words. -/
def literals? (finder : Finder) : Option LiteralSet :=
  match finder.target with
  | .matcher _ => none
  | .literals set _ => some set

/-- A search that has reached the end of the text. -/
def notFound (view : View) (origin : Nat) : Except Failure Found := do
  let fragment ← view.slice origin view.length
  return { fragment, matched := none }

/-- Tries a matcher at the start of a fresh cursor and at every code point behind it, the end of
the text included. -/
def scan (matcher : Matcher) (origin : Nat) (cursor : Cursor) : Except Failure Found :=
  match matcher.run cursor with
  | .failed failure => .error failure
  | .matched next => do
      let fragment ← cursor.view.slice origin next.start
      return { fragment, matched := some next }
  | .noMatch =>
      if cursor.isAtEnd then
        notFound cursor.view origin
      else
        match _moved : cursor.advanceStart with
        | .error failure => .error failure
        | .ok next => scan matcher origin next
termination_by cursor.view.length - cursor.start
decreasing_by
  obtain ⟨sameView, moved, inside⟩ := Cursor.progress_of_advanceStart _moved
  rw [sameView]
  omega

/-- The result of a search that has come upon a word, if it has, with the offset and the length of
the word. -/
def foundAt (view : View) (origin : Nat) : Option (Nat × Nat) → Except Failure Found
  | none => notFound view origin
  | some (offset, length) => do
      let start ← Cursor.atOffset view offset
      let next ← start.advance length
      let fragment ← view.slice origin offset
      return { fragment, matched := some next }

def findLiteral (set : LiteralSet) (search : LiteralSet.ByteSearch set.byteWords) (view : View)
    (origin : Nat) (cache : LiteralSet.ScanCache) : Except Failure Found × LiteralSet.ScanCache :=
  let (occurrence, later) := set.find? search view origin cache
  (foundAt view origin occurrence, later)

/-- Searches from the start of a cursor, which must be fresh, with what earlier searches of the same
text have left. -/
def findWith (finder : Finder) (cursor : Cursor) (cache : LiteralSet.ScanCache) :
    Except Failure Found × LiteralSet.ScanCache :=
  match cursor.requireFresh, cursor.requireNoGhost with
  | .error failure, _ => (.error failure, cache)
  | .ok (), .error failure => (.error failure, cache)
  | .ok (), .ok () =>
      match finder.target with
      | .matcher matcher => (scan matcher cursor.start cursor, cache)
      | .literals set search => findLiteral set search cursor.view cursor.start cache

/-- Searches from the start of a cursor, which must be fresh. -/
def findAt (finder : Finder) (cursor : Cursor) : Except Failure Found :=
  (finder.findWith cursor .empty).1

/-- Searches a view from an offset on. -/
def find (finder : Finder) (view : View) (offset : Nat) : Except Failure Found := do
  let cursor ← Cursor.atOffset view offset
  finder.findAt cursor

end Finder

end TextMatch
