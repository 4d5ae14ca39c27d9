import TextMatch.Text.Ascending
import TextMatch.Text.CaseFold
import TextMatch.Text.View

/-!
# Sets of literals

A set of literals finds the longest of its words that occurs at a place of a text, with or without
regard to case.  Ignoring case, words are kept folded and compared with the folded code points of
the text; the length of an occurrence is always counted in the units of the text.
-/

namespace TextMatch

/-- The words other than the empty one, those with more code units first. -/
def rankWords (words : List (List Char)) : List (List Char) :=
  (words.filter fun word => !word.isEmpty).mergeSort fun left right =>
    decide ((CodeUnit.ofChars right).length ≤ (CodeUnit.ofChars left).length)

/-- A set of words. -/
structure LiteralSet where
  /-- Whether words are compared without regard to case. -/
  ignoresCase : Bool
  /-- The distinct words in ascending order, folded if case is ignored. -/
  words : List (List Char)
  /-- The words other than the empty one, those with more code units first. -/
  ranked : List (List Char)
  ranked_eq_rankWords : ranked = rankWords words
deriving DecidableEq, Repr

namespace LiteralSet

/-- The form in which a word is kept. -/
def normalize (ignoresCase : Bool) (word : List Char) : List Char :=
  if ignoresCase then word.map CaseFold.fold else word

def ofWords (words : List (List Char)) (ignoresCase : Bool) : LiteralSet :=
  let distinct := ascending (words.map (normalize ignoresCase))
  { ignoresCase := ignoresCase
    words := distinct
    ranked := rankWords distinct
    ranked_eq_rankWords := rfl }

def ofStrings (strings : List String) (ignoresCase : Bool) : LiteralSet :=
  ofWords (strings.map String.toList) ignoresCase

def size (set : LiteralSet) : Nat :=
  set.words.length

def isEmpty (set : LiteralSet) : Bool :=
  set.words.isEmpty

def hasEmpty (set : LiteralSet) : Bool :=
  set.words.contains []

/-- The words of a set, folded if case is ignored, in ascending order. -/
def strings (set : LiteralSet) : List String :=
  set.words.map String.ofList

/-- Where an occurrence of a folded word that starts at `index` ends, if the word occurs there
without regard to case. -/
def foldedEnd? (view : View) : (index : Nat) → (word : List Char) → Option Nat
  | index, [] => some index
  | index, char :: rest =>
      match view.decodeAt index with
      | none => none
      | some (found, count) =>
          if CaseFold.same found char then
            foldedEnd? view (index + count) rest
          else
            none

/-- The number of units that a word of the set takes at `index`, if it occurs there. -/
def lengthOfWordAt? (set : LiteralSet) (view : View) (index : Nat) (word : List Char) :
    Option Nat :=
  if set.ignoresCase then
    (foldedEnd? view index word).map fun stop => stop - index
  else
    let units := CodeUnit.ofChars word
    if view.startsWithAt index units then some units.length else none

/-- The words that start with the code point at `index`, those with more code units first.  If case
is ignored, they start with the folded code point. -/
def bucketAt (set : LiteralSet) (view : View) (index : Nat) : List (List Char) :=
  match view.codePointAt index with
  | none => []
  | some char =>
      let key := if set.ignoresCase then CaseFold.fold char else char
      set.ranked.filter fun word => word.head? == some key

/-- The number of units of the longest word that occurs at `index`.  The empty word occurs
everywhere. -/
def longestAt? (set : LiteralSet) (view : View) (index : Nat) : Option Nat :=
  match (set.bucketAt view index).findSome? (set.lengthOfWordAt? view index) with
  | some length => some length
  | none => if set.hasEmpty then some 0 else none

/-- Whether a string is one of the words. -/
def contains (set : LiteralSet) (text : String) : Bool :=
  let view := View.ofString text
  if view.isEmpty then
    set.hasEmpty
  else
    (set.bucketAt view 0).any fun word => set.lengthOfWordAt? view 0 word == some view.length

end LiteralSet

end TextMatch
