import TextMatch.Text.Ascending
import TextMatch.Text.CodePointRange

/-!
# Sets of code points

A set of code points is kept as its canonical ranges and searched by bisection.
-/

namespace TextMatch

/-- A set of code points, as ranges in canonical form. -/
structure CodePointSet where
  ranges : Array CodePointRange
deriving DecidableEq, Repr

namespace CodePointSet

def isEmpty (set : CodePointSet) : Bool :=
  set.ranges.isEmpty

/-- Where the range at `index` lies in relation to a code point. -/
def compareAt (set : CodePointSet) (char : Char) (index : Nat) : Ordering :=
  match set.ranges[index]? with
  | none => .gt
  | some range =>
      if range.last < char.toNat then .lt
      else if char.toNat < range.first then .gt
      else .eq

/-- Whether a code point is in a set. -/
def contains (set : CodePointSet) (char : Char) : Bool :=
  bisect (set.compareAt char) 0 set.ranges.size

end CodePointSet

end TextMatch
