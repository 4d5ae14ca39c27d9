/-!
# Ascending lists and bisection

A finite set over an ordered type is kept as the ascending list of its members, each of which
occurs once.  A sorted table is searched by halving the part of it that can still hold the wanted
place.
-/

namespace TextMatch

section

variable {alpha : Type} [LT alpha] [DecidableLT alpha]

/-- Adds an item to an ascending list, unless it is there already. -/
def insertAscending (item : alpha) : List alpha → List alpha
  | [] => [item]
  | head :: tail =>
      if item < head then item :: head :: tail
      else if head < item then head :: insertAscending item tail
      else head :: tail

/-- The distinct members of a list, in ascending order. -/
def ascending (items : List alpha) : List alpha :=
  items.foldr insertAscending []

end

/-- Whether `probe` answers `eq` somewhere in `low..high`.  It answers `lt` at the places before
the wanted one and `gt` at the places behind it. -/
def bisect (probe : Nat → Ordering) (low high : Nat) : Bool :=
  if low < high then
    let middle := (low + high) / 2
    match probe middle with
    | .eq => true
    | .lt => bisect probe (middle + 1) high
    | .gt => bisect probe low middle
  else
    false
termination_by high - low

end TextMatch
