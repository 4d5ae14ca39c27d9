import TextMatch.Failure
import TextMatch.Text.Ascending
import TextMatch.Text.Category

/-!
# Classes of code points

A class says which code points may stand at one place of a text.  Classes are built from single
code points, lists, ranges and categories by union and complement.
-/

namespace TextMatch

/-- A class of code points. -/
inductive CodePointClass where
  | any
  | literal (char : Char)
  /-- The code points of a list in ascending order. -/
  | listed (chars : Array Char)
  | range (first last : Char)
  | set (members : CodePointSet)
  | anyOf (classes : List CodePointClass)
  | complement (inner : CodePointClass)

namespace CodePointClass

/-- The class of the listed code points, in whatever order and however often they are listed. -/
def oneOf (chars : List Char) : CodePointClass :=
  .listed (ascending chars).toArray

/-- The class of all code points but those that belong to another class. -/
def not : CodePointClass → CodePointClass
  | .complement inner => inner
  | other => .complement other

def noneOf (chars : List Char) : CodePointClass :=
  (oneOf chars).not

/-- The class of the code points that belong to at least one of the categories. -/
def ofCategories {tables : CategoryTables} (parser : ClassParser tables)
    (categories : List Category) : Except BuildFailure CodePointClass :=
  match Category.union parser categories with
  | .ok members => .ok (.set members)
  | .error error => .error (.category error)

/-- Where the code point at `index` of an ascending array lies in relation to another one. -/
def compareAt (chars : Array Char) (char : Char) (index : Nat) : Ordering :=
  match chars[index]? with
  | none => .gt
  | some member =>
      if member < char then .lt
      else if char < member then .gt
      else .eq

mutual

/-- Whether a code point belongs to a class. -/
def contains : CodePointClass → Char → Bool
  | .any, _ => true
  | .literal expected, char => expected == char
  | .listed chars, char => bisect (compareAt chars char) 0 chars.size
  | .range first last, char => decide (first ≤ char) && decide (char ≤ last)
  | .set members, char => members.contains char
  | .anyOf classes, char => anyContains classes char
  | .complement inner, char => !inner.contains char

def anyContains : List CodePointClass → Char → Bool
  | [], _ => false
  | first :: rest, char => first.contains char || anyContains rest char

end

end CodePointClass

end TextMatch
