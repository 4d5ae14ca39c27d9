import TextMatch.Text.CaseFold.Table

/-!
# Case folding

Folding maps every code point to exactly one code point, the first of its lowercase form.  Texts
are therefore compared code point by code point, and a folded text may take more or fewer code
units than the text itself.
-/

namespace TextMatch.CaseFold

/-- Whether a code point belongs to a run. -/
def Run.covers (run : Run) (code : Nat) : Bool :=
  decide (run.first ≤ code) && decide (code ≤ run.last) && (code - run.first) % run.stride == 0

/-- The lowercase form of a member of a run. -/
def Run.image (run : Run) (code : Nat) : Nat :=
  (Int.ofNat code + run.shift).toNat

/-- The code point that stands for `char` when case is ignored. -/
def fold (char : Char) : Char :=
  if char.toNat < 0x80 then
    char.toLower
  else
    match runs.find? fun run => run.covers char.toNat with
    | none => char
    | some run => Char.ofNat (run.image char.toNat)

/-- Whether two code points agree when case is ignored. -/
def same (left right : Char) : Bool :=
  left == right || fold left == fold right

/-- A text with every code point folded. -/
def foldText (text : String) : String :=
  String.ofList (text.toList.map fold)

end TextMatch.CaseFold
