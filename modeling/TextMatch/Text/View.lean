import TextMatch.Failure
import TextMatch.Text.CodeUnit

/-!
# Views

A view is a window on a text of UTF-16 code units.  Offsets are counted in units from the start of
the window, and nothing outside the window can be seen through it: a surrogate pair that the window
cuts apart reads as a lone surrogate.
-/

namespace TextMatch

/-- The units `start..stop` of a backing text. -/
structure View where
  source : Array CodeUnit
  /-- The first unit of the window. -/
  start : Nat
  /-- The unit behind the window. -/
  stop : Nat
  start_le_stop : start ≤ stop
  stop_le_size : stop ≤ source.size
deriving DecidableEq, Repr

namespace View

/-- The whole of a sequence of units. -/
def ofUnits (units : Array CodeUnit) : View where
  source := units
  start := 0
  stop := units.size
  start_le_stop := Nat.zero_le _
  stop_le_size := Nat.le_refl _

def ofChars (chars : List Char) : View :=
  ofUnits (CodeUnit.ofChars chars).toArray

def ofString (text : String) : View :=
  ofChars text.toList

def length (view : View) : Nat :=
  view.stop - view.start

def isEmpty (view : View) : Bool :=
  view.length == 0

/-! ## Offsets -/

/-- The number of values that an offset can have.  Offsets are kept in words of 64 bits, which are
more than wide enough for any text in memory; a longer text would come with wider words. -/
def offsetBound (view : View) : Nat :=
  max UInt64.size (view.length + 1)

/-- The offset `count` units behind another one.  A sum that does not fit in a word wraps around. -/
def addOffset (view : View) (offset count : Nat) : Nat :=
  (offset + count) % view.offsetBound

theorem length_lt_offsetBound (view : View) : view.length < view.offsetBound :=
  Nat.lt_of_lt_of_le (Nat.lt_succ_self _) (Nat.le_max_right _ _)

theorem addOffset_of_lt {view : View} {offset count : Nat}
    (fits : offset + count < view.offsetBound) : view.addOffset offset count = offset + count :=
  Nat.mod_eq_of_lt fits

theorem addOffset_of_le {view : View} {offset count : Nat} (inside : offset + count ≤ view.length) :
    view.addOffset offset count = offset + count :=
  addOffset_of_lt (Nat.lt_of_le_of_lt inside view.length_lt_offsetBound)

theorem addOffset_addOffset (view : View) (offset first second : Nat) :
    view.addOffset (view.addOffset offset first) second = view.addOffset offset (first + second) := by
  rw [addOffset, addOffset, Nat.mod_add_mod, Nat.add_assoc, addOffset]

/-! ## Units -/

def units (view : View) : List CodeUnit :=
  (view.source.extract view.start view.stop).toList

/-- The unit at `index`, if there is one. -/
def unit? (view : View) (index : Nat) : Option CodeUnit :=
  if index < view.length then
    view.source[view.start + index]?
  else
    none

/-- The units `first..last` of a view. -/
def slice (view : View) (first last : Nat) : Except Failure View :=
  if inside : first ≤ last ∧ last ≤ view.length then
    .ok {
      source := view.source
      start := view.start + first
      stop := view.start + last
      start_le_stop := Nat.add_le_add_left inside.1 _
      stop_le_size := by
        have startLe := view.start_le_stop
        have stopLe := view.stop_le_size
        have lastLe := inside.2
        rw [length] at lastLe
        omega }
  else
    .error (.sliceOutOfRange first last view.length)

/-! ## Decoding -/

/-- The code point that starts at `index`, with the number of units it takes: two for a surrogate
pair and one for anything else. -/
def decodeAt (view : View) (index : Nat) : Option (Char × Nat) :=
  match view.unit? index with
  | none => none
  | some unit =>
      match view.unit? (index + 1) with
      | none => some (CodeUnit.alone unit, 1)
      | some next =>
          if CodeUnit.isHigh unit && CodeUnit.isLow next then
            some (CodeUnit.pair unit next, 2)
          else
            some (CodeUnit.alone unit, 1)

def codePointAt (view : View) (index : Nat) : Option Char :=
  (view.decodeAt index).map Prod.fst

/-- The number of units of the code point that starts at `index`; zero at the end and past it. -/
def codePointLengthAt (view : View) (index : Nat) : Nat :=
  ((view.decodeAt index).map Prod.snd).getD 0

/-- Whether the unit at `index` exists and passes `test`. -/
def unitPasses (view : View) (test : CodeUnit → Bool) (index : Nat) : Bool :=
  (view.unit? index).any test

/-- Whether the units at `index` and behind it form a surrogate pair. -/
def hasPairAt (view : View) (index : Nat) : Bool :=
  view.unitPasses CodeUnit.isHigh index && view.unitPasses CodeUnit.isLow (index + 1)

/-- The code point before `index`, with the number of units from its start to `index`.  A pair
that ends at `index` counts in full; otherwise it is the code point that starts one unit
earlier. -/
def codePointBefore (view : View) (index : Nat) : Option (Char × Nat) :=
  if index = 0 ∨ view.length < index then
    none
  else if 2 ≤ index ∧ view.hasPairAt (index - 2) then
    (view.codePointAt (index - 2)).map fun char => (char, 2)
  else
    (view.codePointAt (index - 1)).map fun char => (char, 1)

theorem lt_length_of_unit? {view : View} {index : Nat} {unit : CodeUnit}
    (found : view.unit? index = some unit) :
    index < view.length := by
  rw [unit?] at found
  split at found
  · assumption
  · contradiction

/-- Decoding succeeds only inside the view and takes at least one unit. -/
theorem bounds_of_decodeAt {view : View} {index count : Nat} {char : Char}
    (decoded : view.decodeAt index = some (char, count)) :
    index < view.length ∧ 0 < count := by
  rw [decodeAt] at decoded
  split at decoded
  · contradiction
  · rename_i unit found
    refine ⟨lt_length_of_unit? found, ?_⟩
    repeat' split at decoded
    all_goals
      simp only [Option.some.injEq, Prod.mk.injEq] at decoded
      omega

/-- The code points from `index` on, with their offsets. -/
def indexedCodePointsFrom (view : View) (index : Nat) : List (Nat × Char) :=
  match _decoded : view.decodeAt index with
  | none => []
  | some (char, count) => (index, char) :: view.indexedCodePointsFrom (index + count)
termination_by view.length - index
decreasing_by
  have bounds := bounds_of_decodeAt _decoded
  omega

def indexedCodePoints (view : View) : List (Nat × Char) :=
  view.indexedCodePointsFrom 0

def codePoints (view : View) : List Char :=
  view.indexedCodePoints.map Prod.snd

/-- The text of a view, with one replacement character for each surrogate without its partner. -/
def text (view : View) : String :=
  String.ofList (CodeUnit.decode view.units)

/-! ## Bytes -/

/-- The units of a view as bytes, the more significant one first: unit `i` is at byte `2 * i`. -/
def bytes (view : View) : List UInt8 :=
  view.units.flatMap CodeUnit.bytes

/-! ## Comparison -/

/-- Whether `expected` occurs at offset `index`.  Nothing occurs past the end. -/
def startsWithAt (view : View) : (index : Nat) → (expected : List CodeUnit) → Bool
  | index, [] => decide (index ≤ view.length)
  | index, unit :: rest =>
      view.unit? index == some unit && view.startsWithAt (index + 1) rest

/-- Whether `expected` ends exactly at offset `index`. -/
def endsWithAt (view : View) (index : Nat) (expected : List CodeUnit) : Bool :=
  decide (index ≤ view.length) && decide (expected.length ≤ index) &&
    view.startsWithAt (index - expected.length) expected

def startsWith (view : View) (expected : String) : Bool :=
  view.startsWithAt 0 (CodeUnit.ofChars expected.toList)

def endsWith (view : View) (expected : String) : Bool :=
  view.endsWithAt view.length (CodeUnit.ofChars expected.toList)

/-- Whether two views show the same units, wherever they lie in their backing texts. -/
def sameContent (left right : View) : Bool :=
  left.units == right.units

end View

end TextMatch
