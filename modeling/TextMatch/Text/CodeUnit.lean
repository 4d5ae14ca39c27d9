/-!
# UTF-16 code units

A text is a sequence of 16-bit code units.  A code point below U+10000 is one unit; any other is a
high surrogate followed by a low one.  A surrogate without its partner is no code point and reads
as the replacement character.
-/

namespace TextMatch

/-- One UTF-16 code unit. -/
abbrev CodeUnit := UInt16

namespace CodeUnit

/-- The code point that stands for a surrogate without its partner. -/
def replacement : Char := '\uFFFD'

/-- Whether a unit is the first half of a surrogate pair. -/
def isHigh (unit : CodeUnit) : Bool :=
  decide (0xD800 ≤ unit) && decide (unit ≤ 0xDBFF)

/-- Whether a unit is the second half of a surrogate pair. -/
def isLow (unit : CodeUnit) : Bool :=
  decide (0xDC00 ≤ unit) && decide (unit ≤ 0xDFFF)

/-- The code point of a surrogate pair. -/
def pair (high low : CodeUnit) : Char :=
  Char.ofNat (0x10000 + (high.toNat - 0xD800) * 0x400 + (low.toNat - 0xDC00))

/-- The code point of a unit that stands alone. -/
def alone (unit : CodeUnit) : Char :=
  if isHigh unit || isLow unit then replacement else Char.ofNat unit.toNat

def ofChar (char : Char) : List CodeUnit :=
  if char.toNat < 0x10000 then
    [UInt16.ofNat char.toNat]
  else
    [UInt16.ofNat (0xD800 + (char.toNat - 0x10000) / 0x400),
      UInt16.ofNat (0xDC00 + (char.toNat - 0x10000) % 0x400)]

def ofChars (chars : List Char) : List CodeUnit :=
  chars.flatMap ofChar

/-- The code points of a sequence of units, with one replacement character for each surrogate
without its partner. -/
def decode : List CodeUnit → List Char
  | [] => []
  | [unit] => [alone unit]
  | unit :: next :: rest =>
      if isHigh unit && isLow next then
        pair unit next :: decode rest
      else
        alone unit :: decode (next :: rest)

/-- The more significant byte of a unit. -/
def highByte (unit : CodeUnit) : UInt8 :=
  UInt8.ofNat (unit.toNat / 256)

/-- The less significant byte of a unit. -/
def lowByte (unit : CodeUnit) : UInt8 :=
  UInt8.ofNat (unit.toNat % 256)

/-- The two bytes of a unit, the more significant one first. -/
def bytes (unit : CodeUnit) : List UInt8 :=
  [highByte unit, lowByte unit]

end CodeUnit

end TextMatch
