import TextMatch.Text.View

/-!
# Quoted text

A quoted text stands between quotation marks, and the characters that could be misread are escaped.
-/

namespace TextMatch

/-- A character as it is written in a quoted text.  A control character without an escape of its
own is written as its code point in hexadecimal. -/
def escaped (char : Char) : String :=
  match char with
  | '\x00' => "\\0"
  | '\t' => "\\t"
  | '\n' => "\\n"
  | '\r' => "\\r"
  | '"' => "\\\""
  | '\\' => "\\\\"
  | other =>
      if other.toNat < 0x20 ∨ (0x7F ≤ other.toNat ∧ other.toNat < 0xA0) then
        "\\u\x7b" ++ String.ofList (Nat.toDigits 16 other.toNat) ++ "\x7d"
      else
        String.singleton other

/-- A text in quotation marks. -/
def quoted (text : String) : String :=
  "\"" ++ String.join (text.toList.map escaped) ++ "\""

/-- A view in quotation marks, with the range that it covers in its backing text. -/
def View.description (view : View) : String :=
  s!"{quoted view.text}@{view.start}..{view.stop}"

end TextMatch
