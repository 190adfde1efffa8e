import LineScript.Text.Basic

/-!
The quoted form of a text, in which no character is left that a reader could miss: quotes and
backslashes are escaped, the common controls have short escapes, and every other character without a
shape of its own is written by its code point.
-/

namespace LineScript.Text

open Unicode

/-- The lower-case hexadecimal digits of a number. -/
def hex (n : Nat) : Text := Nat.toDigits 16 n

/-- One character inside a quoted text. -/
def quotedChar (c : Char) : Text :=
  if c == '"' then ['\\', '"']
  else if c == '\\' then ['\\', '\\']
  else if c == '\n' then ['\\', 'n']
  else if c == '\r' then ['\\', 'r']
  else if c == '\t' then ['\\', 't']
  else if c.toNat == 0 then ['\\', '0']
  else if isHidden c then "\\u\x7b".toList ++ hex c.toNat ++ "\x7d".toList
  else [c]

/-- The quoted form of a text. -/
def quoted (t : Text) : Text := '"' :: t.flatMap quotedChar ++ ['"']

end LineScript.Text
