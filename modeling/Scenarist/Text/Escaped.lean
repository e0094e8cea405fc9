import Scenarist.Unicode.Printable

/-! # Text shown between quotes

Quotes and backslashes are escaped, and so is what cannot be seen: by a letter where there is
one, else by the code point.
-/

namespace Scenarist.Text

/-- The code point of `c` in hexadecimal, as an escape. -/
def codePointEscape (c : Char) : Text :=
  "\\u\x7b".toList ++ Nat.toDigits 16 c.toNat ++ "\x7d".toList

def escapedChar (c : Char) : Text :=
  if c = '\x00' then "\\0"
  else if c = '\t' then "\\t"
  else if c = '\r' then "\\r"
  else if c = '\n' then "\\n"
  else if c = '"' || c = '\\' then ['\\', c]
  else if Unicode.isGraphemeExtend c || !Unicode.isPrintable c then codePointEscape c
  else [c]

/-- The text between double quotes, escaped so that it can be read by eye. -/
def shown (t : Text) : Text := "\"".toList ++ t.flatMap escapedChar ++ "\"".toList

end Scenarist.Text
