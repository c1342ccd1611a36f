/-
Texts between quotes, for people to read.

The quote and the backslash are escaped by a backslash; tabs, newlines,
carriage returns and U+0000 have short escapes; every other character that
leaves no mark of its own is written as its code point in hexadecimal.  All
else stands for itself.
-/
import Typescribe.Text.Basic
import Typescribe.Text.UnprintableRanges

namespace Typescribe.Text

/-- A character that can be told when it is printed. -/
def isPrintable (c : Char) : Bool :=
  if c.toNat < 0x80 then 0x20 ≤ c.toNat && c.toNat < 0x7F
  else !UnprintableRanges.all.any fun (low, high) => low ≤ c.toNat && c.toNat ≤ high

/-- A character between quotes. -/
def escape (c : Char) : Text :=
  if c = '"' then "\\\""
  else if c = '\\' then "\\\\"
  else if c = '\n' then "\\n"
  else if c = '\r' then "\\r"
  else if c = '\t' then "\\t"
  else if c = '\x00' then "\\0"
  else if isPrintable c then [c]
  else "\\u\x7b" ++ Nat.toDigits 16 c.toNat ++ "\x7d"

/-- A text between quotes. -/
def quoted (s : Text) : Text := '"' :: s.flatMap escape ++ ['"']

/-- Texts one after the other, with a separator between them. -/
def joined (separator : Text) : List Text → Text
  | [] => []
  | [s] => s
  | s :: more => s ++ separator ++ joined separator more

end Typescribe.Text
