/-
TOML values that stand without quotes: truth values, numbers, dates.

Such a value is one row of characters.  In a number an underscore may stand
between two digits; a decimal integer, like the part of a float before its
point, has no leading zeros; integers in base sixteen, eight and two have no
sign.  The exponent of a float counts only up to a bound on its size.

The reading of an integer is lenient in two ways, and what passes without
being a number is an integer that stands for none: a base may be named with no
digit behind it, and a decimal integer may go on after an underscore with
anything that begins with a hexadecimal digit.
-/
import Typescribe.Toml.Moment
import Typescribe.Toml.Quoted
import Typescribe.Toml.Value

namespace Typescribe.Toml

/-! ## Numbers -/

/-- A row without its underscores, each of which must have a digit on either
side; `afterDigit` says whether one stands before the row. -/
def ungroupedAfter? (isDigit : Char → Bool) (afterDigit : Bool) : Text → Option Text
  | [] => some []
  | c :: rest =>
    if c = '_' then
      if afterDigit && rest.head?.any isDigit then ungroupedAfter? isDigit false rest else none
    else (ungroupedAfter? isDigit (isDigit c) rest).map (c :: ·)

/-- A row without its underscores, each of which must have a digit on either
side. -/
def ungrouped? (isDigit : Char → Bool) (s : Text) : Option Text := ungroupedAfter? isDigit false s

/-- A text without its sign, and the sign. -/
def unsigned (s : Text) : Option Char × Text :=
  match s with
  | '-' :: rest => (some '-', rest)
  | '+' :: rest => (some '+', rest)
  | other => (none, other)

/-- A number with a sign. -/
def withSign (sign : Option Char) (n : Nat) : Int := if sign = some '-' then -n else n

/-- An integer in a base other than ten. -/
def basedInteger? : Text → Option Value
  | '0' :: 'x' :: rest => integer 16 Text.isHexDigit rest
  | '0' :: 'o' :: rest => integer 8 (fun c => '0' ≤ c && c ≤ '7') rest
  | '0' :: 'b' :: rest => integer 2 (fun c => c = '0' || c = '1') rest
  | _ => none
where
  integer (base : Nat) (isDigit : Char → Bool) (s : Text) : Option Value :=
    ((ungrouped? isDigit s).filter fun digits => digits.all isDigit).map fun digits =>
      .integer (if digits.isEmpty then none else some (Text.ofDigits base digits))

/-- A decimal integer from its sign and what follows it. -/
def decimalInteger? (sign : Option Char) (magnitude : Text) : Option Value :=
  if magnitude.head? = some '0' && magnitude.length ≠ 1 then none
  else
    (ungrouped? Text.isHexDigit magnitude).map fun digits =>
      .integer ((Text.ofDecimal? digits).map (withSign sign))

/-- An exponent of this size or more is not made longer by another digit. -/
def exponentBound : Nat := 0x10000

/-- The size of an exponent from its digits; those behind the one that brings
it to the bound do not count. -/
def exponentSize (digits : Text) : Nat :=
  digits.foldl (fun n c => if n < exponentBound then n * 10 + Text.digitValue c else n) 0

/-- The exponent of a float from what follows its digits: none, or the letter
`e` and a signed row of digits. -/
def exponent? : Text → Option Int
  | [] => some 0
  | c :: rest =>
    if c = 'e' || c = 'E' then
      let (sign, digits) := unsigned rest
      if digits ≠ [] && digits.all Char.isDigit then some (withSign sign (exponentSize digits))
      else none
    else none

/-- The fraction of a float: its digits and what follows them. -/
def fraction? : Text → Option (Text × Text)
  | '.' :: rest =>
    let digits := rest.takeWhile Char.isDigit
    if digits.isEmpty then none else some (digits, rest.dropWhile Char.isDigit)
  | other => some ([], other)

/-- A float from what follows its sign; whether a zero leads is seen with the
underscores in place. -/
def float? (magnitude : Text) : Option Value := do
  let plain ← ungrouped? Char.isDigit magnitude
  let whole := plain.takeWhile Char.isDigit
  if whole.isEmpty || (magnitude.head? = some '0' && whole.length ≠ 1) then none
  else
    let (fraction, rest) ← fraction? (plain.dropWhile Char.isDigit)
    let exponent ← exponent? rest
    some (.real (.finite (Text.ofDigits 10 (whole ++ fraction)) (exponent - fraction.length)))

/-- A decimal number from its sign and what follows it.  What follows the
digits in front decides of what kind it is. -/
def decimalNumber? (sign : Option Char) (magnitude : Text) : Option Value :=
  let rest := magnitude.dropWhile Char.isDigit
  if magnitude.isEmpty || rest.contains ' ' then none
  else if rest.any fun c => c = '.' || c = 'e' || c = 'E' then float? magnitude
  else if rest.isEmpty || rest.head? = some '_' then decimalInteger? sign magnitude
  else none

/-! ## Rows of characters -/

/-- The value that a row of characters stands for. -/
def Value.ofToken? (s : Text) : Option Value :=
  if s = "true" then some (.boolean true)
  else if s = "false" then some (.boolean false)
  else if Moment.isMoment s then some (.moment s)
  else
    match basedInteger? s with
    | some value => some value
    | none =>
      let (sign, magnitude) := unsigned s
      if magnitude = "inf" then some (.real .infinite)
      else if magnitude = "nan" then some (.real .notANumber)
      else decimalNumber? sign magnitude

/-- Characters of a row: all but those that mean something between values. -/
def isTokenChar (c : Char) : Bool :=
  c ∉ ['=', ',', '[', ']', '\x7b', '\x7d', ' ', '\t', '#', '\r', '\n']

/-- Characters that a row may go on with behind a space. -/
def resumesToken (c : Char) : Bool := isTokenChar c && c ∉ ['.', '"', '\'']

/-- The row of characters that a value without quotes starts with.  Spaces
belong to it where it goes on behind them, as it does between a date and a
time. -/
def token (s : Text) : Text :=
  let row := s.takeWhile isTokenChar
  let rest := s.dropWhile isTokenChar
  let behind := rest.dropWhile isSpace
  if behind.length < rest.length ∧ behind.head?.any resumesToken then
    row ++ rest.takeWhile isSpace ++ token behind
  else row
termination_by s.length
decreasing_by
  rename_i h
  exact Nat.lt_of_lt_of_le h.1 (List.dropWhile_sublist isTokenChar).length_le

/-- The value without brackets or braces that a text starts with, and what
follows it. -/
def scalar? (s : Text) : Option (Value × Text) :=
  match string? s with
  | some (t, rest) => some (.text t, rest)
  | none => (Value.ofToken? (token s)).map fun value => (value, s.drop (token s).length)

end Typescribe.Toml
