/-
What a backslash begins in a pattern.

An escape stands for one character, for a class of characters, or for an edge:
a place between characters.  Which escapes there are depends on the mode.
Without Unicode a pattern is about ASCII, and no escape may stand for anything
beyond it; with Unicode there are no word edges.
-/
import Typescribe.Text.Hex

namespace Typescribe.Pattern

/-! ## Modes -/

/-- How a pattern is read from some place on. -/
structure Mode where
  /-- Classes are those of Unicode. -/
  unicode : Bool
  /-- Blanks and comments do not count. -/
  spaced : Bool
deriving DecidableEq, Repr

namespace Mode

/-- The mode in which a pattern begins. -/
def initial : Mode := ⟨true, false⟩

/-- The text without the blanks and comments at its start; a comment goes from
a number sign to the end of its line. -/
def dropGap (inComment : Bool) : Text → Text
  | [] => []
  | c :: rest =>
    if inComment then dropGap (c ≠ '\n') rest
    else if Text.isBlank c then dropGap false rest
    else if c = '#' then dropGap true rest
    else c :: rest

/-- The text without what does not count at its start. -/
def skip (m : Mode) (s : Text) : Text := if m.spaced then dropGap false s else s

end Mode

/-! ## Escapes -/

/-- What an escape stands for. -/
inductive Escape where
  | character (c : Char)
  | characters
  | edge
deriving DecidableEq, Repr

namespace Escape

/-- Letters for characters that have no sign of their own. -/
def controls : List (Char × Char) := [
  ('a', '\x07'), ('t', '\t'), ('n', '\n'), ('v', '\x0b'), ('f', '\x0c'), ('r', '\r')]

/-- Letters before the digits of a code point, with how many these are. -/
def codeLengths : List (Char × Nat) := [('x', 2), ('u', 4), ('U', 8)]

/-- The general categories that have a letter, without regard to case. -/
def categories : Text := "clmnpsz"

/-- So many hexadecimal digits, and what follows them. -/
def digits? (m : Mode) : Nat → Text → Option (Text × Text)
  | 0, s => some ([], s)
  | n + 1, s =>
    match m.skip s with
    | [] => none
    | c :: rest =>
      if Text.isHexDigit c then (digits? m n rest).map fun (more, behind) => (c :: more, behind)
      else none

/-- The character given by so many digits, and what follows them.  Two digits
give a byte, which without Unicode must be one of ASCII. -/
def coded? (m : Mode) (n : Nat) (s : Text) : Option (Escape × Text) :=
  match digits? m n s with
  | none => none
  | some (digits, rest) =>
    let code := Text.ofDigits 16 digits
    if m.unicode || n ≠ 2 || code < 0x80 then
      (Text.ofCodePoint? code).map fun c => (character c, rest)
    else none

/-- The characters of a category, given by its letter, and what follows it. -/
def category? (m : Mode) (s : Text) : Option (Escape × Text) :=
  match m.skip s with
  | [] => none
  | c :: rest => if m.unicode && categories.contains c.toLower then some (characters, rest) else none

/-- Whether a backslash makes a character stand for itself. -/
def isSign (c : Char) : Bool := c.toNat < 0x80 && !c.isAlphanum && c ≠ '<' && c ≠ '>'

/-- What stands behind a backslash, and what follows it. -/
def read? (m : Mode) : Text → Option (Escape × Text)
  | [] => none
  | c :: rest =>
    match codeLengths.lookup c, controls.lookup c with
    | some n, _ => coded? m n rest
    | none, some control => some (character control, rest)
    | none, none =>
      if c = 'p' || c = 'P' then category? m rest
      else if ['d', 's', 'w'].contains c then some (characters, rest)
      else if ['D', 'S', 'W'].contains c then if m.unicode then some (characters, rest) else none
      else if c = 'A' || c = 'z' then some (edge, rest)
      else if ['b', 'B', '<', '>'].contains c then if m.unicode then none else some (edge, rest)
      else if isSign c then some (character c, rest)
      else none

end Escape

end Typescribe.Pattern
