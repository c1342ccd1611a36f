/-
Classes of characters in brackets.

A class lists characters, ranges, escapes, named classes of ASCII and classes
in brackets of their own; operators stand between such lists.  A circumflex in
front takes the complement, of a named class or of a whole bracket.

All that counts of a class is whether it can be read and how deep it nests.
Without Unicode a class must not have characters beyond ASCII: its characters
are checked one by one, and a complement always has some.
-/
import Typescribe.Pattern.Escape

namespace Typescribe.Pattern

/-- How deep parts may nest in a pattern. -/
def depthLimit : Nat := 250

/-- The depth of parts side by side: a single part stands for itself. -/
def joinedDepth : List Nat → Nat
  | [] => 0
  | [depth] => depth
  | depths => depths.foldr max 0 + 1

/-! ## Members -/

/-- Names of classes of ASCII. -/
def asciiClasses : List Text := [
  "alnum", "alpha", "ascii", "blank", "cntrl", "digit", "graph", "lower", "print", "punct",
  "space", "upper", "word", "xdigit"]

/-- The named class that a text starts with, as whether it is a complement, and
what follows it. -/
def asciiClass? : Text → Option (Bool × Text)
  | '[' :: ':' :: rest =>
    let negated := rest.head? = some '^'
    let body := if negated then rest.tail else rest
    let name := body.takeWhile (· ≠ ':')
    match body.drop name.length with
    | ':' :: ']' :: behind => if asciiClasses.contains name then some (negated, behind) else none
    | _ => none
  | _ => none

/-- The character or escape that a text starts with, as the character if it is
one, and what follows it. -/
def member? (m : Mode) : Text → Option (Option Char × Text)
  | [] => none
  | '\\' :: rest =>
    match Escape.read? m rest with
    | some (.character c, behind) => if m.unicode || c.toNat < 0x80 then some (c, behind) else none
    | some (.characters, behind) => some (none, behind)
    | _ => none
  | c :: rest => if m.unicode || c.toNat < 0x80 then some (some c, rest) else none

/-- The character that counts next behind a hyphen; a second number sign is
seen even in a comment. -/
def Mode.next? (m : Mode) (s : Text) : Option Char :=
  if m.spaced then
    match s.dropWhile Text.isBlank with
    | '#' :: rest => (rest.dropWhile Text.isBlank).head?
    | other => other.head?
  else s.head?

/-- What follows the range or single member that a text starts with.  A hyphen
makes a range unless a bracket or another hyphen is next. -/
def dropRange? (m : Mode) (s : Text) : Option Text :=
  match member? m s with
  | none => none
  | some (low, rest) =>
    match m.skip rest with
    | '-' :: behind =>
      if m.next? behind = some ']' ∨ m.next? behind = some '-' then some ('-' :: behind)
      else
        match low, member? m (m.skip behind) with
        | some low, some (some high, rest) => if low ≤ high then some rest else none
        | _, _ => none
    | other => some other

/-- What follows the operator that a text starts with. -/
def dropOperator? : Text → Option Text
  | '&' :: '&' :: rest => some rest
  | '-' :: '-' :: rest => some rest
  | '~' :: '~' :: rest => some rest
  | _ => none

/-! ## Brackets -/

/-- The depth of the item that a text starts with, and what follows it;
`nested` reads a class from behind its bracket on. -/
def item? (m : Mode) (nested : Text → Option (Nat × Text)) (s : Text) : Option (Nat × Text) :=
  match asciiClass? s, s with
  | some (negated, rest), _ => if negated && !m.unicode then none else some (0, rest)
  | none, '[' :: rest => nested rest
  | none, other => (dropRange? m other).map fun rest => (0, rest)

/-- The depth of a list of items behind an operator, whose left side is given,
or alone. -/
def sideDepth (left : Option Nat) (items : List Nat) : Nat :=
  match left with
  | none => joinedDepth items
  | some depth => max depth (joinedDepth items) + 1

/-- The depth of a class that is read up to its bracket, and what follows it;
`left` and `items` have been read. -/
def items? (m : Mode) (nested : Text → Option (Nat × Text)) (left : Option Nat)
    (items : List Nat) (s : Text) : Option (Nat × Text) :=
  match m.skip s with
  | [] => none
  | ']' :: rest => some (sideDepth left items, rest)
  | body =>
    match dropOperator? body with
    | some rest =>
      if rest.length < s.length then items? m nested (some (sideDepth left items)) [] rest
      else none
    | none =>
      match item? m nested body with
      | none => none
      | some (depth, rest) =>
        if rest.length < s.length then items? m nested left (depth :: items) rest else none
termination_by s.length

/-- The number of hyphens that a class starts with, and what follows them. -/
def hyphens (m : Mode) (s : Text) : Nat × Text :=
  match m.skip s with
  | '-' :: rest =>
    if rest.length < s.length then
      let (count, behind) := hyphens m rest
      (count + 1, behind)
    else (0, '-' :: rest)
  | other => (0, other)
termination_by s.length

/-- The number of members that stand for themselves only at the start of a
class, hyphens or else a closing bracket, and what follows them. -/
def leading (m : Mode) (s : Text) : Nat × Text :=
  match hyphens m s with
  | (0, ']' :: rest) => (1, rest)
  | found => found

/-- The depth of the class that a text starts with, from behind its bracket on,
and what follows it; brackets may nest as deep as the number says. -/
def class? (m : Mode) : Nat → Text → Option (Nat × Text)
  | 0, _ => none
  | limit + 1, s =>
    let body := m.skip s
    let negated := body.head? = some '^'
    if negated && !m.unicode then none
    else
      let (count, rest) := leading m (if negated then body.tail else body)
      (items? m (class? m limit) none (List.replicate count 0) rest).map
        fun (depth, behind) => (depth + 1, behind)

end Typescribe.Pattern
