/-
Reading TOML documents.

A document is read line by line: a line is a header or an entry, and blank
lines and comments stand between lines.  In brackets and braces newlines and
comments may stand wherever a space may, except inside a key, and a comma may
follow the last item.  Brackets and braces nest up to a fixed depth, which is also the
measure that the reading of values goes down by; every other repetition goes
on only as long as the text gets shorter.
-/
import Typescribe.Toml.Scalar
import Typescribe.Toml.Table

namespace Typescribe.Toml

/-- How deep brackets and braces may nest, and how many tables may stand above
a name in a key. -/
def depthLimit : Nat := 80

/-! ## Gaps -/

/-- The text without the spaces at its start. -/
def dropSpaces (s : Text) : Text := s.dropWhile isSpace

/-- What follows the spaces, newlines and comments that a text starts with;
fails at a character that may not stand in a comment. -/
def gapFrom (inComment : Bool) : Text → Option Text
  | [] => some []
  | '\n' :: rest => gapFrom false rest
  | '\r' :: '\n' :: rest => gapFrom false rest
  | c :: rest =>
    if inComment then (if isVisible c then gapFrom true rest else none)
    else if isSpace c then gapFrom false rest
    else if c = '#' then gapFrom true rest
    else some (c :: rest)

/-- What follows the gap that a text starts with. -/
def gap? (s : Text) : Option Text := gapFrom false s

/-- What follows the end of a line: spaces, a comment or none, and a newline
or the end of the text. -/
def lineEnd? (s : Text) : Option Text :=
  let behindComment := match dropSpaces s with
    | '#' :: rest => rest.dropWhile isVisible
    | other => other
  if behindComment.isEmpty then some [] else newline? behindComment

/-! ## Keys -/

/-- Characters of a name without quotes. -/
def isBareChar (c : Char) : Bool := c.isAlphanum || c = '_' || c = '-'

/-- The name that a text starts with, and what follows it. -/
def name? (s : Text) : Option (Text × Text) :=
  match lineString? s with
  | some found => some found
  | none =>
    let bare := s.takeWhile isBareChar
    if bare.isEmpty then none else some (bare, s.dropWhile isBareChar)

/-- The names with dots between them that a text starts with, and what follows
them and the spaces behind. -/
def dotted? (s : Text) : Option (Key × Text) :=
  match name? (dropSpaces s) with
  | none => none
  | some (name, rest) =>
    match dropSpaces rest with
    | '.' :: more =>
      if more.length < s.length then
        (dotted? more).map fun (key, behind) => ({ key with above := name :: key.above }, behind)
      else none
    | other => some (⟨[], name⟩, other)
termination_by s.length

/-- The key that a text starts with, and what follows it. -/
def key? (s : Text) : Option (Key × Text) :=
  (dotted? s).filter fun (key, _) => key.above.length < depthLimit

/-! ## Values -/

/-- A key, an equals sign and a value; `skip?` passes what may stand on either
side of the sign. -/
def keyValue? (skip? : Text → Option Text) (item : Text → Option (Value × Text)) (s : Text) :
    Option ((Key × Value) × Text) :=
  match key? s with
  | none => none
  | some (key, rest) =>
    match skip? rest with
    | some ('=' :: rest) =>
      ((skip? rest).bind item).map fun (value, behind) => ((key, value), behind)
    | _ => none

/-- Items with commas between them, up to a closing character; read from
behind the opening one. -/
def items? {α : Type} (closing : Char) (item : Text → Option (α × Text)) (s : Text) :
    Option (List α × Text) :=
  match gap? s with
  | none | some [] => none
  | some (c :: body) =>
    if c = closing then some ([], body)
    else
      match item (c :: body) with
      | none => none
      | some (first, rest) =>
        match gap? rest with
        | none | some [] => none
        | some (d :: behind) =>
          if d = closing then some ([first], behind)
          else if d = ',' ∧ behind.length < s.length then
            (items? closing item behind).map fun (more, behind) => (first :: more, behind)
          else none
termination_by s.length
decreasing_by rename_i h; exact h.2

/-- The value that a text starts with, and what follows it; brackets and
braces may nest as deep as the number says. -/
def value? : Nat → Text → Option (Value × Text)
  | 0, s => scalar? s
  | depth + 1, s =>
    match s with
    | '[' :: rest =>
      (items? ']' (value? depth) rest).map fun (items, behind) => (.array items, behind)
    | '\x7b' :: rest =>
      match items? '\x7d' (keyValue? gap? (value? depth)) rest with
      | none => none
      | some (entries, behind) =>
        (Entries.insertAll .inline [] entries).map fun table => (.table .inline table, behind)
    | other => scalar? other

/-! ## Lines -/

/-- A line of a document. -/
inductive Line where
  | header (repeated : Bool) (key : Key)
  | entry (key : Key) (value : Value)

/-- The header that a text starts with, and what follows it. -/
def header? : Text → Option (Line × Text)
  | '[' :: '[' :: rest =>
    match key? rest with
    | some (key, ']' :: ']' :: behind) => some (.header true key, behind)
    | _ => none
  | '[' :: rest =>
    match key? rest with
    | some (key, ']' :: behind) => some (.header false key, behind)
    | _ => none
  | _ => none

/-- The line that a text starts with, and what follows its end. -/
def line? (s : Text) : Option (Line × Text) :=
  let found :=
    if s.head? = some '[' then header? s
    else
      (keyValue? (fun t => some (dropSpaces t)) (value? depthLimit) s).map
        fun ((key, value), rest) => (Line.entry key value, rest)
  match found with
  | none => none
  | some (line, rest) => (lineEnd? rest).map fun behind => (line, behind)

/-- All lines of a text. -/
def lines? (s : Text) : Option (List Line) :=
  match gap? s with
  | none => none
  | some [] => some []
  | some body =>
    match line? body with
    | none => none
    | some (line, rest) =>
      if rest.length < s.length then (lines? rest).map (line :: ·) else none
termination_by s.length

/-- Lines as a document: every entry belongs to the last header before it. -/
def Document.ofLines : List Line → Document
  | [] => ⟨[], []⟩
  | .entry key value :: more =>
    let rest := ofLines more
    { rest with entries := (key, value) :: rest.entries }
  | .header repeated key :: more =>
    let rest := ofLines more
    ⟨[], ⟨repeated, key, rest.entries⟩ :: rest.sections⟩

/-- The table that a text stands for.  A byte order mark at its start does not
count. -/
def Entries.ofText? (s : Text) : Option Entries :=
  let body := if s.head? = some '\uFEFF' then s.tail else s
  (lines? body).bind fun lines => (Document.ofLines lines).table?

end Typescribe.Toml
