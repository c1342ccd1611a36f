/-
Which texts are patterns.

A pattern is a regular expression: characters, classes and edges side by side,
signs of repetition behind what they repeat, bars between alternatives, and
groups in parentheses, which may have a name or flags.  Numbers of repetitions
in braces and references back to a group are not understood.

The reading goes from left to right and keeps the groups that are open.  Of
what it has read it keeps only how deep it nests.
-/
import Typescribe.Pattern.Class
import Typescribe.Text.Letters

namespace Typescribe.Pattern

/-! ## Openings of groups -/

/-- What stands behind an opening parenthesis. -/
inductive Opening where
  /-- Flags for what follows in the enclosing group. -/
  | flags (mode : Mode)
  /-- A group with the mode inside of it. -/
  | group (mode : Mode) (name : Option Text)
deriving DecidableEq, Repr

/-- Letters of flags, and the hyphen before flags that are taken back. -/
def flagSigns : Text := "imsUuRx-"

/-- Whether flags can be read: none comes twice, and a hyphen has some behind
it. -/
def areFlags (s : Text) : Bool :=
  s.all flagSigns.contains && s.Nodup && s.getLast? ≠ some '-'

/-- A mode with a flag set or taken back, if the flag is there. -/
def flagged (flag : Char) (flags : Text) (before : Bool) : Bool :=
  if flags.contains flag then (flags.takeWhile (· ≠ '-')).contains flag else before

/-- A mode with flags. -/
def Mode.withFlags (m : Mode) (flags : Text) : Mode :=
  ⟨flagged 'u' flags m.unicode, flagged 'x' flags m.spaced⟩

/-- Whether a text is the name of a group. -/
def isName : Text → Bool
  | [] => false
  | c :: rest =>
    (c = '_' || Text.isAlphabetic c) &&
      rest.all fun d => ['_', '.', '[', ']'].contains d || Text.isAlphanumeric d

/-- The name that a text starts with, and what follows its bracket. -/
def named? (m : Mode) (s : Text) : Option (Opening × Text) :=
  match Text.cutAt '>' s with
  | some (name, rest) => if isName name then some (.group m (some name), rest) else none
  | none => none

/-- The flags that a text starts with, and what follows their end: a colon, or
a parenthesis if there are any. -/
def flags? (m : Mode) (s : Text) : Option (Opening × Text) :=
  let flags := s.takeWhile fun c => c ≠ ':' && c ≠ ')'
  if areFlags flags then
    match s.drop flags.length with
    | ':' :: rest => some (.group (m.withFlags flags) none, rest)
    | ')' :: rest => if flags = [] then none else some (.flags (m.withFlags flags), rest)
    | _ => none
  else none

/-- What stands behind an opening parenthesis, and what follows it. -/
def opening? (m : Mode) (s : Text) : Option (Opening × Text) :=
  match m.skip s with
  | '?' :: 'P' :: '<' :: rest => named? m rest
  | '?' :: '<' :: rest => named? m rest
  | '?' :: rest => flags? m rest
  | other => some (.group m none, other)

/-! ## Groups -/

/-- A group, or the whole pattern, as far as it has been read. -/
structure Group where
  mode : Mode
  /-- The depths of the alternatives that are complete. -/
  branches : List Nat
  /-- The depths of the parts of the last alternative, the last one first; none
  for flags, which cannot be repeated. -/
  parts : List (Option Nat)

namespace Group

/-- A group of which nothing has been read. -/
def blank (m : Mode) : Group := ⟨m, [], []⟩

/-- A group with one more part. -/
def add (g : Group) (part : Option Nat) : Group := { g with parts := part :: g.parts }

/-- The depth of the last alternative. -/
def branch (g : Group) : Nat := joinedDepth (g.parts.map fun part => part.getD 0)

/-- A group of which the next alternative begins. -/
def split (g : Group) : Group := ⟨g.mode, g.branch :: g.branches, []⟩

/-- The depth of what is inside a group. -/
def depth (g : Group) : Nat := joinedDepth (g.branch :: g.branches)

/-- A group with its last part repeated, if there is one that can be. -/
def repeated? (g : Group) : Option Group :=
  match g.parts with
  | some depth :: more => some { g with parts := some (depth + 1) :: more }
  | _ => none

end Group

/-! ## Reading -/

/-- How far the reading of a pattern has come. -/
structure Reading where
  /-- The innermost group that is open, or the whole pattern. -/
  group : Group
  /-- What is around it, from the inside out. -/
  around : List Group
  /-- The names of groups. -/
  names : List Text
  rest : Text

namespace Reading

/-- The start of a pattern. -/
def start (s : Text) : Reading := ⟨.blank .initial, [], [], s⟩

/-- One more part, and what follows it. -/
def add (r : Reading) (depth : Nat) (rest : Text) : Reading :=
  { r with group := r.group.add (some depth), rest := rest }

/-- An opening parenthesis. -/
def opened? (r : Reading) (s : Text) : Option Reading :=
  match opening? r.group.mode s with
  | none => none
  | some (.flags mode, rest) =>
    some { r with group := { r.group.add none with mode := mode }, rest := rest }
  | some (.group mode name, rest) =>
    if name.any r.names.contains then none
    else some ⟨.blank mode, r.group :: r.around, name.toList ++ r.names, rest⟩

/-- A closing parenthesis. -/
def closed? (r : Reading) (s : Text) : Option Reading :=
  match r.around with
  | [] => none
  | outer :: more => some ⟨outer.add (some (r.group.depth + 1)), more, r.names, s⟩

/-- A sign of repetition, which a question mark may follow. -/
def repeated? (r : Reading) (s : Text) : Option Reading :=
  r.group.repeated?.map fun group =>
    { r with group := group, rest := if s.head? = some '?' then s.tail else s }

/-- Reads the character `c` and what belongs to it; `s` is what follows it. -/
def step? (r : Reading) (c : Char) (s : Text) : Option Reading :=
  let m := r.group.mode
  if c = '(' then r.opened? s
  else if c = ')' then r.closed? s
  else if c = '|' then some { r with group := r.group.split, rest := s }
  else if c = '[' then (class? m depthLimit s).map fun (depth, rest) => r.add depth rest
  else if c = '?' || c = '*' || c = '+' then r.repeated? s
  else if c = '\x7b' then none
  else if c = '\\' then (Escape.read? m s).map fun (_, rest) => r.add 0 rest
  else if c = '.' && !m.unicode then none
  else some (r.add 0 s)

/-- The depth of the whole pattern. -/
def finish? (r : Reading) : Option Nat :=
  match r.group.mode.skip r.rest with
  | [] => if r.around.isEmpty then some r.group.depth else none
  | c :: s =>
    match r.step? c s with
    | none => none
    | some next => if next.rest.length < r.rest.length then next.finish? else none
termination_by r.rest.length

end Reading

/-- Whether a text is a pattern. -/
def isPattern (s : Text) : Bool := (Reading.start s).finish?.any (· ≤ depthLimit)

end Typescribe.Pattern
