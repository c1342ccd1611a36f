/-
Which events are shown.

The environment variable `variableName` may hold directives with commas
between them.  A directive gives the last level that is shown of the events
from a scope, which is the start of the names of some parts of the program:

* `level` alone is for everything, and `scope` alone shows all levels;
* `scope=level` says both;
* `scope[span]=level` and `scope[span{field}]=level` are for what goes on
  inside a span of that name or with that field, which may go on with an equals
  sign and a number or a pattern.  There are no spans here; but without a name,
  the field `message` is one that every event has.

Of the directives that cover an event, the one with the longest scope decides,
of these one with a field, and of these the last.  An event that no directive
covers is not shown.  Without the variable, or where one of its directives
cannot be read, the command line decides.

The parts of a directive are found without the blanks at its ends, but are cut
from the text as it stands, by places in bytes.  Blanks in front therefore
shift them, and where a place comes to lie inside a character the program
stops at once.
-/
import Typescribe.Event
import Typescribe.Pattern.Reader
import Typescribe.Text.Utf8

namespace Typescribe.CommandLine.LogFilter

/-- The variable that holds directives. -/
def variableName : Text := "RUST_LOG"

/-- Why directives are not followed. -/
inductive Trouble where
  /-- A directive cannot be read. -/
  | unreadable
  /-- A directive is cut inside a character. -/
  | splitCharacter
deriving DecidableEq, Repr

/-! ## Levels -/

/-- The rank from which on everything is shown. -/
def lastRank : Nat := 5

/-- Names of levels with the rank of the last level that is shown. -/
def levelNames : List (Text × Nat) := [
  ("off", 0), ("error", 1), ("warn", 2), ("info", 3), ("debug", 4), ("trace", lastRank)]

/-- The rank of a level, given by its name in letters of either case or as a
number. -/
def rank? (s : Text) : Option Nat :=
  let digits := match s with
    | '+' :: rest => rest
    | other => other
  match Text.ofDecimal? digits with
  | some n => if n ≤ lastRank then some n else none
  | none => levelNames.lookup (s.map Char.toLower)

/-- The rank of the level behind an equals sign, where it may be missing. -/
def rankOrLast? (s : Text) : Option Nat := if s = [] then some lastRank else rank? s

/-! ## Fields -/

/-- The exponent of a number, or nothing. -/
def isExponent : Text → Bool
  | [] => true
  | c :: rest =>
    let digits := if rest.head? = some '+' ∨ rest.head? = some '-' then rest.tail else rest
    (c = 'e' || c = 'E') && (Text.ofDecimal? digits).isSome

/-- Numbers that have a name. -/
def namedNumbers : List Text := ["inf", "infinity", "nan"]

/-- Whether a text is a number without a sign. -/
def isMagnitude (s : Text) : Bool :=
  if namedNumbers.contains (s.map Char.toLower) then true
  else
    let whole := s.takeWhile Char.isDigit
    let (fraction, rest) := match s.drop whole.length with
      | '.' :: more => more.span Char.isDigit
      | other => ([], other)
    !(whole ++ fraction).isEmpty && isExponent rest

/-- Whether a field may have a value.  A number with a plus sign is no pattern;
all others are. -/
def isFieldValue (s : Text) : Bool :=
  Pattern.isPattern s || (s.head? = some '+' && isMagnitude s.tail)

/-- Whether a field can be read: a name and perhaps a value. -/
def isField (s : Text) : Bool :=
  s ≠ [] &&
    match Text.splitAll '=' s with
    | _ :: value :: _ => isFieldValue value
    | _ => true

/-! ## Directives -/

/-- A directive on events. -/
structure Directive where
  /-- What the name of an event's origin must start with. -/
  scope : Text
  /-- The directive asks for the field that every event has. -/
  fielded : Bool
  /-- The rank of the last level that is shown. -/
  rank : Nat
deriving DecidableEq, Repr

namespace Directive

/-- Whether a directive is for the events from a part of the program. -/
def covers (d : Directive) (o : Origin) : Bool := d.scope.isPrefixOf o.path

/-- How narrow a directive is: by its scope first, and then by its field. -/
def weight (d : Directive) : Nat := 2 * d.scope.length + if d.fielded then 1 else 0

/-- The part of a directive between two places. -/
def cut (whole : Text) (first last : Nat) : Except Trouble Text :=
  match Utf8.slice? first last whole with
  | some part => .ok part
  | none => .error .splitCharacter

/-- The rank of the level from a place on. -/
def levelFrom (whole : Text) (n : Nat) : Except Trouble Nat := do
  let level ← cut whole n (Utf8.size whole)
  match rankOrLast? level with
  | some rank => return rank
  | none => throw .unreadable

/-- The rank at the end of a directive, where `rest` is left of it from a place
on: nothing, or an equals sign and a level. -/
def ending (whole rest : Text) (n : Nat) : Except Trouble Nat :=
  match rest with
  | [] => return lastRank
  | '=' :: _ => levelFrom whole (n + 1)
  | _ => throw .unreadable

/-- Reads a directive from its field on; `rest` is left of it from the place
`n` on, and `span` stands before. -/
def fromField (scope whole span rest : Text) (n : Nat) : Except Trouble (Option Directive) := do
  let inside := rest.takeWhile (· ≠ '\x7d')
  let last := n + Utf8.size inside
  match rest.drop inside.length with
  | [] => throw .unreadable
  | _ :: behind =>
    let field ← cut whole n last
    match behind with
    | ']' :: more =>
      if isField field then
        let rank ← ending whole more (last + 2)
        return if span = [] ∧ field = "message" then some ⟨scope, true, rank⟩ else none
      else throw .unreadable
    | _ => throw .unreadable

/-- Reads a directive from its span on; `rest` is left of it from the place `n`
on. -/
def fromSpan (scope whole rest : Text) (n : Nat) : Except Trouble (Option Directive) := do
  let inside := rest.takeWhile fun c => c ≠ ']' && c ≠ '\x7b'
  let last := n + Utf8.size inside
  match rest.drop inside.length with
  | [] => throw .unreadable
  | c :: behind =>
    let span ← cut whole n last
    if c = ']' then
      let _ ← ending whole behind (last + 1)
      return none
    else fromField scope whole span behind (last + 1)

/-- Reads a directive; one that is for no event at all is read as such. -/
def read (whole : Text) : Except Trouble (Option Directive) := do
  let trimmed := whole.trim
  match trimmed with
  | [] => throw .unreadable
  | '[' :: rest => fromSpan [] whole rest 1
  | c :: _ =>
    if Text.isAlphanumeric c || c = '-' || c = ':' || c = '_' then
      let start := trimmed.takeWhile fun d => d ≠ '=' && d ≠ '['
      let n := Utf8.size start
      match trimmed.drop start.length with
      | [] =>
        match rank? whole with
        | some rank => return some ⟨[], false, rank⟩
        | none => return some ⟨whole, false, lastRank⟩
      | d :: rest =>
        let scope ← cut whole 0 n
        if d = '[' then fromSpan scope whole rest (n + 1)
        else
          let rank ← levelFrom whole (n + 1)
          return some ⟨scope, false, rank⟩
    else throw .unreadable

end Directive

/-- The directives in the value of the variable; the first trouble counts. -/
def ofValue (value : Text) : Except Trouble (List Directive) := do
  let parts := (Text.splitAll ',' value).filter fun part => !part.isEmpty
  let found ← parts.mapM Directive.read
  return found.filterMap id

/-! ## Filtering -/

/-- The directives of the command line; it may ask for more. -/
def standard (verbose : Bool) : List Directive :=
  let program := Origin.commandLine.path
  if verbose then [⟨program, false, Level.debug.rank⟩, ⟨[], false, Level.info.rank⟩]
  else [⟨program, false, Level.info.rank⟩]

/-- The directives that count, by the value of the variable and whether the
command line asks for more; none where the program stops. -/
def directives? (value : Option Text) (verbose : Bool) : Option (List Directive) :=
  match value.map ofValue with
  | none | some (.error .unreadable) => some (standard verbose)
  | some (.error .splitCharacter) => none
  | some (.ok found) => some found

/-- The narrower of two directives, the later if they are equally narrow. -/
def narrower (earlier : Option Directive) (later : Directive) : Option Directive :=
  match earlier with
  | none => some later
  | some d => if d.weight ≤ later.weight then some later else some d

/-- The directive that decides on the events from a part of the program. -/
def deciding? (directives : List Directive) (o : Origin) : Option Directive :=
  (directives.filter fun d => d.covers o).foldl narrower none

/-- Whether an event is shown. -/
def shows (directives : List Directive) (e : Event) : Bool :=
  (deciding? directives e.origin).any fun d => e.level.rank ≤ d.rank

end Typescribe.CommandLine.LogFilter
