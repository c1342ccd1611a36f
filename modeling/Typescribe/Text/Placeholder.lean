/-
Placeholders in a text, and their values.

A placeholder is `$`, an opening brace, a name of one or more characters
other than the closing brace, and the closing brace.  `pieces` cuts a text
into placeholders and the characters outside them, once and from the left;
`substitute` then writes the pieces down again, each placeholder as the value
of its name or, when the name has none, as it stood.  Since the text is cut
before any value is put in, values are never searched for placeholders.
-/
import Typescribe.Text.Basic

namespace Typescribe

/-- The variables that are set: a name's value, if it has one. -/
abbrev Environment := Text → Option Text

/-- The environment of a list of bindings, each seen as the line `name=value`:
a name's value is what follows the name and the equals sign on the first line
that starts with them. -/
def Environment.ofBindings (bindings : List (Text × Text)) : Environment := fun name =>
  bindings.findSome? fun (key, value) =>
    let line := key ++ '=' :: value
    let wanted := name ++ ['=']
    if wanted.isPrefixOf line then some (line.drop wanted.length) else none

namespace Placeholder

/-- A piece of a text: a placeholder's name, or a character outside them. -/
inductive Piece where
  | plain (c : Char)
  | hole (name : Text)
deriving DecidableEq, Repr

/-- A piece as it is written. -/
def Piece.source : Piece → Text
  | plain c => [c]
  | hole name => '$' :: '\x7b' :: name ++ ['\x7d']

/-- A piece with its value put in. -/
def Piece.fill (env : Environment) : Piece → Text
  | plain c => [c]
  | hole name => (env name).getD (hole name).source

/-- The placeholder that starts a text, and what follows it. -/
def leading? : Text → Option (Text × Text)
  | '$' :: '\x7b' :: rest =>
    match Text.cutAt '\x7d' rest with
    | some ([], _) => none
    | found => found
  | _ => none

theorem length_of_leading? {s name rest : Text} (h : leading? s = some (name, rest)) :
    rest.length < s.length := by
  unfold leading? at h
  split at h
  · split at h
    · simp at h
    · have := Text.length_of_cutAt h
      simp
      omega
  · simp at h

/-- The pieces of a text, cut from the left. -/
def pieces (s : Text) : List Piece :=
  match _h : leading? s with
  | some (name, rest) => .hole name :: pieces rest
  | none =>
    match s with
    | [] => []
    | c :: rest => .plain c :: pieces rest
termination_by s.length
decreasing_by
  · exact length_of_leading? _h
  · simp

/-- The text with every placeholder that has a value replaced by it. -/
def substitute (env : Environment) (s : Text) : Text := (pieces s).flatMap (Piece.fill env)

/-- The names that a text asks for. -/
def names (s : Text) : List Text :=
  (pieces s).filterMap fun
    | .hole name => some name
    | .plain _ => none

end Placeholder

end Typescribe
