/-
Checks on what a user hands in: the names that are to be generated, and the
path to write to.
-/
import Typescribe.Fault

namespace Typescribe

/-- A value must not be blank. -/
def requireText (field value : Text) : Except Fault Unit :=
  if value.trim = [] then
    .error (.invalidValue field value "Value cannot be empty or whitespace-only")
  else .ok ()

/-- A path must not be empty and must not hold the character U+0000. -/
def requirePath (field path : Text) : Except Fault Unit :=
  if path = [] then .error (.invalidValue field path "Path cannot be empty")
  else if '\x00' ∈ path then .error (.invalidValue field path "Path contains null bytes")
  else .ok ()

namespace AllowList

/-- The place of the allow-list in a configuration. -/
def fieldName : Text := "models.allow_list"

/-- Every name must have text in it and differ from all names before it;
`seen` are those before the list. -/
def checkNames (seen : List Text) : List Text → Except Fault Unit
  | [] => .ok ()
  | name :: more =>
    match requireText fieldName name with
    | .error fault => .error fault
    | .ok () =>
      if name ∈ seen then .error (.duplicateModel name) else checkNames (name :: seen) more

/-- An allow-list must name something, every name must have text in it, and
no name may stand twice. -/
def check (names : List Text) : Except Fault Unit :=
  if names = [] then .error .emptyAllowList else checkNames [] names

end AllowList

end Typescribe
