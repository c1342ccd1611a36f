/-
Plans as JSON text, indented by two spaces a level.

Objects have their keys in a fixed order and each on its own line; a list
that is empty is a pair of brackets, any other has an element a line.  In
strings the quote, the backslash and the characters below U+0020 are escaped,
and nothing else is.
-/
import Typescribe.Plan

namespace Typescribe.Json

/-! ## Strings -/

/-- A hexadecimal digit below sixteen, in small letters. -/
def hexDigit (n : Nat) : Char := Nat.digitChar n

/-- A character inside a JSON string. -/
def escape (c : Char) : Text :=
  if c = '"' then "\\\""
  else if c = '\\' then "\\\\"
  else if c = '\x08' then "\\b"
  else if c = '\x0c' then "\\f"
  else if c = '\n' then "\\n"
  else if c = '\r' then "\\r"
  else if c = '\t' then "\\t"
  else if c.toNat < 0x20 then
    "\\u00" ++ [hexDigit (c.toNat / 16), hexDigit (c.toNat % 16)]
  else [c]

/-- A text as a JSON string. -/
def quoted (s : Text) : Text := '"' :: s.flatMap escape ++ ['"']

/-! ## Layout -/

/-- A new line, indented to a level. -/
def newLine (level : Nat) : Text := '\n' :: List.replicate (2 * level) ' '

/-- Items between two brackets, each on its own line one level further in. -/
def block (opening closing : Char) (level : Nat) : List Text → Text
  | [] => [opening, closing]
  | item :: more =>
    opening :: newLine (level + 1) ++ item ++
      more.flatMap (fun other => ',' :: newLine (level + 1) ++ other) ++
      newLine level ++ [closing]

/-- A list whose brackets stand on a level. -/
def list (level : Nat) (items : List Text) : Text := block '[' ']' level items

/-- An object whose braces stand on a level. -/
def object (level : Nat) (entries : List (Text × Text)) : Text :=
  block '\x7b' '\x7d' level (entries.map fun (key, value) => quoted key ++ ": " ++ value)

/-- A truth value. -/
def bool (b : Bool) : Text := if b then "true" else "false"

/-! ## Plans -/

/-- A property as an object. -/
def property (level : Nat) (p : Property) : Text :=
  object level [
    ("declared_name", quoted p.declared),
    ("emitted_name", quoted p.emitted),
    ("signature", quoted p.signature.text),
    ("skip", bool p.skipped)]

/-- The plan of one model as an object. -/
def modelPlan (level : Nat) (p : ModelPlan) : Text :=
  object level [
    ("name", quoted p.name),
    ("fields", list (level + 1) (p.properties.map (property (level + 2)))),
    ("skipped", list (level + 1) (p.skipped.map quoted))]

/-- A whole plan: the list of its models' plans. -/
def plan (models : List ModelPlan) : Text := list 0 (models.map (modelPlan 1))

end Typescribe.Json
