/-
Declarations: the TypeScript text that a model becomes.
-/
import Typescribe.Text.Basic

namespace Typescribe

/-- One line of a declaration. -/
structure Member where
  name : Text
  typeName : Text
deriving DecidableEq, Repr

/-- A type declaration, its members in order. -/
structure Declaration where
  name : Text
  members : List Member
deriving DecidableEq, Repr

/-- A member on a line of its own. -/
def Member.line (m : Member) : Text := '\t' :: m.name ++ ": " ++ m.typeName ++ "\n"

/-- The declaration as it is written, up to its closing brace. -/
def Declaration.text (d : Declaration) : Text :=
  "export type " ++ d.name ++ " = \x7b\n" ++ d.members.flatMap Member.line ++ "\x7d"

/-- The declaration in its place in the output: a blank line follows it. -/
def Declaration.block (d : Declaration) : Text := d.text ++ "\n\n"

end Typescribe
