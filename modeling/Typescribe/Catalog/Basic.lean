/-
Catalogs: the models that there are, in order.

A name stands for the first model of that name.  An allow-list is resolved
name by name, and fails at the first name that stands for nothing.
-/
import Typescribe.Fault
import Typescribe.Model.Basic

namespace Typescribe

/-- The models that there are. -/
abbrev Catalog := List Model

namespace Catalog

/-- The first model of a name. -/
def find (c : Catalog) (name : Text) : Option Model := List.find? (fun m => m.name = name) c

/-- The models that names stand for, in the order of the names. -/
def resolve (c : Catalog) : List Text → Except Fault (List Model)
  | [] => .ok []
  | name :: more =>
    match c.find name with
    | none => .error (.unknownModel name)
    | some model => (resolve c more).map (model :: ·)

end Catalog

end Typescribe
