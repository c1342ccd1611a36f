/-
Plans: what a run would write, model by model, without asking for any
TypeScript type.
-/
import Typescribe.Model.Extraction

namespace Typescribe

/-- What is planned for one model: the properties to write, and the declared
names of the fields that are left out. -/
structure ModelPlan where
  name : Text
  properties : List Property
  skipped : List Text
deriving DecidableEq, Repr

/-- The plan for a model: what extraction gives, and then the fields once more
for the names of those that are left out. -/
def Model.plan (m : Model) : ModelPlan where
  name := m.name
  properties := m.properties
  skipped := (m.fields.filter Field.isSkipped).map (·.name)

end Typescribe
