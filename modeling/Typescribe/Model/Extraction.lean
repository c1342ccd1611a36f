/-
Extraction: what the fields of a model become, in the order of declaration.

One pass keeps the properties that are written and tells of every other; it
looks for no TypeScript type.
-/
import Typescribe.Event
import Typescribe.Model.Property

namespace Typescribe.Model

/-- A member of a model by name, as events name it. -/
def memberName (model member : Text) : Text := model ++ '.' :: member

/-- The event for a property that is left out. -/
def skipEvent (model : Text) (p : Property) : Event :=
  ⟨.debug, .extraction, "Skipping " ++ memberName model p.declared⟩

/-- What some fields of a model become: the properties that are kept, and an
event for each one that is left out. -/
def extractFields (model : Text) : List Field → List Property × List Event
  | [] => ([], [])
  | f :: more =>
    let p := Property.ofField f
    let (kept, events) := extractFields model more
    if p.skipped then (kept, skipEvent model p :: events) else (p :: kept, events)

/-- What the fields of a model become. -/
def extract (m : Model) : List Property × List Event := extractFields m.name m.fields

/-- The properties of a model that are written, in the order of declaration. -/
def properties (m : Model) : List Property := m.extract.1

/-- The events for the fields of a model that are left out. -/
def skipEvents (m : Model) : List Event := m.extract.2

end Typescribe.Model
