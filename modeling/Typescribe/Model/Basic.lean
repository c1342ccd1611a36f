/-
Backend models: named structures with fields in the order of their
declaration, each with a signature and perhaps a tag.
-/
import Typescribe.Model.Tag
import Typescribe.Signature.Reader

namespace Typescribe

/-- A field as the backend declares it. -/
structure Field where
  name : Text
  signature : Signature
  tag : Option Tag
deriving DecidableEq, Repr

/-- The value of the field's `json` annotation. -/
def Field.json? (f : Field) : Option Text := f.tag.bind (·.lookup "json")

/-- A backend structure, its fields in the order of declaration. -/
structure Model where
  name : Text
  fields : List Field
deriving DecidableEq, Repr

end Typescribe
