/-
Properties: what a field becomes in a declaration.

The `json` annotation decides.  The single dash leaves the field out; any
other value gives the property's name, up to its first comma; and where that
is empty or there is no annotation, the declared name is kept.
-/
import Typescribe.Model.Basic

namespace Typescribe

/-- A field's part in a declaration. -/
structure Property where
  /-- The name that the field is declared under. -/
  declared : Text
  /-- The name that the property is written under. -/
  emitted : Text
  signature : Signature
  /-- The field is left out. -/
  skipped : Bool
deriving DecidableEq, Repr

/-- The annotation that leaves a field out. -/
def Property.skipMark : Text := "-"

/-- The name in an annotation: what stands before its first comma. -/
def Property.annotatedName (value : Text) : Text := value.takeWhile (· ≠ ',')

/-- What a field becomes. -/
def Property.ofField (f : Field) : Property :=
  let skipped := f.json? = some skipMark
  let emitted :=
    match f.json? with
    | none => f.name
    | some value => if skipped ∨ annotatedName value = [] then f.name else annotatedName value
  ⟨f.name, emitted, f.signature, skipped⟩

/-- Whether a field is left out. -/
def Field.isSkipped (f : Field) : Bool := (Property.ofField f).skipped

end Typescribe
