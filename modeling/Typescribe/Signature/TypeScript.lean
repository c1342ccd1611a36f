/-
The name of the TypeScript type that a signature stands for.

A signature is foreign when a package qualifier stands anywhere in it: it
then refers to a declaration made elsewhere, and what is left of it without
qualifiers and slice marks is taken over, with one slice mark put behind when
there was any.  A signature that is not foreign must be a primitive type
behind pointers only.
-/
import Typescribe.Fault
import Typescribe.Signature.Basic
import Typescribe.Signature.Qualifier

namespace Typescribe

/-- Whether a leaf refers to another package. -/
def Leaf.isForeign : Leaf → Bool
  | primitive _ => false
  | qualified .. => true
  | verbatim text => Qualifier.occurs text

/-- A leaf without qualifiers and slice marks. -/
def Leaf.bare : Leaf → Text
  | primitive kind => kind.name
  | qualified _ name => name
  | verbatim text => Qualifier.erase (Qualifier.eraseSlices text)

/-- Whether a leaf has a slice mark. -/
def Leaf.hasSlice : Leaf → Bool
  | verbatim text => Qualifier.hasSlice text
  | _ => false

/-- The TypeScript type of a primitive type. -/
def Primitive.typeName : Primitive → Text
  | int | float64 => "number"
  | string => "string"
  | bool => "boolean"

namespace Signature

/-- Whether a package qualifier stands anywhere in the signature. -/
def isForeign (s : Signature) : Bool := s.leaf.isForeign

/-- A leaf under markers, without qualifiers and slice marks, and whether
there was any slice mark.  Pointer and array markers stay in place. -/
def bareUnder (leaf : Leaf) : List Marker → Text × Bool
  | [] => (leaf.bare, leaf.hasSlice)
  | .slice :: more => ((bareUnder leaf more).1, true)
  | m :: more => (m.text ++ (bareUnder leaf more).1, (bareUnder leaf more).2)

/-- The signature as it is written, without qualifiers and slice marks, and
whether there was any slice mark. -/
def bare (s : Signature) : Text × Bool := bareUnder s.leaf s.markers

/-- The name of the TypeScript type, for a signature that has one. -/
def typeScript (s : Signature) : Except Fault Text :=
  if s.isForeign then
    let (text, sequence) := s.bare
    .ok (if sequence then text ++ "[]" else text)
  else
    match s.dropPointers with
    | ⟨[], .primitive kind⟩ => .ok kind.typeName
    | other => .error (.unsupportedType other.text)

end Signature

end Typescribe
