/-
Field signatures: what a backend model declares as the type of a field.

A signature is a row of markers, outermost first, around a leaf.  Markers say
"pointer to", "slice of" or "array of"; the leaf is a primitive type, a name
qualified by its package, or text in a shape that this library does not take
apart and keeps as it is.  Any row of markers around any leaf is a signature,
also one that no text reads as.
-/
import Typescribe.Text.Word

namespace Typescribe

/-- The primitive types. -/
inductive Primitive where
  | int
  | float64
  | string
  | bool
deriving DecidableEq, Repr

namespace Primitive

def name : Primitive → Text
  | int => "int"
  | float64 => "float64"
  | string => "string"
  | bool => "bool"

/-- The primitive type of a name. -/
def ofName? (s : Text) : Option Primitive :=
  [int, float64, string, bool].find? fun p => p.name = s

/-- A name stands for a primitive type when it is that type's name. -/
theorem ofName?_eq_some_iff {s : Text} {p : Primitive} : ofName? s = some p ↔ s = p.name := by
  constructor
  · intro h
    have := List.find?_some h
    simpa [eq_comm] using this
  · rintro rfl
    cases p <;> decide

end Primitive

/-- What stands before the leaf of a signature. -/
inductive Marker where
  | pointer
  | slice
  | array (length : UInt64)
deriving DecidableEq, Repr

/-- What a signature is about once its markers are off. -/
inductive Leaf where
  | primitive (kind : Primitive)
  | qualified (package name : Text)
  | verbatim (text : Text)
deriving DecidableEq, Repr

/-- A field signature: markers, outermost first, around a leaf. -/
structure Signature where
  markers : List Marker
  leaf : Leaf
deriving DecidableEq, Repr

/-! ## Written form -/

/-- A marker as it is written; lengths are plain decimal. -/
def Marker.text : Marker → Text
  | pointer => "*"
  | slice => "[]"
  | array length => '[' :: Text.decimal length.toNat ++ [']']

/-- A leaf as it is written. -/
def Leaf.text : Leaf → Text
  | primitive kind => kind.name
  | qualified package name => package ++ '.' :: name
  | verbatim text => text

namespace Signature

/-- A signature as it is written. -/
def text (s : Signature) : Text := s.markers.flatMap Marker.text ++ s.leaf.text

/-- The same signature under one more marker. -/
def under (m : Marker) (s : Signature) : Signature := { s with markers := m :: s.markers }

@[simp] theorem text_under (m : Marker) (s : Signature) : (s.under m).text = m.text ++ s.text := by
  simp [text, under]

/-- The signature without the pointer markers at its front; pointers behind
another marker stay. -/
def dropPointers (s : Signature) : Signature :=
  { s with markers := s.markers.dropWhile (· = .pointer) }

/-- The name that a qualified leaf refers to. -/
def target? (s : Signature) : Option Text :=
  match s.leaf with
  | .qualified _ name => some name
  | _ => none

end Signature

end Typescribe
