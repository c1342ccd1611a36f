/-
What a model is written as.

The fields that are not left out become lines, in the order of declaration,
between an opening and a closing line.  A model whose fields all have a
TypeScript type is rendered as exactly this text; any other is rejected with
the fault of its first field that has none, and that fault always names a
signature.
-/
import Typescribe.Generation
import Typescribe.Proofs.Model.Extraction

namespace Typescribe

/-! ## Signatures without a TypeScript type -/

namespace Signature

/-- The signature has no TypeScript type. -/
def isRejected (s : Signature) : Bool := !s.typeScript.isOk

/-- The TypeScript type of a signature; empty for one that has none. -/
def typeName (s : Signature) : Text := s.typeScript.toOption.getD []

theorem typeScript_of_accepted {s : Signature} (h : s.isRejected = false) :
    s.typeScript = .ok s.typeName := by
  cases ht : s.typeScript with
  | ok name => simp [typeName, ht, Except.toOption]
  | error fault => simp [isRejected, ht, Except.toBool] at h

/-- A rejection names the signature behind its leading pointers. -/
theorem typeScript_of_rejected {s : Signature} (h : s.isRejected = true) :
    s.typeScript = .error (.unsupportedType s.dropPointers.text) := by
  unfold isRejected typeScript at h
  unfold typeScript
  split
  · next hf => simp [hf, Except.toBool] at h
  · next hf =>
    rw [if_neg hf] at h
    split
    · next hd => simp [hd, Except.toBool] at h
    · rfl

end Signature

/-! ## Fields -/

namespace Field

/-- The field is written, and has no TypeScript type. -/
def isRejected (f : Field) : Bool := !f.isSkipped && f.signature.isRejected

/-- The line of a field in a declaration. -/
def line (f : Field) : Text :=
  '\t' :: (Property.ofField f).emitted ++ ": " ++ f.signature.typeName ++ "\n"

end Field

namespace Property

/-- The property has no TypeScript type. -/
def isRejected (p : Property) : Bool := p.signature.isRejected

/-- The member that a property becomes. -/
def member (p : Property) : Member := ⟨p.emitted, p.signature.typeName⟩

end Property

/-! ## Models -/

namespace Model

/-- The model has a field that is written and has no TypeScript type. -/
def isRejected (m : Model) : Bool := m.fields.any Field.isRejected

/-- The text of a model in the output, its blank line included. -/
def block (m : Model) : Text :=
  "export type " ++ m.name ++ " = \x7b\n" ++ m.kept.flatMap Field.line ++ "\x7d\n\n"

/-- The members of some properties: all of them, or the fault of the first
property that has no TypeScript type. -/
theorem members_outcome (model : Text) (ps : List Property) :
    (members model ps).1 =
      match ps.find? Property.isRejected with
      | none => .ok (ps.map Property.member)
      | some p => .error (.unsupportedType p.signature.dropPointers.text) := by
  induction ps with
  | nil => rfl
  | cons p more ih =>
      cases hp : p.isRejected with
      | true =>
          rw [List.find?_cons_of_pos hp, members, Signature.typeScript_of_rejected hp]
      | false =>
          rw [List.find?_cons_of_neg (by simp [hp]), members, Signature.typeScript_of_accepted hp]
          simp only [ih]
          cases more.find? Property.isRejected with
          | none => rfl
          | some q => rfl

/-- Rejected properties are the rejected fields, in the same order. -/
theorem find?_properties (m : Model) :
    m.properties.find? Property.isRejected
      = (m.fields.find? Field.isRejected).map Property.ofField := by
  have hreject : (fun f => decide ((!f.isSkipped) = true ∧
      (Property.isRejected ∘ Property.ofField) f = true)) = Field.isRejected := by
    funext f
    simp [Field.isRejected, Property.isRejected, Property.ofField]
  rw [properties_eq, List.find?_map, kept, List.find?_filter, hreject]

/-- A model that is not rejected is rendered as its declaration. -/
theorem render_of_accepted {m : Model} (h : m.isRejected = false) :
    m.render.outcome = .ok ⟨m.name, m.properties.map Property.member⟩ := by
  have hnone : m.fields.find? Field.isRejected = none := by
    rw [List.find?_eq_none]
    simpa [isRejected] using h
  show (members m.name m.properties).1.map _ = _
  rw [members_outcome, find?_properties, hnone]
  rfl

/-- A rejected model has a first rejected field, and its signature has no
TypeScript type. -/
theorem exists_of_rejected {m : Model} (h : m.isRejected = true) :
    ∃ f, m.fields.find? Field.isRejected = some f ∧
      f.signature.typeScript = .error (.unsupportedType f.signature.dropPointers.text) := by
  obtain ⟨f, hf⟩ : ∃ f, m.fields.find? Field.isRejected = some f := by
    rw [← Option.isSome_iff_exists, List.find?_isSome]
    simpa [isRejected] using h
  have hr : f.isRejected = true := List.find?_some hf
  rw [Field.isRejected, Bool.and_eq_true] at hr
  exact ⟨f, hf, Signature.typeScript_of_rejected hr.2⟩

/-- The fault of a model's first rejected field. -/
def fault? (m : Model) : Option Fault :=
  (m.fields.find? Field.isRejected).map fun f => .unsupportedType f.signature.dropPointers.text

theorem fault?_eq {m : Model} {f : Field} (h : m.fields.find? Field.isRejected = some f) :
    m.fault? = some (.unsupportedType f.signature.dropPointers.text) := by
  rw [fault?, h, Option.map_some]

/-- A rejected model ends with the fault of its first rejected field. -/
theorem render_of_rejected {m : Model} (h : m.isRejected = true) :
    ∃ fault, m.fault? = some fault ∧ m.render.outcome = .error fault := by
  obtain ⟨f, hf, _⟩ := exists_of_rejected h
  refine ⟨_, fault?_eq hf, ?_⟩
  show (members m.name m.properties).1.map _ = _
  rw [members_outcome, find?_properties, hf]
  rfl

/-- A declaration made of a model's properties is written as the model's
block. -/
theorem declaration_block (m : Model) :
    Declaration.block ⟨m.name, m.properties.map Property.member⟩ = m.block := by
  have hlines : (m.properties.map Property.member).flatMap Member.line
      = m.kept.flatMap Field.line := by
    rw [properties_eq, List.flatMap_map, List.flatMap_map]
    rfl
  have hclose : ("\x7d" : Text) ++ "\n\n" = "\x7d\n\n" := by decide
  unfold Declaration.block Declaration.text block
  rw [hlines, List.append_assoc, hclose]

end Model

end Typescribe
