/-
What one pass over the fields of a model gives.

Extraction decides field by field, and tells as it goes; a plan goes over the
fields again for the names of those that are left out.  Both agree on which
these are: `kept` and `leftOut` share the fields between them, the properties
are those of the one and the events are those of the other.
-/
import Typescribe.Plan

namespace Typescribe.Model

/-- The fields that are not left out. -/
def kept (m : Model) : List Field := m.fields.filter fun f => !f.isSkipped

/-- The fields that are left out. -/
def leftOut (m : Model) : List Field := m.fields.filter Field.isSkipped

/-- A member is named with a dot between the two names. -/
theorem memberName_eq (model member : Text) : memberName model member = model ++ "." ++ member := by
  rw [List.append_assoc]
  rfl

theorem extractFields_eq (model : Text) : ∀ fields : List Field,
    extractFields model fields =
      ((fields.filter fun f => !f.isSkipped).map Property.ofField,
        (fields.filter Field.isSkipped).map fun f => skipEvent model (.ofField f))
  | [] => rfl
  | f :: more => by
      rw [extractFields, extractFields_eq model more]
      cases hf : f.isSkipped with
      | true =>
          rw [List.filter_cons_of_neg (by simp [hf]), List.filter_cons_of_pos hf, List.map_cons]
          exact if_pos hf
      | false =>
          rw [List.filter_cons_of_pos (by simp [hf]), List.filter_cons_of_neg (by simp [hf]),
            List.map_cons]
          exact if_neg (by simpa [Field.isSkipped] using hf)

theorem properties_eq (m : Model) : m.properties = m.kept.map Property.ofField :=
  congrArg Prod.fst (extractFields_eq m.name m.fields)

/-- Each field that is left out is told of, by the names of model and field. -/
theorem skipEvents_eq (m : Model) : m.skipEvents = m.leftOut.map fun f =>
    ⟨.debug, .extraction, "Skipping " ++ m.name ++ "." ++ f.name⟩ := by
  rw [skipEvents, extract, extractFields_eq]
  refine List.map_congr_left fun f _ => ?_
  show Event.mk _ _ ("Skipping " ++ memberName m.name f.name) = _
  rw [memberName_eq, ← List.append_assoc, ← List.append_assoc]

/-- A plan names the fields that extraction tells of. -/
theorem skipped_plan (m : Model) : m.plan.skipped = m.leftOut.map (·.name) := rfl

end Typescribe.Model
