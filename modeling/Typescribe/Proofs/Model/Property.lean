/-
What becomes of fields whose tags are written from entries.

A field is told by its name, its signature and the value of the first `json`
entry of its tag, if there is one; how the rest of the tag is written, and what
stands in it, is never looked at.  The single dash leaves the field out.  Any
other value asks for a name, up to its first comma, and where it asks for none
the declared name stands.  The properties of a model and the names that its plan
lists as left out share the fields between them.

That the tag reads back is for `Proofs.Model.Tag` to say; `json?_field` takes it
from there, and nothing behind it looks at a tag.
-/
import Mathlib.Data.List.Forall2
import Mathlib.Data.List.Permutation
import Typescribe.Proofs.Model.Tag
import Typescribe.Proofs.Model.Written

namespace Typescribe

/-! ## Plans -/

/-- The plan of a model, told by what its fields become. -/
theorem Model.plan_eq (m : Model) :
    m.plan = ⟨m.name, (m.fields.map Property.ofField).filter fun p => !p.skipped,
      ((m.fields.map Property.ofField).filter (·.skipped)).map (·.declared)⟩ := by
  rw [plan, properties_eq, kept, List.filter_map, List.filter_map, List.map_map]
  rfl

/-- The plan of a model is told by its name and by what its fields become. -/
theorem Model.plan_congr {m n : Model} (hname : m.name = n.name)
    (h : m.fields.map Property.ofField = n.fields.map Property.ofField) : m.plan = n.plan := by
  rw [plan_eq, plan_eq, hname, h]

namespace Property

/-! ## Names in annotations -/

/-- What stands before the first comma of a value, or the whole of it. -/
def IsHead (value head : Text) : Prop :=
  ',' ∉ head ∧ (value = head ∨ ∃ options, value = head ++ ',' :: options)

theorem isHead_annotatedName (value : Text) : IsHead value (annotatedName value) := by
  have hsplit : annotatedName value ++ value.dropWhile (· ≠ ',') = value :=
    List.takeWhile_append_dropWhile
  refine ⟨fun hcomma => ?_, ?_⟩
  · have := List.all_eq_true.1 List.all_takeWhile _ hcomma
    exact absurd this (by decide)
  · cases hrest : value.dropWhile (· ≠ ',') with
    | nil =>
        rw [hrest, List.append_nil] at hsplit
        exact .inl hsplit.symm
    | cons c options =>
        have hc := List.head?_dropWhile_not (fun c : Char => decide (c ≠ ',')) value
        rw [hrest] at hc hsplit
        obtain rfl : c = ',' := by simpa using hc
        exact .inr ⟨options, hsplit.symm⟩

end Property

/-! ## Fields and their tags -/

/-- A field whose tag is still to be written: it has none, or one of entries,
each behind a number of spaces. -/
structure FieldSource where
  name : Text
  signature : Signature
  entries : Option (List (Nat × Tag.Entry))

namespace FieldSource

/-- The field with its tag as it is written. -/
def field (f : FieldSource) : Field :=
  ⟨f.name, f.signature, f.entries.map fun entries => ⟨Tag.row entries⟩⟩

/-- The value of the first `json` entry. -/
def json? (f : FieldSource) : Option Text :=
  f.entries.bind fun entries =>
    (entries.find? fun (_, e) => e.key = "json").map fun (_, e) => e.value

/-- What tells a field: its name, its signature and its `json` value. -/
def told (f : FieldSource) : Text × Signature × Option Text := (f.name, f.signature, f.json?)

/-- The name that a field is written under.  The value of its annotation gives
the name, but for a value that is empty up to its first comma. -/
inductive NamedAs (f : FieldSource) : Text → Prop
  | unannotated : f.json? = none → NamedAs f f.name
  | unnamed {value : Text} : f.json? = some value → Property.IsHead value [] → NamedAs f f.name
  | annotated {value head : Text} : f.json? = some value → Property.IsHead value head →
      head ≠ [] → NamedAs f head

/-- A property that a field is written as. -/
structure WrittenAs (f : FieldSource) (p : Property) : Prop where
  declared : p.declared = f.name
  emitted : f.NamedAs p.emitted
  signature : p.signature = f.signature
  skipped : p.skipped = false

/-- The annotation of the written field is the value of its first `json`
entry. -/
theorem json?_field (f : FieldSource) : f.field.json? = f.json? := by
  obtain ⟨name, signature, entries⟩ := f
  cases entries with
  | none => rfl
  | some entries =>
      show Tag.lookup ⟨Tag.row entries⟩ "json" = (entries.find? _).map _
      rw [Tag.lookup, Tag.find?_pairs_row, Option.map_map]
      cases entries.find? fun (_, e) => e.key = "json" with
      | none => rfl
      | some found => exact congrArg some (Tag.unescape_escape found.2.value)

theorem isSkipped_field (f : FieldSource) :
    f.field.isSkipped = decide (f.json? = some Property.skipMark) := by
  rw [← json?_field]
  rfl

/-- What a field becomes is settled by what tells it. -/
theorem ofField_of_told {f g : FieldSource} (h : f.told = g.told) :
    Property.ofField f.field = Property.ofField g.field := by
  obtain ⟨hname, hrest⟩ := Prod.mk.inj h
  obtain ⟨hsignature, hjson⟩ := Prod.mk.inj hrest
  have hname' : f.field.name = g.field.name := hname
  have hsignature' : f.field.signature = g.field.signature := hsignature
  simp only [Property.ofField, json?_field, hjson, hname', hsignature']

theorem ofField_map_of_told {others sources : List FieldSource}
    (h : others.map told = sources.map told) :
    (others.map field).map Property.ofField = (sources.map field).map Property.ofField := by
  induction sources generalizing others with
  | nil => rw [List.map_eq_nil_iff.1 h]
  | cons f sources ih =>
      obtain ⟨g, others, rfl, hg, hrest⟩ := List.map_eq_cons_iff.1 h
      rw [List.map_cons, List.map_cons, List.map_cons, List.map_cons, ofField_of_told hg, ih hrest]

/-- A field that is not left out is written as the property it becomes. -/
theorem writtenAs_ofField {f : FieldSource} (h : f.json? ≠ some Property.skipMark) :
    f.WrittenAs (Property.ofField f.field) := by
  refine ⟨rfl, ?_, rfl, ?_⟩
  · cases hjson : f.json? with
    | none =>
        simp only [Property.ofField, json?_field, hjson]
        exact .unannotated hjson
    | some value =>
        simp only [Property.ofField, json?_field, hjson]
        have hhead := Property.isHead_annotatedName value
        have hkept : some value ≠ some Property.skipMark := hjson ▸ h
        by_cases hempty : Property.annotatedName value = []
        · rw [hempty] at hhead
          rw [if_pos (.inr hempty)]
          exact .unnamed hjson hhead
        · rw [if_neg (by simp [hkept, hempty])]
          exact .annotated hjson hhead hempty
  · exact f.isSkipped_field.trans (decide_eq_false h)

end FieldSource

/-! ## Models -/

namespace Model

open FieldSource

variable (name : Text) (sources : List FieldSource)

/-- The fields that a model keeps, and those it leaves out, told by their
sources. -/
theorem properties_sources :
    (Model.mk name (sources.map field)).properties
      = (sources.filter (·.json? ≠ some Property.skipMark)).map (Property.ofField ∘ field) := by
  have hkept : (fun f : Field => !f.isSkipped) ∘ field
      = fun f => decide (f.json? ≠ some Property.skipMark) := by
    funext f
    rw [Function.comp, isSkipped_field, decide_not]
  rw [properties_eq, kept, List.filter_map, List.map_map, hkept]

theorem skipped_sources :
    (Model.mk name (sources.map field)).plan.skipped
      = (sources.filter (·.json? = some Property.skipMark)).map (·.name) := by
  have hleft : Field.isSkipped ∘ field
      = fun f => decide (f.json? = some Property.skipMark) := funext isSkipped_field
  rw [skipped_plan, leftOut, List.filter_map, List.map_map, hleft]
  rfl

/-- **What a model becomes, told by its tags' entries.**  A field is left out
when the value of its first `json` entry is the single dash; every other is
written, in the order of declaration, under its own name or the one that value
gives.  The plan lists what is written and the names of what is left out, and
the two have every field between them, once.  Nothing else of a tag matters. -/
theorem plan_sources :
    let m : Model := ⟨name, sources.map field⟩
    let written := sources.filter (·.json? ≠ some ("-" : Text))
    let left := sources.filter (·.json? = some ("-" : Text))
    List.Forall₂ WrittenAs written m.properties ∧
      m.plan = ⟨name, m.properties, left.map (·.name)⟩ ∧
      (left ++ written).Perm sources ∧
      ∀ others : List FieldSource, others.map told = sources.map told →
        Model.plan ⟨name, others.map field⟩ = m.plan := by
  intro m written left
  refine ⟨?_, ?_, ?_, fun others h => ?_⟩
  · have hproperties : m.properties = written.map (Property.ofField ∘ field) :=
      properties_sources name sources
    rw [hproperties, List.forall₂_map_right_iff, List.forall₂_same]
    intro f hf
    exact writtenAs_ofField (of_decide_eq_true (List.mem_filter.1 hf).2)
  · have hleft : m.plan.skipped = left.map (·.name) := skipped_sources name sources
    rw [← hleft]
    rfl
  · have hwritten : written = sources.filter fun f => !decide (f.json? = some ("-" : Text)) := by
      simp only [written, ne_eq, decide_not]
    rw [hwritten]
    exact List.filter_append_perm _ sources
  · exact plan_congr rfl (ofField_map_of_told h)

/-- Only the dash alone leaves a field out, and only in the first `json` entry;
options behind a comma give no name. -/
example :
    let json (value : Text) : Nat × Tag.Entry := (1, ⟨"json", value, rfl⟩)
    Model.plan ⟨"Edge", [FieldSource.mk "A" ⟨[], .primitive .int⟩ (some [json "-,omitempty"]),
        ⟨"B", ⟨[], .primitive .int⟩, some [json ",omitempty", json "b"]⟩,
        ⟨"C", ⟨[], .primitive .int⟩, some [(0, ⟨"xjson", "c", rfl⟩), json "-", json "c"]⟩,
        ⟨"D", ⟨[], .primitive .int⟩, none⟩].map field⟩
      = ⟨"Edge", [⟨"A", "-", ⟨[], .primitive .int⟩, false⟩, ⟨"B", "B", ⟨[], .primitive .int⟩, false⟩,
          ⟨"D", "D", ⟨[], .primitive .int⟩, false⟩], ["C"]⟩ := by
  decide +kernel

end Model

end Typescribe
