/-
A plan foretells its run.

Making a plan looks for no TypeScript type, and a run does not look at a plan.
Still, what a run does on a sink that takes everything can be read off the
plans of its models: the first planned property that has no TypeScript type
is what stops it, and if there is none, the plans say what is written and how
much is counted.

Of the fields that are left out, only their number counts in any of this.
Models that are alike in everything else have the same planned properties and
are therefore written alike, on any sink.
-/
import Mathlib.Data.List.TakeWhile
import Typescribe.Proofs.Generation.Report

namespace Typescribe

/-! ## Plans -/

/-- The fault of a property that has no TypeScript type. -/
def Property.fault (p : Property) : Fault := .unsupportedType p.signature.dropPointers.text

def ModelPlan.declaration (p : ModelPlan) : Declaration := ⟨p.name, p.properties.map Property.member⟩

namespace Model

/-- The fault of a model is the fault of its first property that has no
TypeScript type. -/
theorem fault?_eq_find? (m : Model) :
    m.fault? = (m.properties.find? Property.isRejected).map Property.fault := by
  rw [find?_properties, Option.map_map]
  rfl

theorem isRejected_eq_isSome (m : Model) :
    m.isRejected = (m.properties.find? Property.isRejected).isSome := by
  rw [find?_properties, Option.isSome_map, Bool.eq_iff_iff, List.find?_isSome, isRejected,
    List.any_eq_true]

end Model

namespace Generation

/-- The properties that are planned for some models, one model after the
other. -/
def planned (models : List Model) : List Property := (models.map Model.plan).flatMap (·.properties)

theorem planned_cons (m : Model) (more : List Model) :
    planned (m :: more) = m.properties ++ planned more := rfl

/-- The fault of the first rejected model is the fault of the first planned
property that has no TypeScript type. -/
theorem firstFault_eq (models : List Model) :
    (models.find? Model.isRejected).bind Model.fault?
      = ((planned models).find? Property.isRejected).map Property.fault := by
  induction models with
  | nil => rfl
  | cons m more ih =>
      have hfault := m.fault?_eq_find?
      have hrejected := m.isRejected_eq_isSome
      rw [planned_cons, List.find?_append]
      -- both searches end in the first model, or neither does
      cases hp : m.properties.find? Property.isRejected with
      | some p =>
          rw [hp] at hfault hrejected
          rw [List.find?_cons_of_pos hrejected, Option.bind_some, hfault]
          rfl
      | none =>
          rw [hp] at hrejected
          rw [List.find?_cons_of_neg (by simp [hrejected]), ih]
          rfl

theorem isRejected_of_planned {models : List Model}
    (h : (planned models).find? Property.isRejected = none) :
    ∀ m ∈ models, m.isRejected = false := by
  intro m hm
  rw [Model.isRejected_eq_isSome, ← Bool.not_eq_true, List.find?_isSome]
  rintro ⟨p, hp, hrejected⟩
  have hplanned : p ∈ planned models :=
    List.mem_flatMap.2 ⟨m.plan, List.mem_map_of_mem hm, hp⟩
  exact List.find?_eq_none.1 h p hplanned hrejected

theorem targets_planned (models : List Model) :
    models.flatMap Model.targets = (planned models).filterMap fun p => p.signature.target? := by
  rw [planned, List.filterMap_flatMap, List.flatMap_map]
  rfl

/-! ## A sink that takes everything -/

theorem write_unbounded (bytes : List UInt8) :
    Sink.unbounded.write bytes = (true, { Sink.unbounded with accepted := bytes }) := by
  simp [Sink.write, Sink.room, Sink.unbounded]

variable {models : List Model}

/-- A run that passes its check ends with the first planned property that has
no TypeScript type. -/
theorem run_of_planned_rejected {p : Property} (hcheck : check models = .ok ())
    (h : (planned models).find? Property.isRejected = some p) :
    (run models .unbounded).outcome = .error p.fault := by
  have hfault := firstFault_eq models
  rw [h, Option.map_some] at hfault
  rw [(run_ending .unbounded hcheck).1, ending, write_unbounded, if_pos rfl, hfault]

/-- A run that passes its check writes everything, if every planned property
has a TypeScript type. -/
theorem run_of_planned_accepted (hcheck : check models = .ok ())
    (h : (planned models).find? Property.isRejected = none) :
    (run models .unbounded).outcome = .ok (reportOn (models.map (·.name)) .empty models) ∧
      (run models .unbounded).sink.accepted = Utf8.encode (models.flatMap Model.block) := by
  have hfault := firstFault_eq models
  rw [h, Option.map_none] at hfault
  have hall : models.takeWhile (fun m => !m.isRejected) = models := by
    rw [List.takeWhile_eq_self_iff]
    intro m hm
    simp [isRejected_of_planned h m hm]
  constructor
  · rw [(run_ending .unbounded hcheck).1, ending, write_unbounded, if_pos rfl, hfault]
    rfl
  · rw [run_sink .unbounded hcheck, write_unbounded, offered, hall]

/-- A run succeeds when it passes its check and every planned property has a
TypeScript type. -/
theorem run_succeeds_iff : (∃ report, (run models .unbounded).outcome = .ok report) ↔
    check models = .ok () ∧ (planned models).find? Property.isRejected = none := by
  constructor
  · rintro ⟨report, hreport⟩
    cases hcheck : check models with
    | error fault =>
        rw [run_of_failed_check .unbounded hcheck] at hreport
        cases hreport
    | ok _ =>
        cases hp : (planned models).find? Property.isRejected with
        | some p =>
            rw [run_of_planned_rejected hcheck hp] at hreport
            cases hreport
        | none => exact ⟨rfl, rfl⟩
  · rintro ⟨hcheck, hplanned⟩
    exact ⟨_, (run_of_planned_accepted hcheck hplanned).1⟩

theorem planned_accepted_iff : (planned models).find? Property.isRejected = none ↔
    ∀ p ∈ planned models, p.signature.typeScript = .ok p.signature.typeName := by
  rw [List.find?_eq_none]
  refine forall₂_congr fun p _ => ⟨fun h => ?_, fun h => ?_⟩
  · exact Signature.typeScript_of_accepted (Bool.not_eq_true _ ▸ h)
  · rw [Property.isRejected, Signature.isRejected, h]
    simp [Except.toBool]

end Generation

/-! ## Models that are written alike -/

/-- Two fields have the same annotation and, unless it leaves them out, the
same declared name and signature. -/
def Field.Alike (f g : Field) : Prop :=
  f.json? = g.json? ∧ (f.isSkipped = false → f.name = g.name ∧ f.signature = g.signature)

/-- Two models have the same name, and fields that are alike one by one. -/
def Model.Alike (m n : Model) : Prop := m.name = n.name ∧ List.Forall₂ Field.Alike m.fields n.fields

theorem Field.Alike.isSkipped_eq {f g : Field} (h : f.Alike g) : g.isSkipped = f.isSkipped := by
  -- whether a field is left out is for its annotation alone to say
  show decide (g.json? = some Property.skipMark) = decide (f.json? = some Property.skipMark)
  rw [h.1]

theorem Field.Alike.ofField_eq {f g : Field} (h : f.Alike g) (hkept : f.isSkipped = false) :
    Property.ofField g = Property.ofField f := by
  obtain ⟨hname, hsignature⟩ := h.2 hkept
  simp only [Property.ofField, h.1, hname, hsignature]

section Fields

variable {fields others : List Field} (h : List.Forall₂ Field.Alike fields others)
include h

theorem kept_of_alike : (others.filter fun f => !f.isSkipped).map Property.ofField
    = (fields.filter fun f => !f.isSkipped).map Property.ofField := by
  induction h with
  | nil => rfl
  | @cons f g _ _ hfg _ ih =>
      rw [List.filter_cons, List.filter_cons, hfg.isSkipped_eq]
      cases hf : f.isSkipped with
      | true => exact ih
      | false => exact congrArg₂ List.cons (hfg.ofField_eq hf) ih

theorem leftOut_of_alike : (others.filter Field.isSkipped).length
    = (fields.filter Field.isSkipped).length := by
  rw [← List.countP_eq_length_filter, ← List.countP_eq_length_filter]
  induction h with
  | nil => rfl
  | cons hfg _ ih => rw [List.countP_cons, List.countP_cons, hfg.isSkipped_eq, ih]

end Fields

namespace Model.Alike

variable {m n : Model} (h : m.Alike n)
include h

theorem properties_eq : n.properties = m.properties := by
  rw [Model.properties_eq, Model.properties_eq]
  exact kept_of_alike h.2

theorem leftOut_length_eq : n.leftOut.length = m.leftOut.length := leftOut_of_alike h.2

theorem isRejected_eq : n.isRejected = m.isRejected := by
  rw [isRejected_eq_isSome, isRejected_eq_isSome, h.properties_eq]

theorem block_eq : n.block = m.block := by
  rw [← declaration_block, ← declaration_block, h.properties_eq, h.1]

end Model.Alike

namespace Generation

section Alike

variable {models others : List Model} (h : List.Forall₂ Model.Alike models others)
include h

theorem names_of_alike : others.map (·.name) = models.map (·.name) := by
  induction h with
  | nil => rfl
  | cons hmn _ ih => rw [List.map_cons, List.map_cons, hmn.1, ih]

theorem planned_of_alike : planned others = planned models := by
  induction h with
  | nil => rfl
  | cons hmn _ ih => rw [planned_cons, planned_cons, hmn.properties_eq, ih]

theorem leftOut_counts_of_alike : others.map (fun m => m.leftOut.length)
    = models.map fun m => m.leftOut.length := by
  induction h with
  | nil => rfl
  | cons hmn _ ih => rw [List.map_cons, List.map_cons, hmn.leftOut_length_eq, ih]

theorem offered_of_alike : offered others = offered models := by
  induction h with
  | nil => rfl
  | @cons m n models others hmn _ ih =>
      cases hm : m.isRejected with
      | true => rw [offered_of_rejected hm, offered_of_rejected (hmn.isRejected_eq.trans hm)]
      | false =>
          rw [offered_of_accepted hm, offered_of_accepted (hmn.isRejected_eq.trans hm),
            hmn.block_eq, ih]

theorem reportOn_of_alike (known : List Text) :
    reportOn known .empty others = reportOn known .empty models := by
  rw [reportOn_empty, reportOn_empty, h.length_eq, leftOut_counts_of_alike h, targets_planned,
    targets_planned, planned_of_alike h]

/-- Alike models run alike on any sink: they end in the same way and leave the
same bytes. -/
theorem run_of_alike (sink : Sink) :
    (run others sink).outcome = (run models sink).outcome ∧
      (run others sink).sink = (run models sink).sink := by
  have hcheck : check others = check models := by rw [check, check, names_of_alike h]
  cases hc : check models with
  | error fault =>
      rw [run_of_failed_check sink hc, run_of_failed_check sink (hcheck.trans hc)]
      exact ⟨rfl, rfl⟩
  | ok _ =>
      have hc' : check others = .ok () := hcheck.trans hc
      constructor
      · rw [(run_ending sink hc).1, (run_ending sink hc').1, ending, ending, offered_of_alike h,
          firstFault_eq, firstFault_eq, planned_of_alike h, names_of_alike h, reportOn_of_alike h]
      · rw [run_sink sink hc, run_sink sink hc', offered_of_alike h]

end Alike

/-- **A plan foretells its run.**  On a sink that takes everything, a run
succeeds when it passes its check and every planned property has a TypeScript
type; then it writes the planned declarations and counts what is planned.
Otherwise it ends with the fault of its check or of the first planned
property that has no TypeScript type.  So models that are alike but for what
they leave out run alike. -/
theorem plan_foretells_run (models : List Model) :
    let plans := models.map Model.plan
    let done := run models .unbounded
    ((∃ report, done.outcome = .ok report) ↔
      check models = .ok () ∧
        ∀ p ∈ plans.flatMap (·.properties), p.signature.typeScript = .ok p.signature.typeName) ∧
    (match check models, (plans.flatMap (·.properties)).find? Property.isRejected with
      | .error fault, _ => done.outcome = .error fault
      | .ok _, some p =>
        ∃ fault, p.signature.typeScript = .error fault ∧ done.outcome = .error fault
      | .ok _, none =>
        ∃ report, done.outcome = .ok report ∧
          report.declarations = plans.length ∧
          report.skippedFields = (plans.map fun p => p.skipped.length).sum ∧
          done.sink.accepted = Utf8.encode (plans.flatMap fun p => p.declaration.text ++ "\n\n")) ∧
    ∀ others, List.Forall₂ Model.Alike models others → ∀ sink,
      (run others sink).outcome = (run models sink).outcome ∧
        (run others sink).sink = (run models sink).sink := by
  intro plans done
  have hplanned : plans.flatMap (·.properties) = planned models := rfl
  rw [hplanned]
  refine ⟨run_succeeds_iff.trans (and_congr_right fun _ => planned_accepted_iff), ?_,
    fun others halike sink => run_of_alike halike sink⟩
  cases hcheck : check models with
  | error fault => exact congrArg Run.outcome (run_of_failed_check .unbounded hcheck)
  | ok _ =>
      cases hp : (planned models).find? Property.isRejected with
      | some p =>
          have hrejected : p.isRejected = true := List.find?_some hp
          exact ⟨p.fault, Signature.typeScript_of_rejected hrejected,
            run_of_planned_rejected hcheck hp⟩
      | none =>
          obtain ⟨hreport, haccepted⟩ := run_of_planned_accepted hcheck hp
          have hblocks : (plans.flatMap fun p => p.declaration.text ++ ("\n\n" : Text))
              = models.flatMap Model.block := by
            rw [List.flatMap_map]
            exact congrArg models.flatMap (funext Model.declaration_block)
          refine ⟨_, hreport, ?_, ?_, ?_⟩
          · rw [reportOn_empty, List.length_map]
          · rw [reportOn_empty, List.map_map]
            simp only [Function.comp_def, Model.skipped_plan, List.length_map]
          · rw [haccepted, hblocks]

/-- A field that is left out may get another name and another signature, and
the bytes are those of the plan. -/
theorem plan_foretells_run_leftOut :
    let kept : Field := ⟨"X", ⟨[.pointer], .primitive .float64⟩, some ⟨"json:\"x\""⟩⟩
    let leftOut : Tag := ⟨"json:\"-\" gorm:\"foreignkey:Node1Id\""⟩
    let one : Model := ⟨"Point2f", [kept, ⟨"Node1", ⟨[], .verbatim "complex128"⟩, some leftOut⟩]⟩
    let other : Model := ⟨"Point2f", [kept, ⟨"Phase", ⟨[.slice], .primitive .int⟩, some leftOut⟩]⟩
    List.Forall₂ Model.Alike [one] [other] ∧
      (run [one] .unbounded).sink.accepted
        = Utf8.encode "export type Point2f = \x7b\n\tx: number\n\x7d\n\n" ∧
      (run [other] .unbounded).outcome = (run [one] .unbounded).outcome ∧
      (run [other] .unbounded).sink = (run [one] .unbounded).sink := by
  intro kept leftOut one other
  have hskipped : Field.isSkipped ⟨"Node1", ⟨[], .verbatim "complex128"⟩, some leftOut⟩ = true := by
    decide +kernel
  have halike : List.Forall₂ Model.Alike [one] [other] := by
    refine .cons ⟨rfl, .cons ⟨rfl, fun _ => ⟨rfl, rfl⟩⟩ (.cons ⟨rfl, fun h => ?_⟩ .nil)⟩ .nil
    rw [hskipped] at h
    cases h
  obtain ⟨-, hforetold, halikes⟩ := plan_foretells_run [one]
  have hcheck : check [one] = .ok () := rfl
  have hplanned : (([one].map Model.plan).flatMap (·.properties)).find? Property.isRejected
      = none := by
    decide +kernel
  rw [hcheck, hplanned] at hforetold
  obtain ⟨report, -, -, -, hbytes⟩ := hforetold
  refine ⟨halike, hbytes.trans (congrArg Utf8.encode ?_), halikes [other] halike .unbounded⟩
  decide +kernel

end Generation

end Typescribe
