/-
What a dry run writes tells its plan.

A dry run writes the plan of its models as JSON, and two plans that are
written with the same bytes are the same.  This needs that the signatures are
what some text is read as: a plan has a signature as its text only, and other
signatures may share theirs with one of a different shape.
-/
import Typescribe.Execution
import Typescribe.Proofs.Generation.Plan
import Typescribe.Proofs.Plan.Json
import Typescribe.Proofs.Text.Utf8

namespace Typescribe

/-- The signatures of the model's fields are read from texts. -/
def Model.IsRead (m : Model) : Prop := ∀ f ∈ m.fields, ∃ s, f.signature = .ofText s

theorem Model.IsRead.isReadable_plan {m : Model} (h : m.IsRead) : m.plan.IsReadable := by
  intro p hp
  have hkept : p ∈ m.kept.map Property.ofField := m.properties_eq ▸ hp
  obtain ⟨f, hf, rfl⟩ := List.mem_map.1 hkept
  obtain ⟨s, hs⟩ := h f (List.mem_filter.1 hf).1
  show f.signature.leaf.IsReadable
  rw [hs]
  exact Signature.isReadable_ofText s

/-- The configuration passes, and its names stand for the models. -/
def Config.Selects (config : Config) (catalog : Catalog) (models : List Model) : Prop :=
  config.check = .ok () ∧ catalog.resolve config.allowList = .ok models

namespace Execution

/-- On a sink that takes everything, a plan is written whole, with a newline
behind it. -/
theorem writePlan_unbounded (models : List Model) :
    writePlan models .unbounded
      = (.ok (), { Sink.unbounded with
          accepted := Utf8.encode (Json.plan (models.map Model.plan) ++ "\n") }) := by
  rw [writePlan, Generation.write_unbounded]
  simp [Sink.write, Sink.room, Sink.unbounded]

/-- Models whose plans are written with the same bytes have the same plan. -/
theorem writePlan_injective {models others : List Model} (hmodels : ∀ m ∈ models, m.IsRead)
    (hothers : ∀ m ∈ others, m.IsRead)
    (h : (writePlan models .unbounded).2.accepted = (writePlan others .unbounded).2.accepted) :
    models.map Model.plan = others.map Model.plan := by
  have hreadable : ∀ {ms : List Model}, (∀ m ∈ ms, m.IsRead) →
      ∀ p ∈ ms.map Model.plan, p.IsReadable := by
    intro ms hms p hp
    obtain ⟨m, hm, rfl⟩ := List.mem_map.1 hp
    exact (hms m hm).isReadable_plan
  rw [writePlan_unbounded, writePlan_unbounded] at h
  exact Json.telling_plan _ _ (hreadable hmodels) (hreadable hothers) _ _ (Utf8.encode_injective h)

/-- A dry run writes the plan of its models, and nothing else comes of it. -/
theorem execute_writePlan {catalog : Catalog} {config : Config} {models : List Model}
    (h : config.Selects catalog models) (sink : Sink) (disk : Disk) :
    (execute catalog config true sink disk).outcome
        = (writePlan models sink).1.map (fun _ => none) ∧
      (execute catalog config true sink disk).sink = (writePlan models sink).2 := by
  rw [execute]
  simp only [h.1, h.2, ofModels, if_true, and_self]

/-- A dry run on a sink that takes everything succeeds without a report, and
leaves on the sink the plan of its models. -/
theorem execute_dry {catalog : Catalog} {config : Config} {models : List Model}
    (h : config.Selects catalog models) (disk : Disk) :
    (execute catalog config true .unbounded disk).outcome = .ok none ∧
      (execute catalog config true .unbounded disk).sink = (writePlan models .unbounded).2 := by
  obtain ⟨houtcome, hsink⟩ := execute_writePlan h .unbounded disk
  rw [houtcome, hsink, writePlan_unbounded]
  exact ⟨rfl, rfl⟩

/-- **What a dry run writes tells its plan.**  Models whose signatures are read
from texts have the same plan when, and only when, their plans are written
with the same bytes; and these are the bytes that a dry run leaves, whatever
configuration and catalog the models come from. -/
theorem dryRun_tells_plan {models others : List Model} (hmodels : ∀ m ∈ models, m.IsRead)
    (hothers : ∀ m ∈ others, m.IsRead) :
    ((writePlan models .unbounded).2.accepted = (writePlan others .unbounded).2.accepted ↔
      models.map Model.plan = others.map Model.plan) ∧
    ∀ catalog catalog' config config' disk disk',
      config.Selects catalog models → config'.Selects catalog' others →
      let done := execute catalog config true .unbounded disk
      let again := execute catalog' config' true .unbounded disk'
      done.outcome = .ok none ∧ again.outcome = .ok none ∧
        (done.sink.accepted = again.sink.accepted ↔
          models.map Model.plan = others.map Model.plan) := by
  have hplan : (writePlan models .unbounded).2.accepted = (writePlan others .unbounded).2.accepted ↔
      models.map Model.plan = others.map Model.plan := by
    refine ⟨writePlan_injective hmodels hothers, fun h => ?_⟩
    rw [writePlan_unbounded, writePlan_unbounded, h]
  refine ⟨hplan, fun catalog catalog' config config' disk disk' hselects hselects' => ?_⟩
  obtain ⟨houtcome, hsink⟩ := execute_dry hselects disk
  obtain ⟨houtcome', hsink'⟩ := execute_dry hselects' disk'
  refine ⟨houtcome, houtcome', ?_⟩
  rw [hsink, hsink']
  exact hplan

/-- Two fields that are left out, and one whose name looks like the names of
both on their lines. -/
theorem dryRun_tells_plan_leftOut :
    let dash : Option Tag := some ⟨"json:\"-\""⟩
    let two : Model := ⟨"Map", [⟨"A", .ofText "int", dash⟩, ⟨"B", .ofText "[]int", dash⟩]⟩
    let one : Model := ⟨"Map", [⟨"A\",\n      \"B", .ofText "int", dash⟩]⟩
    let config : Config := ⟨["Map"], none⟩
    (∀ m ∈ [two], m.IsRead) ∧ (∀ m ∈ [one], m.IsRead) ∧
      config.Selects [two] [two] ∧ config.Selects [one] [one] ∧
      (execute [two] config true .unbounded .blank).outcome = .ok none ∧
      (execute [two] config true .unbounded .blank).sink.accepted
        ≠ (execute [one] config true .unbounded .blank).sink.accepted := by
  intro dash two one config
  have htwo : ∀ m ∈ [two], m.IsRead := by
    simp [Model.IsRead, two]
  have hone : ∀ m ∈ [one], m.IsRead := by
    simp [Model.IsRead, one]
  have hselects : config.Selects [two] [two] := ⟨rfl, rfl⟩
  have hselects' : config.Selects [one] [one] := ⟨rfl, rfl⟩
  have hplans : [two].map Model.plan ≠ [one].map Model.plan := by
    decide +kernel
  obtain ⟨hdone, -, hbytes⟩ :=
    (dryRun_tells_plan htwo hone).2 _ _ _ _ .blank .blank hselects hselects'
  exact ⟨htwo, hone, hselects, hselects', hdone, fun h => hplans (hbytes.1 h)⟩

end Execution

end Typescribe
