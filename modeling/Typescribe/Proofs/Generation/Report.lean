/-
What a successful run reports.

The recursion over the models counts as it goes, and decides for each
reference by what it has told of before.  The report is nevertheless a plain
function of the models: their number, the number of fields left out, and the
names that the properties refer to, without those that are known, each once,
in the order of first occurrence.
-/
import Typescribe.Proofs.Generation.Outcome

namespace Typescribe

/-- A field is left out when its `json` annotation is the single dash. -/
theorem Field.isSkipped_eq (f : Field) : f.isSkipped = decide (f.json? = some ("-" : Text)) := rfl

namespace Generation

/-! ## The report -/

/-- A run that succeeds has written all of its models, whatever its sink. -/
theorem report_of_run {models : List Model} {sink : Sink} {report : Report}
    (h : (run models sink).outcome = .ok report) :
    report = reportOn (models.map (·.name)) .empty models := by
  cases hcheck : check models with
  | error fault =>
      rw [run_of_failed_check sink hcheck] at h
      cases h
  | ok _ =>
      rw [(run_ending sink hcheck).1, ending] at h
      split at h
      · split at h
        · cases h
        · split at h
          · cases h
            rfl
          · cases h
      · cases h

/-! ## What is reported -/

/-- The fields of some models, one model after the other. -/
def fields (models : List Model) : List Field := models.flatMap (·.fields)

/-- The names that properties refer to, model by model, are the names that the
fields refer to that are not left out. -/
theorem targets_fields (models : List Model) :
    models.flatMap Model.targets
      = ((fields models).filter fun f => f.json? ≠ some ("-" : Text)).filterMap
          (·.signature.target?) := by
  have hkept : (fun f : Field => decide (f.json? ≠ some ("-" : Text))) = fun f => !f.isSkipped := by
    funext f
    rw [Field.isSkipped_eq, decide_not]
  rw [hkept, fields, List.filter_flatMap, List.filterMap_flatMap]
  congr 1
  funext m
  rw [Model.targets, Model.properties_eq, List.filterMap_map]
  rfl

/-- What the models leave out, model by model, are the fields annotated with
the single dash. -/
theorem leftOut_fields (models : List Model) :
    (models.map fun m => m.leftOut.length).sum
      = (fields models).countP fun f => f.json? = some ("-" : Text) := by
  rw [fields, List.countP_flatMap]
  congr 2
  funext m
  rw [Model.leftOut, ← List.countP_eq_length_filter]
  rfl

/-- **What a successful run reports.**  The names it reports are those that the
fields refer to that are not left out, in the order of the fields and without
the names of the models, wherever these stand among them, each at its first
occurrence; and it counts as left out the fields with the single dash for their
annotation. -/
theorem run_reports {models : List Model} {sink : Sink} {report : Report}
    (h : (run models sink).outcome = .ok report) :
    let names := models.map (·.name)
    let written := (fields models).filter fun f => f.json? ≠ some ("-" : Text)
    report.foreignReferences
        = ((written.filterMap (·.signature.target?)).filter (· ∉ names)).eraseDups ∧
      report.skippedFields = (fields models).countP (fun f => f.json? = some ("-" : Text)) ∧
      report.foreignReferences.Nodup ∧
      ∀ name ∈ report.foreignReferences,
        name ∉ names ∧ ∃ f ∈ written, f.signature.target? = some name := by
  intro names written
  have hreport := report_of_run h
  rw [reportOn_empty, targets_fields, leftOut_fields] at hreport
  subst hreport
  refine ⟨unmet_nil names _, rfl, nodup_unmet names _ [], fun name hname => ?_⟩
  obtain ⟨htarget, hname, -⟩ := mem_unmet.1 hname
  exact ⟨hname, List.mem_filterMap.1 htarget⟩

/-- References to a model before and behind it are not reported, nor is one
from a field that is left out; one that is met again keeps its place. -/
theorem run_reports_edge_wall :
    let edge : Model := ⟨"Edge", [⟨"From", ⟨[.slice, .pointer], .qualified "model" "Node"⟩, none⟩,
      ⟨"Of", ⟨[.array 4], .qualified "model" "Wall"⟩, none⟩,
      ⟨"Old", ⟨[], .qualified "model" "Ghost"⟩, some ⟨"json:\"-\""⟩⟩]⟩
    let wall : Model := ⟨"Wall", [⟨"Ends", ⟨[.pointer], .qualified "model" "Pair"⟩, none⟩,
      ⟨"Edges", ⟨[.slice], .qualified "model" "Edge"⟩, none⟩,
      ⟨"Mid", ⟨[], .qualified "model" "Node"⟩, some ⟨"json:\"-,\""⟩⟩]⟩
    (run [edge, wall] .unbounded).outcome = .ok ⟨2, 1, ["Node", "Pair"]⟩ ∧
      (["Node", "Pair"] : List Text) = ((((fields [edge, wall]).filter
        fun f => f.json? ≠ some ("-" : Text)).filterMap (·.signature.target?)).filter
          (· ∉ ([edge, wall].map (·.name)))).eraseDups := by
  intro edge wall
  have hrun : (run [edge, wall] .unbounded).outcome = .ok ⟨2, 1, ["Node", "Pair"]⟩ := by
    with_unfolding_all rfl
  exact ⟨hrun, (run_reports hrun).1⟩

end Generation

end Typescribe
