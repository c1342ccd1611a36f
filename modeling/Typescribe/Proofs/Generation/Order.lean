/-
The order of the models is the order of the output, and nothing else.

A run goes over its models with a report that grows, and a model's references
count as strange or not by those reported before it; when a run fails, which
fault it ends with depends on which model comes first.  Whether it succeeds
does not, nor how much it counts, nor which names it reports: all of these are
said of the models as a collection.  Only the declarations, and the names
reported, come in the order of the models.
-/
import Typescribe.Proofs.AllowList
import Typescribe.Proofs.Generation.Plan

namespace Typescribe.Generation

section Permuted

variable {models others : List Model} (h : models.Perm others)
include h

theorem check_perm : check models = .ok () ↔ check others = .ok () :=
  AllowList.check_perm (h.map _)

/-- The same properties are planned, model by model. -/
theorem planned_perm : (planned models).Perm (planned others) := (h.map Model.plan).flatMap_right _

/-- Whether a run succeeds does not depend on the order of its models. -/
theorem run_succeeds_perm : (∃ report, (run models .unbounded).outcome = .ok report) ↔
    ∃ report, (run others .unbounded).outcome = .ok report := by
  rw [run_succeeds_iff, run_succeeds_iff, planned_accepted_iff, planned_accepted_iff, check_perm h]
  exact and_congr_right fun _ => forall_congr' fun p => imp_congr_left (planned_perm h).mem_iff

end Permuted

/-- A run that succeeds on a sink that takes everything has written the
declaration of each of its models, in order. -/
theorem accepted_of_run {models : List Model} {report : Report}
    (hrun : (run models .unbounded).outcome = .ok report) :
    (∀ m ∈ models, m.render.outcome = .ok m.plan.declaration) ∧
      (run models .unbounded).sink.accepted
        = Utf8.encode (models.flatMap fun m => m.plan.declaration.text ++ "\n\n") := by
  obtain ⟨hcheck, hplanned⟩ := run_succeeds_iff.1 ⟨report, hrun⟩
  refine ⟨fun m hm => Model.render_of_accepted (isRejected_of_planned hplanned m hm), ?_⟩
  have hblock : (fun m : Model => m.plan.declaration.text ++ ("\n\n" : Text)) = Model.block :=
    funext Model.declaration_block
  rw [(run_of_planned_accepted hcheck hplanned).2, hblock]

/-- **Reordering models only reorders the output.**  On sinks that take
everything, the same models in another order pass their check or not, and
succeed or not, as before.  If they succeed, each model is written as the same
declaration, a blank line behind it, in the place of the model; the counts in
the report are the same, and so are the names reported, each once, but for
their order. -/
theorem run_perm {models others : List Model} (h : models.Perm others) :
    let done := run models .unbounded
    let again := run others .unbounded
    (check models = .ok () ↔ check others = .ok ()) ∧
    ((∃ report, done.outcome = .ok report) ↔ ∃ report, again.outcome = .ok report) ∧
    ∀ report report', done.outcome = .ok report → again.outcome = .ok report' →
      (∃ declaration : Model → Declaration,
        (∀ m ∈ models, m.render.outcome = .ok (declaration m)) ∧
        done.sink.accepted
          = Utf8.encode (models.flatMap fun m => (declaration m).text ++ "\n\n") ∧
        again.sink.accepted
          = Utf8.encode (others.flatMap fun m => (declaration m).text ++ "\n\n")) ∧
      report'.declarations = report.declarations ∧
      report'.skippedFields = report.skippedFields ∧
      report'.foreignReferences.Perm report.foreignReferences ∧
      report.foreignReferences.Nodup ∧ report'.foreignReferences.Nodup := by
  intro done again
  refine ⟨check_perm h, run_succeeds_perm h, fun report report' hdone hagain => ?_⟩
  obtain ⟨hrender, haccepted⟩ := accepted_of_run hdone
  have haccepted' := (accepted_of_run hagain).2
  refine ⟨⟨fun m => m.plan.declaration, hrender, haccepted, haccepted'⟩, ?_⟩
  -- both reports are functions of the models, and of nothing that has an order but the names
  have hreport := report_of_run hdone
  have hreport' := report_of_run hagain
  rw [reportOn_empty] at hreport hreport'
  subst hreport hreport'
  exact ⟨h.length_eq.symm, (h.map _).symm.sum_nat,
    unmet_perm (h.map _).symm (h.flatMap_right _).symm, nodup_unmet _ _ _, nodup_unmet _ _ _⟩

/-- Two models, each with a reference that leads out: when they change places,
so do their declarations and the names reported. -/
theorem run_perm_edge_wall :
    let edge : Model := ⟨"Edge", [⟨"From", ⟨[], .qualified "model" "Node"⟩, none⟩]⟩
    let wall : Model := ⟨"Wall", [⟨"Ends", ⟨[.slice], .qualified "model" "Pair"⟩, none⟩,
      ⟨"Of", ⟨[.pointer], .qualified "model" "Edge"⟩, some ⟨"json:\"of\""⟩⟩]⟩
    let edgeText : Text := "export type Edge = \x7b\n\tFrom: Node\n\x7d"
    let wallText : Text := "export type Wall = \x7b\n\tEnds: Pair[]\n\tof: *Edge\n\x7d"
    [edge, wall].Perm [wall, edge] ∧
      (run [edge, wall] .unbounded).outcome = .ok ⟨2, 0, ["Node", "Pair"]⟩ ∧
      (run [wall, edge] .unbounded).outcome = .ok ⟨2, 0, ["Pair", "Node"]⟩ ∧
      List.Perm [("Pair" : Text), "Node"] ["Node", "Pair"] ∧
      (run [edge, wall] .unbounded).sink.accepted
        = Utf8.encode (edgeText ++ "\n\n" ++ wallText ++ "\n\n") ∧
      (run [wall, edge] .unbounded).sink.accepted
        = Utf8.encode (wallText ++ "\n\n" ++ edgeText ++ "\n\n") := by
  intro edge wall edgeText wallText
  have hperm : [edge, wall].Perm [wall, edge] := .swap wall edge []
  have hrun : (run [edge, wall] .unbounded).outcome = .ok ⟨2, 0, ["Node", "Pair"]⟩ := by
    with_unfolding_all rfl
  have hrun' : (run [wall, edge] .unbounded).outcome = .ok ⟨2, 0, ["Pair", "Node"]⟩ := by
    with_unfolding_all rfl
  obtain ⟨⟨declaration, hrender, hbytes, hbytes'⟩, -, -, hreferences, -⟩ :=
    (run_perm hperm).2.2 _ _ hrun hrun'
  have hedge : edge.render.outcome = .ok ⟨"Edge", [⟨"From", "Node"⟩]⟩ := by
    with_unfolding_all rfl
  have hwall : wall.render.outcome = .ok ⟨"Wall", [⟨"Ends", "Pair[]"⟩, ⟨"of", "*Edge"⟩]⟩ := by
    with_unfolding_all rfl
  have hedge' := Except.ok.inj (hedge.symm.trans (hrender edge List.mem_cons_self))
  have hwall' := Except.ok.inj
    (hwall.symm.trans (hrender wall (List.mem_cons_of_mem edge List.mem_cons_self)))
  rw [List.flatMap_cons, List.flatMap_cons, List.flatMap_nil, ← hedge', ← hwall'] at hbytes hbytes'
  refine ⟨hperm, hrun, hrun', hreferences, hbytes.trans (congrArg Utf8.encode ?_),
    hbytes'.trans (congrArg Utf8.encode ?_)⟩
  · decide
  · decide

end Typescribe.Generation
