/-
How a run ends, and what it leaves on its sink.

Two things can stop the writing: a model with a rejected field, and a sink
that refuses a byte.  Which of them wins depends on the place of the byte
against the place of the model, and the way to compare them is to look at
the bytes that would be offered if the sink took everything: the blocks of
the models before the first rejected one.  A run leaves the sink as one write
of these bytes would; when that write is incomplete the run ends there, and
only when it is complete does the rejected model count, and after it the
flush.

The recursion over the models has three kinds of steps, one lemma for each in
the first section; everything after them is induction on the list of models
with these steps as its cases.
-/
import Mathlib.Algebra.GroupWithZero.Nat
import Typescribe.Proofs.Generation.Fields
import Typescribe.Proofs.Sink

namespace Typescribe.Generation

/-! ## One step -/

variable (known : List Text) (report : Report) (sink : Sink)

/-- The events of a model that is not rejected: its fields, then the
references that lead out. -/
def toldBy (m : Model) : List Event :=
  m.render.events ++ (report.addFields known m.name m.fields).2

/-- The report behind a model. -/
def reportAfter (m : Model) : Report :=
  ⟨report.declarations + 1, report.skippedFields + m.leftOut.length,
    report.foreignReferences ++ unmet known report.foreignReferences m.targets⟩

/-- A model is counted once it is written; its fields are gone through
before. -/
theorem reportAfter_eq (m : Model) :
    reportAfter known report m =
      { (report.addFields known m.name m.fields).1 with
        declarations := (report.addFields known m.name m.fields).1.declarations + 1 } := by
  rw [report.addFields_report, reportAfter, Model.leftOut, ← List.countP_eq_length_filter,
    Model.targets_eq_fields]

/-- A rejected model ends the run before anything of it is written. -/
theorem writeAll_of_rejected {m : Model} {fault : Fault} (h : m.render.outcome = .error fault)
    (more : List Model) :
    writeAll known report sink (m :: more) = ⟨.error fault, sink, 0, m.render.events⟩ := by
  rw [writeAll]
  simp only [h]

/-- A refused write ends the run, with what the sink still took. -/
theorem writeAll_of_refused {m : Model} (hm : m.isRejected = false)
    (hw : (sink.write (Utf8.encode m.block)).1 = false) (more : List Model) :
    writeAll known report sink (m :: more) =
      ⟨.error (.io none), (sink.write (Utf8.encode m.block)).2, 0, toldBy known report m⟩ := by
  rw [writeAll]
  simp only [Model.render_of_accepted hm, Model.declaration_block, hw, toldBy]
  rfl

/-- A model that is written makes way for those behind it. -/
theorem writeAll_of_written {m : Model} (hm : m.isRejected = false)
    (hw : (sink.write (Utf8.encode m.block)).1 = true) (more : List Model) :
    writeAll known report sink (m :: more) =
      { writeAll known (reportAfter known report m) (sink.write (Utf8.encode m.block)).2 more with
        events := toldBy known report m ++
          (writeAll known (reportAfter known report m)
            (sink.write (Utf8.encode m.block)).2 more).events } := by
  rw [writeAll]
  simp only [Model.render_of_accepted hm, Model.declaration_block, hw, toldBy, reportAfter_eq,
    if_true]

/-! ## What is offered to the sink -/

/-- The bytes of the models before the first rejected one. -/
def offered (models : List Model) : List UInt8 :=
  Utf8.encode ((models.takeWhile fun m => !m.isRejected).flatMap Model.block)

theorem offered_of_rejected {m : Model} (h : m.isRejected = true) (more : List Model) :
    offered (m :: more) = [] := by
  simp [offered, h]

theorem offered_of_accepted {m : Model} (h : m.isRejected = false) (more : List Model) :
    offered (m :: more) = Utf8.encode m.block ++ offered more := by
  simp [offered, h]

/-- A run leaves its sink as one write of what is offered. -/
theorem writeAll_sink : ∀ (models : List Model) (report : Report) (sink : Sink),
    (writeAll known report sink models).sink = (sink.write (offered models)).2 := by
  intro models
  induction models with
  | nil =>
      intro report sink
      show (writeAll known report sink []).sink = (sink.write []).2
      rw [Sink.write_nil, writeAll]
      split <;> rfl
  | cons m more ih =>
      intro report sink
      cases hm : m.isRejected with
      | true =>
          obtain ⟨_, _, hrender⟩ := Model.render_of_rejected hm
          rw [writeAll_of_rejected known report sink hrender, offered_of_rejected hm, Sink.write_nil]
      | false =>
          rw [offered_of_accepted hm]
          cases hw : (sink.write (Utf8.encode m.block)).1 with
          | false =>
              rw [writeAll_of_refused known report sink hm hw,
                Sink.write_append_of_incomplete hw]
          | true =>
              rw [writeAll_of_written known report sink hm hw, Sink.write_append_of_complete hw]
              exact ih _ _

/-! ## The ending -/

/-- The report of a run that writes all of its models. -/
def reportOn (models : List Model) : Report := models.foldl (reportAfter known) report

theorem reportOn_eq : ∀ (models : List Model) (report : Report),
    reportOn known report models =
      ⟨report.declarations + models.length,
        report.skippedFields + (models.map fun m => m.leftOut.length).sum,
        report.foreignReferences
          ++ unmet known report.foreignReferences (models.flatMap Model.targets)⟩ := by
  intro models
  induction models with
  | nil =>
      intro report
      simp [reportOn, unmet]
  | cons m more ih =>
      intro report
      show reportOn known (reportAfter known report m) more = _
      rw [ih, List.length_cons, Nat.add_comm more.length, ← Nat.add_assoc, List.map_cons,
        List.sum_cons, ← Nat.add_assoc, List.flatMap_cons, unmet_append, ← List.append_assoc]
      rfl

/-- The report of a run that writes all of its models. -/
theorem reportOn_empty (models : List Model) :
    reportOn known .empty models
      = ⟨models.length, (models.map fun m => m.leftOut.length).sum,
          unmet known [] (models.flatMap Model.targets)⟩ := by
  rw [reportOn_eq]
  simp only [Report.empty, Nat.zero_add, List.nil_append]

/-- How a run ends, and how often it flushes: a refused byte comes first, then
the first rejected model, then the flush. -/
def ending (models : List Model) : Except Fault Report × Nat :=
  if (sink.write (offered models)).1 then
    match (models.find? Model.isRejected).bind Model.fault? with
    | some fault => (.error fault, 0)
    | none => (if sink.flush then .ok (reportOn known report models) else .error (.io none), 1)
  else (.error (.io none), 0)

theorem writeAll_ending : ∀ (models : List Model) (report : Report) (sink : Sink),
    (writeAll known report sink models).outcome = (ending known report sink models).1 ∧
    (writeAll known report sink models).flushes = (ending known report sink models).2 := by
  intro models
  induction models with
  | nil =>
      intro report sink
      have hw : (sink.write (offered [])).1 = true := by
        rw [show offered [] = [] from rfl, Sink.write_nil]
      rw [ending, if_pos hw, writeAll]
      cases hs : sink.flush with
      | true => exact ⟨rfl, rfl⟩
      | false => exact ⟨rfl, rfl⟩
  | cons m more ih =>
      intro report sink
      cases hm : m.isRejected with
      | true =>
          obtain ⟨fault, hfault, hrender⟩ := Model.render_of_rejected hm
          have hw : (sink.write (offered (m :: more))).1 = true := by
            rw [offered_of_rejected hm, Sink.write_nil]
          rw [ending, if_pos hw, List.find?_cons_of_pos hm, Option.bind_some, hfault,
            writeAll_of_rejected known report sink hrender]
          exact ⟨rfl, rfl⟩
      | false =>
          have hfind : (m :: more).find? Model.isRejected = more.find? Model.isRejected :=
            List.find?_cons_of_neg (by simp [hm])
          rw [ending, offered_of_accepted hm, hfind]
          cases hb : (sink.write (Utf8.encode m.block)).1 with
          | false =>
              rw [writeAll_of_refused known report sink hm hb,
                Sink.write_append_of_incomplete hb, hb]
              exact ⟨rfl, rfl⟩
          | true =>
              rw [writeAll_of_written known report sink hm hb, Sink.write_append_of_complete hb]
              exact ih (reportAfter known report m) (sink.write (Utf8.encode m.block)).2

/-! ## Whole runs -/

/-- The models before the first rejected one are those before its place. -/
theorem takeWhile_accepted (models : List Model) :
    models.takeWhile (fun m => !m.isRejected)
      = models.take (models.findIdx Model.isRejected) := by
  simp [List.takeWhile_eq_take_findIdx_not]

/-- A run that fails its check does nothing. -/
theorem run_of_failed_check {models : List Model} {fault : Fault}
    (h : check models = .error fault) : run models sink = ⟨.error fault, sink, 0, []⟩ := by
  rw [run, h]

/-- A run that passes its check is the recursion over its models, with one
event before it. -/
theorem run_of_check {models : List Model} (h : check models = .ok ()) :
    run models sink =
      { writeAll (models.map (·.name)) .empty sink models with
        events := openingEvent models.length ::
          (writeAll (models.map (·.name)) .empty sink models).events } := by
  rw [run, h]

theorem run_sink {models : List Model} (h : check models = .ok ()) :
    (run models sink).sink = (sink.write (offered models)).2 := by
  rw [run_of_check sink h]
  exact writeAll_sink _ models .empty sink

theorem run_ending {models : List Model} (h : check models = .ok ()) :
    (run models sink).outcome = (ending (models.map (·.name)) .empty sink models).1 ∧
    (run models sink).flushes = (ending (models.map (·.name)) .empty sink models).2 := by
  rw [run_of_check sink h]
  exact writeAll_ending _ models .empty sink

/-- **How a run ends.**  A run that fails its check writes nothing.  Any other
offers the blocks of the models before the first one with a rejected field;
the sink keeps as much of them as it has room for, and the run ends, in this
order of precedence, with the refusal of a byte, with the fault of the first
rejected field, with a failing flush, or with a report that counts all
models.  Only the last two flush, once. -/
theorem run_ends_at_first_obstacle (models : List Model) (capacity : Option Nat)
    (flushFails : Bool) :
    let done := run models ⟨capacity, flushFails, []⟩
    let k := models.findIdx Model.isRejected
    let whole := Utf8.encode ((models.take k).flatMap Model.block)
    let taken := Sink.share capacity whole.length
    match check models with
    | .error fault =>
      done.outcome = .error fault ∧ done.sink.accepted = [] ∧ done.flushes = 0
    | .ok () =>
      done.sink.accepted = whole.take taken ∧
      if taken < whole.length then
        done.outcome = .error (.io none) ∧ done.flushes = 0
      else
        match models[k]? with
        | some m =>
          ∃ f text, m.fields.find? Field.isRejected = some f ∧
            f.signature.typeScript = .error (.unsupportedType text) ∧
            done.outcome = .error (.unsupportedType text) ∧ done.flushes = 0
        | none =>
          done.flushes = 1 ∧
          if flushFails then done.outcome = .error (.io none)
          else ∃ report, done.outcome = .ok report ∧ report.declarations = models.length := by
  intro done k whole taken
  have hwhole : offered models = whole := by
    rw [offered, takeWhile_accepted]
  cases hc : check models with
  | error fault =>
      have hdone : done = ⟨.error fault, ⟨capacity, flushFails, []⟩, 0, []⟩ :=
        run_of_failed_check _ hc
      rw [hdone]
      exact ⟨rfl, rfl, rfl⟩
  | ok _ =>
      have hsink : done.sink = _ := run_sink ⟨capacity, flushFails, []⟩ hc
      obtain ⟨houtcome, hflushes⟩ : done.outcome = _ ∧ done.flushes = _ :=
        run_ending ⟨capacity, flushFails, []⟩ hc
      refine ⟨?_, ?_⟩
      · rw [hsink, hwhole]
        exact Sink.write_fresh capacity flushFails whole
      · rw [houtcome, hflushes, ending, hwhole]
        split
        · next hlt =>
          rw [(Sink.write_fresh_incomplete capacity flushFails whole).2 hlt]
          exact ⟨rfl, rfl⟩
        · next hge =>
          have hw : (Sink.write ⟨capacity, flushFails, []⟩ whole).1 = true := by
            rw [← Bool.not_eq_false, Sink.write_fresh_incomplete]
            exact hge
          rw [if_pos hw, List.find?_eq_getElem?_findIdx]
          cases hk : models[k]? with
          | some m =>
              have hm : m.isRejected = true := by
                refine List.find?_some (p := Model.isRejected) (l := models) ?_
                rw [List.find?_eq_getElem?_findIdx]
                exact hk
              obtain ⟨f, hfind, hf⟩ := Model.exists_of_rejected hm
              rw [Option.bind_some, Model.fault?_eq hfind]
              exact ⟨f, f.signature.dropPointers.text, hfind, hf, rfl, rfl⟩
          | none =>
              refine ⟨rfl, ?_⟩
              cases flushFails with
              | true => rfl
              | false =>
                  refine ⟨_, rfl, ?_⟩
                  rw [reportOn_empty]

end Typescribe.Generation
