/-
The events of a run tell how it ended.

Events come from three places, and not in the order in which a reader would
look for them: what a model leaves out is told before the first of its
properties is looked at, references that lead out are told behind the last of
them, and the declaration is written only then.  A run may stop at any of these
points.

`Tells` says which events the recursion over the models tells with which
outcome, one rule for each way a step can go, and `writeAll_tells` that it does.
What is concluded about whole runs is induction on this relation: a model that
is written tells nothing at the levels of errors and of information, so that of
these there is only what the last step tells; and what it tells of fields left
out, of properties and of references is what the report and the output take from
it.

What the messages say is left to the end: until then an event is known by its
level and its origin, and by what it is made of.
-/
import Mathlib.Data.List.TakeWhile
import Typescribe.Proofs.AllowList
import Typescribe.Proofs.Generation.Report

namespace Typescribe

/-! ## Kinds of events -/

namespace Event

/-- The event tells of a field that is left out. -/
def isOfSkip (e : Event) : Bool := e.level = .debug && e.origin = .extraction

/-- The event tells of a property and its TypeScript type. -/
def isOfMember (e : Event) : Bool := e.level = .debug && e.origin = .generation

/-- Events of one level and one origin are kept all, or none, by a test on
these. -/
theorem filter_of_all {events : List Event} {level : Level} {origin : Origin}
    (h : ∀ e ∈ events, e.level = level ∧ e.origin = origin) (p : Level → Origin → Bool) :
    events.filter (fun e => p e.level e.origin) = if p level origin then events else [] := by
  have hp : ∀ e ∈ events, p e.level e.origin = p level origin := by
    intro e he
    rw [(h e he).1, (h e he).2]
  split
  · next hkept =>
    rw [List.filter_eq_self]
    exact fun e he => (hp e he).trans hkept
  · next hleft =>
    rw [List.filter_eq_nil_iff]
    exact fun e he hkept => hleft ((hp e he).symm.trans hkept)

/-- Among events of one level there is none of another. -/
theorem filter_level_of_ne {events : List Event} {level other : Level}
    (h : ∀ e ∈ events, e.level = level) (hne : level ≠ other) :
    events.filter (·.level = other) = [] := by
  rw [List.filter_eq_nil_iff]
  intro e he
  simpa [h e he] using hne

end Event

/-! ## One model -/

namespace Model

/-- The events for the properties of a model, in the order of their lines. -/
def memberEvents (m : Model) : List Event :=
  m.kept.map fun f => memberEvent m.name (Property.ofField f) f.signature.typeName

/-- The properties up to the first that has no TypeScript type are told of, and
then that one. -/
theorem members_events (model : Text) (ps : List Property) :
    (members model ps).2
      = (ps.takeWhile fun p => !p.isRejected).map
          (fun p => memberEvent model p p.signature.typeName)
        ++ (ps.find? Property.isRejected).toList.map fun p =>
            rejectionEvent model p (.unsupportedType p.signature.dropPointers.text) := by
  induction ps with
  | nil => rfl
  | cons p more ih =>
      cases hp : p.isRejected with
      | true =>
          rw [List.find?_cons_of_pos hp, List.takeWhile_cons_of_neg (by simp [hp]), members,
            Signature.typeScript_of_rejected hp]
          rfl
      | false =>
          rw [List.find?_cons_of_neg (by simp [hp]), List.takeWhile_cons_of_pos (by simp [hp]),
            members, Signature.typeScript_of_accepted hp, List.map_cons, List.cons_append, ← ih]

/-- A model that is not rejected tells what it leaves out, and then all of its
properties. -/
theorem events_of_accepted {m : Model} (h : m.isRejected = false) :
    m.render.events = m.skipEvents ++ m.memberEvents := by
  have hnone : m.fields.find? Field.isRejected = none := by
    rw [List.find?_eq_none]
    simpa [isRejected] using h
  have hfind : m.properties.find? Property.isRejected = none := by
    rw [find?_properties, hnone]
    rfl
  have hall : m.properties.takeWhile (fun p => !p.isRejected) = m.properties := by
    rw [List.takeWhile_eq_self_iff]
    intro p hp
    simpa using List.find?_eq_none.1 hfind p hp
  show m.skipEvents ++ (members m.name m.properties).2 = _
  rw [members_events, hfind, hall, Option.toList_none, List.map_nil, List.append_nil,
    properties_eq, List.map_map]
  rfl

theorem of_mem_skipEvents (m : Model) :
    ∀ e ∈ m.skipEvents, e.level = .debug ∧ e.origin = .extraction := by
  rw [skipEvents_eq]
  exact List.forall_mem_map.2 fun _ _ => ⟨rfl, rfl⟩

theorem of_mem_propertyEvents (model : Text) (ps : List Property) :
    ∀ e ∈ ps.map fun p => memberEvent model p p.signature.typeName,
      e.level = .debug ∧ e.origin = .generation :=
  List.forall_mem_map.2 fun _ _ => ⟨rfl, rfl⟩

theorem of_mem_memberEvents (m : Model) :
    ∀ e ∈ m.memberEvents, e.level = .debug ∧ e.origin = .generation :=
  List.forall_mem_map.2 fun _ _ => ⟨rfl, rfl⟩

theorem Warns.level_origin {m : Model} {e : Event} {name : Text} (h : m.Warns e name) :
    e.level = .warn ∧ e.origin = .generation := by
  obtain ⟨f, -, -, rfl⟩ := h
  exact ⟨rfl, rfl⟩

/-- A rejected model tells what it leaves out, some of its properties, and last
the rejection. -/
theorem events_of_rejected {m : Model} {f : Field} (h : m.fields.find? Field.isRejected = some f) :
    ∃ before : List Event, (∀ e ∈ before, e.level = .debug) ∧
      m.render.events = before ++ [rejectionEvent m.name (Property.ofField f)
        (.unsupportedType f.signature.dropPointers.text)] := by
  refine ⟨m.skipEvents ++ (m.properties.takeWhile fun p => !p.isRejected).map
    (fun p => memberEvent m.name p p.signature.typeName), ?_, ?_⟩
  · intro e he
    rcases List.mem_append.1 he with he | he
    · exact (m.of_mem_skipEvents e he).1
    · exact (of_mem_propertyEvents m.name _ e he).1
  · show m.skipEvents ++ (members m.name m.properties).2 = _
    rw [members_events, find?_properties, h, List.append_assoc]
    rfl

end Model

namespace Generation

/-! ## What the recursion tells -/

/-- Which events are told with which outcome, when models are written behind
others; `report` tells what came before. -/
inductive Tells (known : List Text) :
    Report → List Model → Except Fault Report → List Event → Prop
  /-- All models are written, and the sink passes on what it holds. -/
  | closed {report : Report} : Tells known report [] (.ok report) [closingEvent report]
  /-- All models are written, and the sink does not. -/
  | unflushed {report : Report} : Tells known report [] (.error (.io none)) []
  /-- A model is rejected. -/
  | rejected {report : Report} {m : Model} {more : List Model} {fault : Fault} :
      m.isRejected = true → m.render.outcome = .error fault →
      Tells known report (m :: more) (.error fault) m.render.events
  /-- A declaration is not taken by the sink. -/
  | refused {report : Report} {m : Model} {more : List Model} : m.isRejected = false →
      Tells known report (m :: more) (.error (.io none)) (toldBy known report m)
  /-- A declaration is written, and the models behind it are gone on with. -/
  | written {report : Report} {m : Model} {more : List Model} {outcome : Except Fault Report}
      {events : List Event} : m.isRejected = false →
      Tells known (reportAfter known report m) more outcome events →
      Tells known report (m :: more) outcome (toldBy known report m ++ events)

theorem writeAll_tells (known : List Text) : ∀ (models : List Model) (report : Report) (sink : Sink),
    Tells known report models (writeAll known report sink models).outcome
      (writeAll known report sink models).events := by
  intro models
  induction models with
  | nil =>
      intro report sink
      rw [writeAll]
      split
      · exact .closed
      · exact .unflushed
  | cons m more ih =>
      intro report sink
      cases hm : m.isRejected with
      | true =>
          obtain ⟨fault, -, hrender⟩ := Model.render_of_rejected hm
          rw [writeAll_of_rejected known report sink hrender]
          exact .rejected hm hrender
      | false =>
          cases hw : (sink.write (Utf8.encode m.block)).1 with
          | false =>
              rw [writeAll_of_refused known report sink hm hw]
              exact .refused hm
          | true =>
              rw [writeAll_of_written known report sink hm hw]
              exact .written hm (ih _ _)

section Told

variable {known : List Text} {report : Report}

/-- What a model warns of, one by one, are the names that its report gains. -/
theorem warnings_of_model (m : Model) : List.Forall₂ m.Warns (report.addFields known m.name m.fields).2
    (unmet known report.foreignReferences m.targets) := by
  rw [Model.targets_eq_fields]
  exact report.addFields_warnings known m m.fields (List.Subset.refl _)

theorem of_mem_warnings (m : Model) : ∀ e ∈ (report.addFields known m.name m.fields).2,
    e.level = .warn ∧ e.origin = .generation :=
  ((List.forall₂_and_left _ _).1 ((warnings_of_model m).imp fun _ _ h => ⟨h.level_origin, h⟩)).1

/-- What a test on level and origin keeps of the events of a model that is not
rejected. -/
theorem filter_toldBy (p : Level → Origin → Bool) {m : Model} (hm : m.isRejected = false) :
    (toldBy known report m).filter (fun e => p e.level e.origin)
      = (if p .debug .extraction then m.skipEvents else [])
        ++ (if p .debug .generation then m.memberEvents else [])
        ++ (if p .warn .generation then (report.addFields known m.name m.fields).2 else []) := by
  rw [toldBy, Model.events_of_accepted hm, List.filter_append, List.filter_append,
    Event.filter_of_all m.of_mem_skipEvents, Event.filter_of_all m.of_mem_memberEvents,
    Event.filter_of_all (of_mem_warnings m)]

theorem errors_toldBy {m : Model} (hm : m.isRejected = false) :
    (toldBy known report m).filter (·.level = .error) = [] :=
  filter_toldBy (fun level _ => level = .error) hm

theorem infos_toldBy {m : Model} (hm : m.isRejected = false) :
    (toldBy known report m).filter (·.level = .info) = [] :=
  filter_toldBy (fun level _ => level = .info) hm

theorem warnings_toldBy {m : Model} (hm : m.isRejected = false) :
    (toldBy known report m).filter (·.level = .warn)
      = (report.addFields known m.name m.fields).2 :=
  filter_toldBy (fun level _ => level = .warn) hm

theorem skips_toldBy {m : Model} (hm : m.isRejected = false) :
    (toldBy known report m).filter Event.isOfSkip = m.skipEvents := by
  have h : (toldBy known report m).filter Event.isOfSkip = m.skipEvents ++ [] ++ [] :=
    filter_toldBy (fun level origin => level = .debug && origin = .extraction) hm
  rw [h, List.append_nil, List.append_nil]

theorem members_toldBy {m : Model} (hm : m.isRejected = false) :
    (toldBy known report m).filter Event.isOfMember = m.memberEvents := by
  have h : (toldBy known report m).filter Event.isOfMember = [] ++ m.memberEvents ++ [] :=
    filter_toldBy (fun level origin => level = .debug && origin = .generation) hm
  rw [h, List.nil_append, List.append_nil]

variable {models : List Model} {outcome : Except Fault Report} {events : List Event}

/-! ## Errors -/

/-- A rejected model has a first rejected field, and ends with its signature. -/
theorem exists_of_fault {m : Model} {fault : Fault} (hm : m.isRejected = true)
    (h : m.render.outcome = .error fault) :
    ∃ f, m.fields.find? Field.isRejected = some f ∧
      f.signature.typeScript = .error fault ∧
      fault = .unsupportedType f.signature.dropPointers.text := by
  obtain ⟨f, hf, htype⟩ := Model.exists_of_rejected hm
  obtain ⟨other, hother, hrender⟩ := Model.render_of_rejected hm
  rw [Model.fault?_eq hf] at hother
  rw [h] at hrender
  cases hother
  cases hrender
  exact ⟨f, hf, htype, rfl⟩

/-- What stops the recursion is a model or the sink. -/
theorem Tells.fault (h : Tells known report models outcome events) :
    ∀ fault, outcome = .error fault → (∃ text, fault = .unsupportedType text) ∨ fault = .io none := by
  induction h with
  | closed => exact nofun
  | unflushed =>
      intro fault hfault
      exact .inr (Except.error.inj hfault).symm
  | rejected hm hrender =>
      intro fault hfault
      cases hfault
      obtain ⟨f, -, -, hf⟩ := exists_of_fault hm hrender
      exact .inl ⟨_, hf⟩
  | refused _ =>
      intro fault hfault
      exact .inr (Except.error.inj hfault).symm
  | written _ _ ih => exact ih

/-- Where a model stops it, the rejection is told of last, and there is no other
error. -/
theorem Tells.rejection (h : Tells known report models outcome events) :
    ∀ text, outcome = .error (.unsupportedType text) →
      ∃ m f, models.find? Model.isRejected = some m ∧
        m.fields.find? Field.isRejected = some f ∧
        f.signature.typeScript = .error (.unsupportedType text) ∧
        events.getLast? = some
          (Model.rejectionEvent m.name (Property.ofField f) (.unsupportedType text)) ∧
        events.filter (·.level = .error)
          = [Model.rejectionEvent m.name (Property.ofField f) (.unsupportedType text)] := by
  induction h with
  | closed => exact nofun
  | unflushed => exact nofun
  | @rejected report m more fault hm hrender =>
      intro text htext
      cases htext
      obtain ⟨f, hf, htype, hfault⟩ := exists_of_fault hm hrender
      cases hfault
      obtain ⟨before, hdebug, hevents⟩ := Model.events_of_rejected hf
      refine ⟨m, f, List.find?_cons_of_pos hm, hf, htype, ?_, ?_⟩
      · rw [hevents, List.getLast?_concat]
      · rw [hevents, List.filter_append, Event.filter_level_of_ne hdebug (by decide)]
        rfl
  | refused _ => exact nofun
  | @written report m more outcome events hm _ ih =>
      intro text htext
      obtain ⟨n, f, hn, hf, htype, hlast, herrors⟩ := ih text htext
      refine ⟨n, f, ?_, hf, htype, ?_, ?_⟩
      · rw [List.find?_cons_of_neg (by simp [hm])]
        exact hn
      · rw [List.getLast?_append, hlast, Option.some_or]
      · rw [List.filter_append, errors_toldBy hm, herrors]
        rfl

/-- Otherwise no error is told. -/
theorem Tells.no_error (h : Tells known report models outcome events) :
    (∀ text, outcome ≠ .error (.unsupportedType text)) →
      events.filter (·.level = .error) = [] := by
  induction h with
  | closed => exact fun _ => rfl
  | unflushed => exact fun _ => rfl
  | rejected hm hrender =>
      intro hne
      obtain ⟨f, -, -, rfl⟩ := exists_of_fault hm hrender
      exact absurd rfl (hne _)
  | refused hm => exact fun _ => errors_toldBy hm
  | written hm _ ih =>
      intro hne
      rw [List.filter_append, errors_toldBy hm, ih hne]
      rfl

/-! ## Information -/

/-- Of information there is only the closing event, where there is a report. -/
theorem Tells.infos (h : Tells known report models outcome events) :
    events.filter (·.level = .info) = outcome.toOption.toList.map closingEvent := by
  induction h with
  | closed => rfl
  | unflushed => rfl
  | rejected hm hrender =>
      obtain ⟨f, hf, -, -⟩ := exists_of_fault hm hrender
      obtain ⟨before, hdebug, hevents⟩ := Model.events_of_rejected hf
      rw [hevents, List.filter_append, Event.filter_level_of_ne hdebug (by decide)]
      rfl
  | refused hm => exact infos_toldBy hm
  | written hm _ ih =>
      rw [List.filter_append, infos_toldBy hm, ih]
      rfl

/-! ## Models that are all written -/

variable {done : Report}

theorem Tells.last (h : Tells known report models outcome events) (hdone : outcome = .ok done) :
    events.getLast? = some (closingEvent done) := by
  induction h with
  | closed =>
      cases hdone
      rfl
  | unflushed => cases hdone
  | rejected => cases hdone
  | refused => cases hdone
  | written _ _ ih => rw [List.getLast?_append, ih hdone, Option.some_or]

theorem Tells.accepted (h : Tells known report models outcome events) (hdone : outcome = .ok done) :
    ∀ m ∈ models, m.isRejected = false := by
  induction h with
  | closed => exact fun m hm => absurd hm List.not_mem_nil
  | unflushed => cases hdone
  | rejected => cases hdone
  | refused => cases hdone
  | written hm _ ih => exact List.forall_mem_cons.2 ⟨hm, ih hdone⟩

theorem Tells.skips (h : Tells known report models outcome events) (hdone : outcome = .ok done) :
    events.filter Event.isOfSkip = models.flatMap Model.skipEvents := by
  induction h with
  | closed => rfl
  | unflushed => cases hdone
  | rejected => cases hdone
  | refused => cases hdone
  | written hm _ ih => rw [List.filter_append, skips_toldBy hm, ih hdone, List.flatMap_cons]

theorem Tells.members (h : Tells known report models outcome events) (hdone : outcome = .ok done) :
    events.filter Event.isOfMember = models.flatMap Model.memberEvents := by
  induction h with
  | closed => rfl
  | unflushed => cases hdone
  | rejected => cases hdone
  | refused => cases hdone
  | written hm _ ih => rw [List.filter_append, members_toldBy hm, ih hdone, List.flatMap_cons]

/-- The warnings tell of the references that a report gains, one by one. -/
theorem Tells.warnings (h : Tells known report models outcome events) (hdone : outcome = .ok done) :
    ∃ names, done.foreignReferences = report.foreignReferences ++ names ∧
      List.Forall₂ (fun e name => ∃ m ∈ models, m.Warns e name)
        (events.filter (·.level = .warn)) names := by
  induction h with
  | closed =>
      cases hdone
      exact ⟨[], (List.append_nil _).symm, .nil⟩
  | unflushed => cases hdone
  | rejected => cases hdone
  | refused => cases hdone
  | @written report m more outcome events hm _ ih =>
      obtain ⟨names, hnames, hwarns⟩ := ih hdone
      refine ⟨unmet known report.foreignReferences m.targets ++ names, ?_, ?_⟩
      · rw [hnames, ← List.append_assoc]
        rfl
      · rw [List.filter_append, warnings_toldBy hm]
        refine List.rel_append ((warnings_of_model m).imp fun _ _ h => ?_)
          (hwarns.imp fun _ _ h => ?_)
        · exact ⟨m, List.mem_cons_self, h⟩
        · obtain ⟨n, hn, hwarns⟩ := h
          exact ⟨n, List.mem_cons_of_mem m hn, hwarns⟩

end Told

/-! ## Whole runs -/

/-- No check of names ends with a signature. -/
theorem check_ne_unsupportedType (models : List Model) (text : Text) :
    check models ≠ .error (.unsupportedType text) := by
  intro h
  rw [check, AllowList.check] at h
  split at h
  · cases h
  · obtain ⟨i, ⟨name, -, hdefect⟩, -⟩ := AllowList.checkNames_eq_error_iff.1 h
    cases hdefect

variable {models : List Model} {sink : Sink}

/-- A run that passes its check tells what the recursion tells, behind its
opening event. -/
theorem run_tells (sink : Sink) (h : check models = .ok ()) :
    ∃ events, (run models sink).events = openingEvent models.length :: events ∧
      Tells (models.map (·.name)) .empty models (run models sink).outcome events := by
  rw [run_of_check sink h]
  exact ⟨_, rfl, writeAll_tells _ models .empty sink⟩

/-- Something of a level is told when a filter by it leaves something. -/
theorem exists_level_iff {events : List Event} {level : Level} :
    (∃ e ∈ events, e.level = level) ↔ events.filter (·.level = level) ≠ [] := by
  rw [ne_eq, List.filter_eq_nil_iff]
  simp

/-- An error is told when a run ends with a signature, and only then. -/
theorem error_told_iff : (∃ e ∈ (run models sink).events, e.level = .error) ↔
    ∃ text, (run models sink).outcome = .error (.unsupportedType text) := by
  cases hcheck : check models with
  | error fault =>
      rw [run_of_failed_check sink hcheck]
      constructor
      · rintro ⟨e, he, -⟩
        cases he
      · rintro ⟨text, htext⟩
        have hfault : fault = .unsupportedType text := Except.error.inj htext
        exact absurd (hfault ▸ hcheck) (check_ne_unsupportedType models text)
  | ok _ =>
      obtain ⟨events, hevents, htells⟩ := run_tells sink hcheck
      have herrors : (run models sink).events.filter (·.level = .error)
          = events.filter (·.level = .error) := by
        rw [hevents]
        exact List.filter_cons_of_neg (by simp [openingEvent])
      rw [exists_level_iff, herrors]
      constructor
      · intro htold
        by_contra hnone
        exact htold (htells.no_error (not_exists.1 hnone))
      · rintro ⟨text, htext⟩
        obtain ⟨m, f, -, -, -, -, hfilter⟩ := htells.rejection text htext
        rw [hfilter]
        exact List.cons_ne_nil _ _

/-- The properties of a model that is not rejected have the TypeScript types
that its lines and events name. -/
theorem typeScript_of_kept {m : Model} (hm : m.isRejected = false) {f : Field} (hf : f ∈ m.kept) :
    f.signature.typeScript = .ok f.signature.typeName := by
  obtain ⟨hfield, hkept⟩ := List.mem_filter.1 hf
  rw [Model.isRejected, List.any_eq_false] at hm
  have hrejected := hm f hfield
  rw [Field.isRejected, hkept, Bool.true_and] at hrejected
  exact Signature.typeScript_of_accepted (Bool.not_eq_true _ ▸ hrejected)

/-- A run that succeeds has put the blocks of all models behind what its sink
held. -/
theorem written_of_run {report : Report} (hcheck : check models = .ok ())
    (haccepted : ∀ m ∈ models, m.isRejected = false)
    (hrun : (run models sink).outcome = .ok report) :
    (run models sink).sink.accepted
      = sink.accepted ++ Utf8.encode (models.flatMap Model.block) := by
  have hall : models.takeWhile (fun m => !m.isRejected) = models := by
    rw [List.takeWhile_eq_self_iff]
    intro m hm
    simp [haccepted m hm]
  have hcomplete : (sink.write (offered models)).1 = true := by
    rw [(run_ending sink hcheck).1, ending] at hrun
    split at hrun
    · next hw => exact hw
    · cases hrun
  rw [Sink.write_complete] at hcomplete
  rw [run_sink sink hcheck, Sink.write_accepted, hcomplete, List.take_length, offered, hall]

/-! ### Messages -/

theorem rejectionEvent_eq (m : Model) (f : Field) (text : Text) :
    Model.rejectionEvent m.name (Property.ofField f) (.unsupportedType text)
      = ⟨.error, .generation, "❌ " ++ m.name ++ "." ++ f.name ++ " (" ++ f.signature.text
          ++ "): No translation for type: " ++ text⟩ := by
  have hcolon : ("): No translation for type: " : Text) = "): " ++ "No translation for type: " := by
    decide
  show Event.mk _ _ ("❌ " ++ Model.memberName m.name f.name ++ " (" ++ f.signature.text ++ "): "
    ++ ("No translation for type: " ++ text)) = _
  rw [Model.memberName_eq, hcolon]
  simp only [List.append_assoc]

theorem memberEvents_eq (m : Model) :
    m.memberEvents = m.kept.map fun f =>
      ⟨.debug, .generation, m.name ++ "." ++ f.name ++ ": " ++ f.signature.text ++ " -> "
        ++ f.signature.typeName⟩ := by
  refine List.map_congr_left fun f _ => ?_
  show Event.mk _ _ (Model.memberName m.name f.name ++ ": " ++ f.signature.text ++ " -> " ++ _) = _
  rw [Model.memberName_eq]

/-- **The events of a run tell how it ended.**  A run that fails its check tells
nothing.  Any other begins with the number of its models.  An error is told when
the run ends with a signature that has no TypeScript type, and only then: once,
as the last event, naming the first such field of the first model that has one.
A run that ends with a report closes with what the report counts; its warnings
tell, one by one, of the references reported; it tells of every field left out,
as many as are counted; and it tells of the properties in the order of the lines
written, once for each.  A run that a sink has stopped tells no error and has no
closing event. -/
theorem run_tells_its_ending (models : List Model) (sink : Sink) :
    let done := run models sink
    let told (level : Level) := done.events.filter (·.level = level)
    let opening : Event :=
      ⟨.info, .generation, "Generating " ++ Nat.toDigits 10 models.length ++ " declarations"⟩
    ((∃ e ∈ done.events, e.level = .error) ↔
      ∃ text, done.outcome = .error (.unsupportedType text)) ∧
    match check models with
    | .error _ => done.events = []
    | .ok () =>
      done.events.head? = some opening ∧
      match done.outcome with
      | .error (.unsupportedType text) =>
        ∃ m f, models.find? Model.isRejected = some m ∧
          m.fields.find? Field.isRejected = some f ∧
          f.signature.typeScript = .error (.unsupportedType text) ∧
          let rejection : Event := ⟨.error, .generation, "❌ " ++ m.name ++ "." ++ f.name ++ " ("
            ++ f.signature.text ++ "): No translation for type: " ++ text⟩
          told .error = [rejection] ∧ done.events.getLast? = some rejection
      | .error fault => fault = .io none ∧ told .error = [] ∧ told .info = [opening]
      | .ok report =>
        let closing : Event := ⟨.info, .generation, "✅ Wrote "
          ++ Nat.toDigits 10 report.declarations ++ " declarations ("
          ++ Nat.toDigits 10 report.skippedFields ++ " fields skipped)"⟩
        let skips : List Event := models.flatMap fun m => m.leftOut.map fun f =>
          ⟨.debug, .extraction, "Skipping " ++ m.name ++ "." ++ f.name⟩
        let lines : List Event := models.flatMap fun m => m.kept.map fun f =>
          ⟨.debug, .generation, m.name ++ "." ++ f.name ++ ": " ++ f.signature.text ++ " -> "
            ++ f.signature.typeName⟩
        done.events.getLast? = some closing ∧ told .info = [opening, closing] ∧
        List.Forall₂ (fun e name => ∃ m ∈ models, m.Warns e name)
          (told .warn) report.foreignReferences ∧
        done.events.filter Event.isOfSkip = skips ∧ skips.length = report.skippedFields ∧
        done.events.filter Event.isOfMember = lines ∧
        (∀ m ∈ models, ∀ f ∈ m.kept, f.signature.typeScript = .ok f.signature.typeName) ∧
        done.sink.accepted = sink.accepted ++ Utf8.encode (models.flatMap Model.block) := by
  intro done told opening
  refine ⟨error_told_iff, ?_⟩
  cases hcheck : check models with
  | error fault =>
      show (run models sink).events = []
      rw [run_of_failed_check sink hcheck]
  | ok _ =>
      obtain ⟨events, hevents, htells⟩ := run_tells sink hcheck
      have hlast : ∀ e, events.getLast? = some e → done.events.getLast? = some e := by
        intro e he
        rw [hevents, List.getLast?_cons, he, Option.getD_some]
      have herrors : told .error = events.filter (·.level = .error) := by
        show done.events.filter _ = _
        rw [hevents]
        exact List.filter_cons_of_neg (by simp [openingEvent])
      have hinfos : told .info = opening :: done.outcome.toOption.toList.map closingEvent := by
        show done.events.filter _ = _
        rw [hevents, ← htells.infos]
        exact List.filter_cons_of_pos (by simp [openingEvent])
      refine ⟨by rw [hevents]; rfl, ?_⟩
      split
      · next text hend =>
        obtain ⟨m, f, hm, hf, htype, hrejection, hfilter⟩ := htells.rejection text hend
        rw [rejectionEvent_eq] at hrejection hfilter
        exact ⟨m, f, hm, hf, htype, herrors.trans hfilter, hlast _ hrejection⟩
      · next fault hnot hend =>
        have hsignature : ∀ text, done.outcome ≠ .error (.unsupportedType text) := by
          intro text htext
          exact hnot text (Except.error.inj (hend.symm.trans htext))
        refine ⟨?_, herrors.trans (htells.no_error hsignature), ?_⟩
        · rcases htells.fault fault hend with ⟨text, rfl⟩ | hio
          · exact absurd rfl (hnot text)
          · exact hio
        · rw [hinfos, hend]
          rfl
      · next report hend =>
        have haccepted := htells.accepted hend
        intro closing skips lines
        refine ⟨hlast _ (htells.last hend), ?_, ?_, ?_, ?_, ?_, ?_, ?_⟩
        · rw [hinfos, hend]
          rfl
        · obtain ⟨names, hnames, hwarns⟩ := htells.warnings hend
          have hreferences : report.foreignReferences = names := hnames
          have hwarnings : told .warn = events.filter (·.level = .warn) := by
            show done.events.filter _ = _
            rw [hevents]
            exact List.filter_cons_of_neg (by simp [openingEvent])
          rw [hwarnings, hreferences]
          exact hwarns
        · have hskips : skips = models.flatMap Model.skipEvents :=
            congrArg models.flatMap (funext fun m => m.skipEvents_eq.symm)
          rw [hevents, hskips, ← htells.skips hend]
          exact List.filter_cons_of_neg (by simp [openingEvent, Event.isOfSkip])
        · have hreport := report_of_run hend
          rw [reportOn_empty] at hreport
          simp only [hreport, skips, List.length_flatMap, List.length_map]
        · have hlines : lines = models.flatMap Model.memberEvents :=
            congrArg models.flatMap (funext fun m => (memberEvents_eq m).symm)
          rw [hevents, hlines, ← htells.members hend]
          exact List.filter_cons_of_neg (by simp [openingEvent, Event.isOfMember])
        · exact fun m hm f hf => typeScript_of_kept (haccepted m hm) hf
        · exact written_of_run hcheck haccepted hend

/-- A run with a field left out and a reference that leads out, and one that a
second model stops. -/
theorem run_tells_its_ending_atlas :
    let home : Field := ⟨"Home", ⟨[.pointer], .qualified "model" "Place"⟩, none⟩
    let atlas : Model := ⟨"Atlas", [⟨"Old", ⟨[], .primitive .int⟩, some ⟨"json:\"-\""⟩⟩, home]⟩
    let wave : Model := ⟨"Wave", [⟨"Phase", ⟨[.pointer, .slice], .verbatim "complex128"⟩, none⟩]⟩
    let done := run [atlas] .unbounded
    let stopped := run [atlas, wave] .unbounded
    done.outcome = .ok ⟨1, 1, ["Place"]⟩ ∧
      done.events.head? = some ⟨.info, .generation, "Generating 1 declarations"⟩ ∧
      done.events.getLast?
        = some ⟨.info, .generation, "✅ Wrote 1 declarations (1 fields skipped)"⟩ ∧
      done.events.filter (·.level = .warn) = [⟨.warn, .generation,
        "⚠️ Atlas.Home references 'Place', which is not in the allow-list"⟩] ∧
      done.events.filter Event.isOfSkip = [⟨.debug, .extraction, "Skipping Atlas.Old"⟩] ∧
      done.events.filter Event.isOfMember
        = [⟨.debug, .generation, "Atlas.Home: *model.Place -> *Place"⟩] ∧
      stopped.outcome = .error (.unsupportedType "[]complex128") ∧
      stopped.events.getLast? = some ⟨.error, .generation,
        "❌ Wave.Phase (*[]complex128): No translation for type: []complex128"⟩ := by
  intro home atlas wave done stopped
  have hdone : done.outcome = .ok ⟨1, 1, ["Place"]⟩ := by
    with_unfolding_all rfl
  have hstopped : stopped.outcome = .error (.unsupportedType "[]complex128") := by
    with_unfolding_all rfl
  have htells : _ ∧ _ := run_tells_its_ending [atlas] .unbounded
  have hstops : _ ∧ _ := run_tells_its_ending [atlas, wave] .unbounded
  have hcheck : check [atlas] = .ok () := rfl
  have hcheck' : check [atlas, wave] = .ok () := by
    decide
  rw [hcheck, hdone] at htells
  rw [hcheck', hstopped] at hstops
  obtain ⟨-, hhead, hlast, -, hwarns, hskips, -, hlines, -⟩ := htells
  obtain ⟨-, -, m, f, hm, hf, -, -, hlast'⟩ := hstops
  have hwave : [atlas, wave].find? Model.isRejected = some wave := by
    with_unfolding_all rfl
  obtain rfl : wave = m := Option.some_inj.1 (hwave.symm.trans hm)
  obtain rfl : (⟨"Phase", ⟨[.pointer, .slice], .verbatim "complex128"⟩, none⟩ : Field) = f :=
    Option.some_inj.1 hf
  obtain ⟨e, rest, ⟨n, hn, g, hg, -, he⟩, hrest, hwarning⟩ := List.forall₂_cons_right_iff.1 hwarns
  obtain rfl : n = atlas := List.mem_singleton.1 hn
  have hkept : atlas.kept = [home] := by
    decide +kernel
  rw [hkept] at hg
  obtain rfl : g = home := List.mem_singleton.1 hg
  obtain rfl : rest = [] := List.forall₂_nil_right_iff.1 hrest
  refine ⟨hdone, hhead.trans ?_, hlast.trans ?_, hwarning.trans ?_, hskips.trans ?_,
    hlines.trans ?_, hstopped, hlast'.trans ?_⟩
  · decide +kernel
  · decide +kernel
  · rw [he]
    decide +kernel
  · decide +kernel
  · decide +kernel
  · decide +kernel

end Generation

end Typescribe
