/-
Output to a file is all or nothing.

An execution has three ways to the disk.  Nothing is written before all models
are generated, so a fault of the configuration or of a model leaves the disk
as it was, and so does a path without a file name.  A system that refuses may
leave directories behind.  If nothing refuses, the file has what the same
configuration streams without a path to a sink that takes everything.
-/
import Typescribe.Execution
import Typescribe.Proofs.Disk

namespace Typescribe.Execution

/-! ## Before the models -/

/-- An execution ends with its configuration or goes on to the models. -/
theorem execute_cases (catalog : Catalog) (config : Config) (dryRun : Bool) (sink : Sink)
    (disk : Disk) :
    (∃ fault events,
        (config.check = .error fault ∨ catalog.resolve config.allowList = .error fault) ∧
        execute catalog config dryRun sink disk = ⟨.error fault, sink, disk, events⟩) ∨
      ∃ models events, config.check = .ok () ∧ catalog.resolve config.allowList = .ok models ∧
        execute catalog config dryRun sink disk
          = { ofModels models config.outputPath dryRun sink disk with events := events } := by
  rw [execute]
  cases hcheck : config.check with
  | error fault => exact .inl ⟨fault, _, .inl rfl, rfl⟩
  | ok _ =>
      cases hresolve : catalog.resolve config.allowList with
      | error fault => exact .inl ⟨fault, _, .inr rfl, rfl⟩
      | ok models => exact .inr ⟨models, _, rfl, rfl, rfl⟩

/-- A configuration that passes does so without its output path. -/
theorem check_stream {c : Config} (h : c.check = .ok ()) :
    ({ c with outputPath := none } : Config).check = .ok () := by
  rw [Config.check] at h ⊢
  cases hallow : AllowList.check c.allowList with
  | error fault =>
      rw [hallow] at h
      cases h
  | ok _ => rfl

/-- The streaming run for a configuration that passes is the run of its
models. -/
theorem execute_stream {catalog : Catalog} {c : Config} {models : List Model} (disk : Disk)
    (hcheck : c.check = .ok ()) (hresolve : catalog.resolve c.allowList = .ok models) :
    let streamed := execute catalog { c with outputPath := none } false .unbounded disk
    streamed.outcome = (Generation.run models .unbounded).outcome.map some ∧
      streamed.sink = (Generation.run models .unbounded).sink := by
  intro streamed
  rcases execute_cases catalog { c with outputPath := none } false .unbounded disk with
    ⟨fault, events, hfault, -⟩ | ⟨models', events, -, hresolve', hstreamed⟩
  · rcases hfault with hfault | hfault
    · rw [check_stream hcheck] at hfault
      cases hfault
    · rw [hresolve] at hfault
      cases hfault
  · have hmodels : models = models' := Except.ok.inj (hresolve.symm.trans hresolve')
    subst hmodels
    exact ⟨congrArg Execution.outcome hstreamed, congrArg Execution.sink hstreamed⟩

/-! ## The file -/

/-- What a fault may leave on the disk when a file was to be written: if the
system refused, directories that the path leads through, and no file is
created, removed or changed; otherwise nothing at all. -/
def LeftBehind (before after : Disk) (path : Text) : Fault → Prop
  | .io _ =>
    (∀ place, after.file? place = before.file? place) ∧ before.Grows after (before.along path)
  | _ => after = before

theorem leftBehind_self (disk : Disk) (path : Text) (fault : Fault) :
    LeftBehind disk disk path fault := by
  cases fault with
  | io detail => exact ⟨fun _ => rfl, .refl disk _⟩
  | unsupportedType _ => rfl
  | duplicateModel _ => rfl
  | unknownModel _ => rfl
  | emptyAllowList => rfl
  | serialization _ => rfl
  | malformedConfig _ _ => rfl
  | invalidValue _ _ _ => rfl

/-- A file is saved where its path leads to, or a fault says why it is not.
The path that is written to is not the path itself, but has its components. -/
theorem saveAt_cases (path : Text) (content : List UInt8) (disk : Disk) :
    (∃ fault after, saveAt path content disk = (.error fault, after) ∧
        LeftBehind disk after path fault) ∨
      ∃ after, saveAt path content disk = (.ok (), after) ∧ disk.Saved after path content := by
  rw [saveAt]
  cases hname : Path.fileName? path with
  | none => exact .inl ⟨_, disk, rfl, leftBehind_self disk path _⟩
  | some name =>
      obtain ⟨hcomps, habs⟩ := Path.components_join_parent hname
      rcases disk.save_cases (Path.join (Path.parent path) name) content with
        ⟨after, hsave, hgrows⟩ | ⟨after, hsave, hsaved⟩
      · rw [Disk.along_congr hcomps habs] at hgrows
        refine .inl ⟨.io none, after, ?_, hgrows.file?_eq, hgrows⟩
        simp only [hsave]
      · refine .inr ⟨after, ?_, hsaved.congr hcomps habs⟩
        simp only [hsave]

/-- How an execution that writes to a file ended, against the run of its
models on a sink that takes everything. -/
theorem toFile_disk (models : List Model) (path : Text) (sink : Sink) (disk : Disk) :
    (toFile models path sink disk).sink = sink ∧
      match (toFile models path sink disk).outcome with
      | .ok report =>
          (Generation.run models .unbounded).outcome.map some = .ok report ∧
            disk.Saved (toFile models path sink disk).disk path
              (Generation.run models .unbounded).sink.accepted
      | .error fault => LeftBehind disk (toFile models path sink disk).disk path fault := by
  rw [toFile]
  cases hrun : (Generation.run models .unbounded).outcome with
  | error fault => exact ⟨rfl, leftBehind_self disk path fault⟩
  | ok report =>
      rcases saveAt_cases path (Generation.run models .unbounded).sink.accepted disk with
        ⟨fault, after, hsave, hleft⟩ | ⟨after, hsave, hsaved⟩
      · simp only [hsave]
        exact ⟨trivial, hleft⟩
      · simp only [hsave]
        exact ⟨trivial, rfl, hsaved⟩

/-- **Output to a file is all or nothing.**  A dry run and a configuration
without an output path leave the disk alone.  With a path the sink is left
alone, and the disk has the whole file, with the bytes and the report of the
streaming run, or what the fault may leave behind.  The disk is any: it may
refuse a directory or the file at places of its own choice. -/
theorem execute_all_or_nothing (catalog : Catalog) (config : Config) (dryRun : Bool) (sink : Sink)
    (disk : Disk) :
    let done := execute catalog config dryRun sink disk
    let streamed := execute catalog { config with outputPath := none } false .unbounded disk
    match dryRun, config.outputPath with
    | false, some path =>
        done.sink = sink ∧
          match done.outcome with
          | .ok report =>
              streamed.outcome = .ok report ∧ disk.Saved done.disk path streamed.sink.accepted
          | .error fault => LeftBehind disk done.disk path fault
    | _, _ => done.disk = disk := by
  intro done streamed
  rcases execute_cases catalog config dryRun sink disk with
    ⟨fault, events, -, hdone⟩ | ⟨models, events, hcheck, hresolve, hdone⟩
  · have hdisk : done.disk = disk := congrArg Execution.disk hdone
    cases dryRun with
    | true => exact hdisk
    | false =>
        cases config.outputPath with
        | none => exact hdisk
        | some path =>
            have hsink : done.sink = sink := congrArg Execution.sink hdone
            have houtcome : done.outcome = .error fault := congrArg Execution.outcome hdone
            simp only [hsink, houtcome, hdisk]
            exact ⟨trivial, leftBehind_self disk path fault⟩
  · cases dryRun with
    | true => exact congrArg Execution.disk hdone
    | false =>
        cases hpath : config.outputPath with
        | none =>
            rw [hpath] at hdone
            exact congrArg Execution.disk hdone
        | some path =>
            rw [hpath] at hdone
            have hfile : done = { toFile models path sink disk with events := events } := hdone
            obtain ⟨hreport, haccepted⟩ := execute_stream disk hcheck hresolve
            rw [hfile, hreport, haccepted]
            exact toFile_disk models path sink disk

end Typescribe.Execution
