/-
The allow-list is settled before anything is generated.

Names are checked twice: as the configuration has them, and again as the
names of the models that they resolve to.  Resolving keeps names and order, so
what passes the first check passes the second, whatever the catalog.  Behind
the first check no fault is about the allow-list any more, except that a name
may be in no catalog: all that can still go wrong is a signature without a
TypeScript type, a path without a file name, a stream or a file.
-/
import Typescribe.Proofs.Catalog
import Typescribe.Proofs.Execution.FileOutput
import Typescribe.Proofs.Generation.Outcome

namespace Typescribe

/-- The fault is about the allow-list itself: it is empty, or a name in it is
blank or stands twice. -/
def Fault.isOfAllowList : Fault → Bool
  | .emptyAllowList | .duplicateModel _ => true
  | .invalidValue field _ _ => field = AllowList.fieldName
  | _ => false

namespace AllowList

theorem isOfAllowList_of_checkNames {fault : Fault} : ∀ {names seen : List Text},
    checkNames seen names = .error fault → fault.isOfAllowList = true := by
  intro names
  induction names with
  | nil => exact nofun
  | cons name more ih =>
      intro seen h
      rw [checkNames, requireText] at h
      split at h
      · next hblank =>
        split at hblank
        · cases hblank
          cases h
          exact decide_eq_true (rfl : fieldName = fieldName)
        · cases hblank
      · split at h
        · cases h
          rfl
        · exact ih h

theorem isOfAllowList_of_check {names : List Text} {fault : Fault}
    (h : check names = .error fault) : fault.isOfAllowList = true := by
  rw [check] at h
  split at h
  · cases h
    rfl
  · exact isOfAllowList_of_checkNames h

end AllowList

namespace Generation

theorem isOfAllowList_of_fault? {m : Model} {fault : Fault} (h : m.fault? = some fault) :
    fault.isOfAllowList = false := by
  obtain ⟨f, -, rfl⟩ := Option.map_eq_some_iff.1 h
  rfl

/-- No run that passes its check ends with a fault about the allow-list. -/
theorem isOfAllowList_of_run {models : List Model} {sink : Sink} {fault : Fault}
    (hcheck : check models = .ok ()) (h : (run models sink).outcome = .error fault) :
    fault.isOfAllowList = false := by
  rw [(run_ending sink hcheck).1, ending] at h
  split at h
  · split at h
    · next hfirst =>
      obtain ⟨m, -, hm⟩ := Option.bind_eq_some_iff.1 hfirst
      cases h
      exact isOfAllowList_of_fault? hm
    · split at h
      · cases h
      · cases h
        rfl
  · cases h
    rfl

/-- The models that an allow-list resolves to pass the check that it has
passed. -/
theorem check_of_resolve {catalog : Catalog} {names : List Text} {models : List Model}
    (hcheck : AllowList.check names = .ok ()) (hresolve : catalog.resolve names = .ok models) :
    check models = .ok () := by
  rw [check, Catalog.names_of_resolve hresolve, hcheck]

end Generation

namespace Config

/-- A configuration that does not pass has an allow-list that does not, or
else a path that does not. -/
theorem check_eq_error {c : Config} {fault : Fault} (h : c.check = .error fault) :
    match AllowList.check c.allowList with
    | .error first => fault = first ∧ fault.isOfAllowList = true
    | .ok () => ∃ path reason, c.outputPath = some path ∧ fault = .invalidValue pathField path reason := by
  rw [check] at h
  cases hallow : AllowList.check c.allowList with
  | error first =>
      rw [hallow] at h
      cases h
      exact ⟨rfl, AllowList.isOfAllowList_of_check hallow⟩
  | ok _ =>
      rw [hallow] at h
      cases hpath : c.outputPath with
      | none =>
          rw [hpath] at h
          cases h
      | some path =>
          rw [hpath] at h
          simp only [requirePath] at h
          split at h
          · exact ⟨path, _, rfl, (Except.error.inj h).symm⟩
          · split at h
            · exact ⟨path, _, rfl, (Except.error.inj h).symm⟩
            · cases h

theorem allowList_check {c : Config} (h : c.check = .ok ()) : AllowList.check c.allowList = .ok () := by
  rw [check] at h
  cases hallow : AllowList.check c.allowList with
  | error fault =>
      rw [hallow] at h
      cases h
  | ok _ => rfl

end Config

namespace Execution

/-! ## Faults behind the check -/

theorem isOfAllowList_of_writePlan {models : List Model} {sink : Sink} {fault : Fault}
    (h : (writePlan models sink).1 = .error fault) : fault.isOfAllowList = false := by
  rw [writePlan] at h
  split at h
  · cases h
    rfl
  · split at h
    · cases h
      rfl
    · cases h

theorem isOfAllowList_of_saveAt {path : Text} {content : List UInt8} {disk : Disk} {fault : Fault}
    (h : (saveAt path content disk).1 = .error fault) : fault.isOfAllowList = false := by
  rw [saveAt] at h
  split at h
  · cases h
    have hfield : Config.pathField ≠ AllowList.fieldName := by decide
    exact decide_eq_false hfield
  · split at h
    · cases h
      rfl
    · cases h

theorem isOfAllowList_of_toFile {models : List Model} {path : Text} {sink : Sink} {disk : Disk}
    {fault : Fault} (hcheck : Generation.check models = .ok ())
    (h : (toFile models path sink disk).outcome = .error fault) : fault.isOfAllowList = false := by
  rw [toFile] at h
  cases hrun : (Generation.run models .unbounded).outcome with
  | error other =>
      simp only [hrun] at h
      cases h
      exact Generation.isOfAllowList_of_run hcheck hrun
  | ok report =>
      cases hsave : saveAt path (Generation.run models .unbounded).sink.accepted disk with
      | mk saved after =>
          cases saved with
          | error other =>
              simp only [hrun, hsave] at h
              cases h
              exact isOfAllowList_of_saveAt (congrArg Prod.fst hsave)
          | ok _ =>
              simp only [hrun, hsave] at h
              cases h

/-- No execution ends with a fault about the allow-list once its models pass
their check. -/
theorem isOfAllowList_of_ofModels {models : List Model} {path : Option Text} {dryRun : Bool}
    {sink : Sink} {disk : Disk} {fault : Fault} (hcheck : Generation.check models = .ok ())
    (h : (ofModels models path dryRun sink disk).outcome = .error fault) :
    fault.isOfAllowList = false := by
  cases dryRun with
  | true =>
      have hmap : (writePlan models sink).1.map (fun _ => none) = .error fault := h
      cases hplan : (writePlan models sink).1 with
      | error other =>
          rw [hplan] at hmap
          cases hmap
          exact isOfAllowList_of_writePlan hplan
      | ok _ =>
          rw [hplan] at hmap
          cases hmap
  | false =>
      cases path with
      | some path => exact isOfAllowList_of_toFile hcheck h
      | none =>
          have hmap : (Generation.run models sink).outcome.map some = .error fault := h
          cases hrun : (Generation.run models sink).outcome with
          | error other =>
              rw [hrun] at hmap
              cases hmap
              exact Generation.isOfAllowList_of_run hcheck hrun
          | ok report =>
              rw [hrun] at hmap
              cases hmap

/-! ## Whole executions -/

/-- A configuration that does not pass leaves everything as it was. -/
theorem execute_eq_of_failed_check {catalog : Catalog} {config : Config} {fault : Fault}
    (h : config.check = .error fault) (dryRun : Bool) (sink : Sink) (disk : Disk) :
    execute catalog config dryRun sink disk = ⟨.error fault, sink, disk, []⟩ := by
  rw [execute]
  simp only [h]

theorem execute_of_failed_check {catalog : Catalog} {config : Config} {fault : Fault}
    (h : config.check = .error fault) (dryRun : Bool) (sink : Sink) (disk : Disk) :
    (execute catalog config dryRun sink disk).outcome = .error fault :=
  congrArg Execution.outcome (execute_eq_of_failed_check h dryRun sink disk)

/-- So does one with a name that is not in the catalog. -/
theorem execute_eq_of_unresolved {catalog : Catalog} {config : Config} {fault : Fault}
    (hcheck : config.check = .ok ()) (h : catalog.resolve config.allowList = .error fault)
    (dryRun : Bool) (sink : Sink) (disk : Disk) :
    execute catalog config dryRun sink disk = ⟨.error fault, sink, disk, [configEvent config]⟩ := by
  rw [execute]
  simp only [hcheck, h]

theorem execute_of_unresolved {catalog : Catalog} {config : Config} {fault : Fault}
    (hcheck : config.check = .ok ()) (h : catalog.resolve config.allowList = .error fault)
    (dryRun : Bool) (sink : Sink) (disk : Disk) :
    (execute catalog config dryRun sink disk).outcome = .error fault :=
  congrArg Execution.outcome (execute_eq_of_unresolved hcheck h dryRun sink disk)

/-- What is left is up to the models. -/
theorem execute_eq_of_resolved {catalog : Catalog} {config : Config} {models : List Model}
    (hcheck : config.check = .ok ()) (h : catalog.resolve config.allowList = .ok models)
    (dryRun : Bool) (sink : Sink) (disk : Disk) :
    execute catalog config dryRun sink disk
      = { ofModels models config.outputPath dryRun sink disk with
          events := configEvent config :: (ofModels models config.outputPath dryRun sink disk).events } := by
  rw [execute]
  simp only [hcheck, h]

theorem execute_of_resolved {catalog : Catalog} {config : Config} {models : List Model}
    (hcheck : config.check = .ok ()) (h : catalog.resolve config.allowList = .ok models)
    (dryRun : Bool) (sink : Sink) (disk : Disk) :
    (execute catalog config dryRun sink disk).outcome
      = (ofModels models config.outputPath dryRun sink disk).outcome := by
  rw [execute_eq_of_resolved hcheck h]

/-- **The allow-list is settled before anything is generated.**  It resolves
when every name is in the catalog, to the first model of each, and fails for
the first name that is not.  An execution ends with the fault of its
configuration, the allow-list before the path, then with that of resolving;
otherwise the models pass their own check, and no fault behind the
configuration's check is about the allow-list. -/
theorem execute_settles_allowList (catalog : Catalog) (config : Config) (dryRun : Bool)
    (sink : Sink) (disk : Disk) :
    let done := execute catalog config dryRun sink disk
    ((∃ models, catalog.resolve config.allowList = .ok models) ↔
      ∀ name ∈ config.allowList, catalog.Knows name) ∧
    (match catalog.resolve config.allowList with
      | .ok models => List.Forall₂ catalog.IsFirst config.allowList models
      | .error fault =>
        ∃ before name behind, config.allowList = before ++ name :: behind ∧
          (∀ n ∈ before, catalog.Knows n) ∧ ¬catalog.Knows name ∧ fault = .unknownModel name) ∧
    match config.check with
    | .error fault =>
      done.outcome = .error fault ∧
        match AllowList.check config.allowList with
        | .error first => fault = first ∧ fault.isOfAllowList = true
        | .ok () =>
          ∃ path reason, config.outputPath = some path ∧
            fault = .invalidValue Config.pathField path reason
    | .ok () =>
      (match done.outcome with
        | .error fault => fault.isOfAllowList = false
        | .ok _ => True) ∧
      match catalog.resolve config.allowList with
      | .error fault => done.outcome = .error fault
      | .ok models => Generation.check models = .ok () := by
  intro done
  refine ⟨Catalog.resolve_succeeds_iff, ?_, ?_⟩
  · cases hresolve : catalog.resolve config.allowList with
    | ok models => exact Catalog.resolve_eq_ok hresolve
    | error fault => exact Catalog.resolve_eq_error hresolve
  · cases hcheck : config.check with
    | error fault =>
        exact ⟨execute_of_failed_check hcheck dryRun sink disk, Config.check_eq_error hcheck⟩
    | ok _ =>
        cases hresolve : catalog.resolve config.allowList with
        | error fault =>
            have hdone : done.outcome = .error fault :=
              execute_of_unresolved hcheck hresolve dryRun sink disk
            obtain ⟨_, _, _, _, _, _, rfl⟩ := Catalog.resolve_eq_error hresolve
            rw [hdone]
            exact ⟨rfl, rfl⟩
        | ok models =>
            have hmodels : Generation.check models = .ok () :=
              Generation.check_of_resolve (Config.allowList_check hcheck) hresolve
            have hdone : done.outcome = (ofModels models config.outputPath dryRun sink disk).outcome :=
              execute_of_resolved hcheck hresolve dryRun sink disk
            -- so of what can still go wrong, nothing is about the allow-list
            refine ⟨?_, hmodels⟩
            cases hend : done.outcome with
            | ok report => exact trivial
            | error fault => exact isOfAllowList_of_ofModels hmodels (hdone.symm.trans hend)

end Execution

end Typescribe
