/-
Dry runs on sinks that may refuse.

A dry run offers its plan and then a newline, and a sink takes the start of what
it is offered.  So the sink keeps as much of the two together as it has room
for, in whatever pieces they reach it, and which fault the run ends with is
settled by where the room ends: inside the plan, right behind it, or not at all.
Nothing else counts.  The sink is not flushed, no TypeScript type is looked for,
and the output path only has to pass its check.
-/
import Typescribe.Proofs.Execution.AllowList
import Typescribe.Proofs.Execution.DryRun

namespace Typescribe

/-! ## Faults that only generating can bring about -/

theorem Config.check_ne_unsupportedType (c : Config) (signature : Text) :
    c.check ≠ .error (.unsupportedType signature) := by
  intro h
  have hcauses := Config.check_eq_error h
  cases hallow : AllowList.check c.allowList with
  | error first =>
      rw [hallow] at hcauses
      cases hcauses.2
  | ok _ =>
      rw [hallow] at hcauses
      obtain ⟨path, reason, -, hfault⟩ := hcauses
      cases hfault

theorem Catalog.resolve_ne_unsupportedType (catalog : Catalog) (names : List Text)
    (signature : Text) : catalog.resolve names ≠ .error (.unsupportedType signature) := by
  intro h
  obtain ⟨_, _, _, _, _, _, hfault⟩ := Catalog.resolve_eq_error h
  cases hfault

namespace Execution

/-! ## The plan -/

/-- The bytes of a plan. -/
def planBytes (models : List Model) : List UInt8 :=
  Utf8.encode (Json.plan (models.map Model.plan))

/-- A plan is written as one write of it and the newline would be; refusing
the plan comes before refusing the newline. -/
theorem writePlan_eq (models : List Model) (sink : Sink) :
    writePlan models sink =
      (if (sink.write (planBytes models)).1 = false then .error (.serialization none)
        else if (sink.write (planBytes models ++ Utf8.encode "\n")).1 = false then .error (.io none)
        else .ok (),
        (sink.write (planBytes models ++ Utf8.encode "\n")).2) := by
  rw [writePlan]
  split
  · next after h =>
    have hrefused : (sink.write (planBytes models)).1 = false := congrArg Prod.fst h
    rw [Sink.write_append_of_incomplete hrefused, if_pos hrefused]
    exact congrArg (Prod.mk _) (congrArg Prod.snd h).symm
  · next after h =>
    have hwritten : (sink.write (planBytes models)).1 = true := congrArg Prod.fst h
    have hafter : (sink.write (planBytes models)).2 = after := congrArg Prod.snd h
    rw [Sink.write_append_of_complete hwritten, hafter, if_neg (by simp [hwritten])]
    split
    · next last hlast => rw [hlast, if_pos rfl]
    · next last hlast => rw [hlast, if_neg Bool.noConfusion]

theorem writePlan_ne_unsupportedType (models : List Model) (sink : Sink) (signature : Text) :
    (writePlan models sink).1 ≠ .error (.unsupportedType signature) := by
  rw [writePlan_eq]
  split
  · nofun
  · split
    · nofun
    · nofun

/-- How a dry run ends whose plan has `size` bytes, on a fresh sink: the last
byte the sink has room for is in the plan, ends the plan, or is behind it. -/
def planEnding (capacity : Option Nat) (size : Nat) : Except Fault (Option Report) :=
  match capacity with
  | none => .ok none
  | some n =>
    if n < size then .error (.serialization none)
    else if n = size then .error (.io none)
    else .ok none

/-- On a fresh sink, the plan and the newline are taken up to the capacity,
and the capacity settles how the writing ends. -/
theorem writePlan_fresh (models : List Model) (capacity : Option Nat) (flushFails : Bool) :
    (writePlan models ⟨capacity, flushFails, []⟩).1.map (fun _ => none)
        = planEnding capacity (planBytes models).length ∧
      (writePlan models ⟨capacity, flushFails, []⟩).2.accepted
        = (planBytes models ++ Utf8.encode "\n").take
            (Sink.share capacity ((planBytes models).length + 1)) := by
  have hlength : (planBytes models ++ Utf8.encode "\n").length = (planBytes models).length + 1 :=
    List.length_append
  have hplan := Sink.write_fresh_incomplete capacity flushFails (planBytes models)
  have hwhole :=
    Sink.write_fresh_incomplete capacity flushFails (planBytes models ++ Utf8.encode "\n")
  rw [hlength] at hwhole
  rw [writePlan_eq]
  refine ⟨?_, by rw [Sink.write_fresh, hlength]⟩
  simp only [hplan, hwhole]
  cases capacity with
  | none =>
      rw [Sink.share, Sink.share, if_neg (Nat.lt_irrefl _), if_neg (Nat.lt_irrefl _)]
      rfl
  | some n =>
      have hinside (size : Nat) : Sink.share (some n) size < size ↔ n < size := by
        rw [Sink.share]
        omega
      simp only [hinside, planEnding]
      rcases Nat.lt_trichotomy n (planBytes models).length with hlt | heq | hgt
      · rw [if_pos hlt, if_pos hlt]
        rfl
      · rw [if_neg (by omega), if_pos (by omega), if_neg (by omega), if_pos heq]
        rfl
      · rw [if_neg (by omega), if_neg (by omega), if_neg (by omega), if_neg (by omega)]
        rfl

/-! ## Dry runs -/

/-- A dry run of a configuration that passes ends as its names resolve, and as
the plan is written; its output path and the disk have no part in it. -/
theorem dryRun_of_passing (catalog : Catalog) {config : Config} (h : config.check = .ok ())
    (sink : Sink) (disk : Disk) :
    ((execute catalog config true sink disk).outcome,
        (execute catalog config true sink disk).sink) =
      match catalog.resolve config.allowList with
      | .error fault => (.error fault, sink)
      | .ok models => ((writePlan models sink).1.map (fun _ => none), (writePlan models sink).2) := by
  cases hresolve : catalog.resolve config.allowList with
  | error fault => rw [execute_eq_of_unresolved h hresolve]
  | ok models =>
      obtain ⟨houtcome, hsink⟩ := execute_writePlan ⟨h, hresolve⟩ sink disk
      exact Prod.ext houtcome hsink

/-- No dry run ends with a signature that has no TypeScript type. -/
theorem dryRun_ne_unsupportedType (catalog : Catalog) (config : Config) (sink : Sink) (disk : Disk)
    (signature : Text) :
    (execute catalog config true sink disk).outcome ≠ .error (.unsupportedType signature) := by
  intro h
  cases hcheck : config.check with
  | error fault =>
      rw [execute_of_failed_check hcheck] at h
      exact config.check_ne_unsupportedType signature (hcheck.trans (congrArg _ (Except.error.inj h)))
  | ok _ =>
      cases hresolve : catalog.resolve config.allowList with
      | error fault =>
          rw [execute_of_unresolved hcheck hresolve] at h
          exact catalog.resolve_ne_unsupportedType config.allowList signature
            (hresolve.trans (congrArg _ (Except.error.inj h)))
      | ok models =>
          rw [(execute_writePlan ⟨hcheck, hresolve⟩ sink disk).1] at h
          cases hplan : (writePlan models sink).1 with
          | error fault =>
              rw [hplan] at h
              cases h
              exact writePlan_ne_unsupportedType models sink signature hplan
          | ok _ =>
              rw [hplan] at h
              cases h

/-- **A dry run on any sink.**  It keeps the fault of its configuration, then
that of resolving, and leaves the sink as it was.  Otherwise a sink that is
fresh takes the plan and a newline up to its capacity: the run ends with a
fault of serializing where the capacity ends inside the plan, with one of
writing where it ends right behind it, and without a report where there is
room for the newline.  In which pieces the plan reaches the sink is all one,
and so is whether the sink can be flushed.  It is no matter to a dry run
whether a signature has a TypeScript type, and which output path a
configuration has that passes. -/
theorem dryRun_on_any_sink (catalog : Catalog) (config : Config) (capacity : Option Nat)
    (flushFails : Bool) (disk : Disk) :
    let sink : Sink := ⟨capacity, flushFails, []⟩
    let done := execute catalog config true sink disk
    (match config.check, catalog.resolve config.allowList with
      | .error fault, _ => done.outcome = .error fault ∧ done.sink = sink
      | .ok _, .error fault => done.outcome = .error fault ∧ done.sink = sink
      | .ok _, .ok models =>
        let json := Utf8.encode (Json.plan (models.map Model.plan))
        done.outcome = planEnding capacity json.length ∧
          done.sink.accepted
            = (json ++ Utf8.encode "\n").take (Sink.share capacity (json.length + 1)) ∧
          ∀ pieces : List (List UInt8), pieces.flatten = json →
            sink.writeEach pieces = sink.write json) ∧
    (∀ signature, done.outcome ≠ .error (.unsupportedType signature)) ∧
    ∀ path disk', config.check = .ok () → { config with outputPath := path }.check = .ok () →
      let other := execute catalog { config with outputPath := path } true sink disk'
      other.outcome = done.outcome ∧ other.sink = done.sink := by
  intro sink done
  refine ⟨?_, ?_, ?_⟩
  · cases hcheck : config.check with
    | error fault =>
        have hdone : done = ⟨.error fault, sink, disk, []⟩ :=
          execute_eq_of_failed_check hcheck true sink disk
        rw [hdone]
        exact ⟨rfl, rfl⟩
    | ok _ =>
        have hdone := dryRun_of_passing catalog hcheck sink disk
        cases hresolve : catalog.resolve config.allowList with
        | error fault =>
            rw [hresolve] at hdone
            exact ⟨congrArg Prod.fst hdone, congrArg Prod.snd hdone⟩
        | ok models =>
            obtain ⟨hending, haccepted⟩ := writePlan_fresh models capacity flushFails
            rw [hresolve] at hdone
            have hsink : done.sink = (writePlan models sink).2 := congrArg Prod.snd hdone
            refine ⟨(congrArg Prod.fst hdone).trans hending, ?_, ?_⟩
            · rw [hsink]
              exact haccepted
            · intro pieces hpieces
              rw [Sink.writeEach_eq, hpieces]
  · intro signature
    exact dryRun_ne_unsupportedType catalog config sink disk signature
  · intro path disk' hcheck hother
    -- the names are the same, so both end as they resolve
    have hdone := dryRun_of_passing catalog hcheck sink disk
    have hagain := dryRun_of_passing catalog hother sink disk'
    exact Prod.ext_iff.1 (hagain.trans hdone.symm)

/-- A plan of 203 bytes, for a field without a TypeScript type. -/
example :
    let map : Model := ⟨"Map", [⟨"A", .ofText "complex128", none⟩]⟩
    [202, 203, 204].map
        (fun n => (execute [map] ⟨["Map"], none⟩ true ⟨some n, true, []⟩ .blank).outcome)
      = [.error (.serialization none), .error (.io none), .ok none] := by
  decide +kernel

end Execution

end Typescribe
