/-
The output path, cut and joined again.

An execution with an output path goes the way of the one that streams, up to
the file: both end with the same fault, or both generate everything
(`execute_against_streamed`).  Only then is the path cut.  One without a file
name is refused there; otherwise what is saved is saved at the joined path,
which has the components of the path that was configured, and its directory is
made first.
-/
import Typescribe.Proofs.Disk.Aim
import Typescribe.Proofs.Execution.AllowList
import Typescribe.Proofs.Path.Seam

namespace Typescribe.Execution

/-- A path that has text without U+0000 in it does not change what the check
of a configuration says. -/
theorem check_of_path {path : Text} (hne : path ≠ []) (hnul : '\x00' ∉ path) (names : List Text) :
    Config.check ⟨names, some path⟩ = Config.check ⟨names, none⟩ := by
  rw [Config.check, Config.check]
  cases AllowList.check names with
  | error fault => rfl
  | ok _ =>
      show requirePath Config.pathField path = .ok ()
      rw [requirePath, if_neg hne, if_neg hnul]

/-- Models that were generated are saved, and what becomes of them is what
becomes of the file. -/
theorem toFile_of_report {models : List Model} {report : Report}
    (h : (Generation.run models .unbounded).outcome = .ok report) (path : Text) (sink : Sink)
    (disk : Disk) :
    let saved := saveAt path (Generation.run models .unbounded).sink.accepted disk
    (toFile models path sink disk).outcome = saved.1.map (fun _ => some report) ∧
      (toFile models path sink disk).disk = saved.2 := by
  intro saved
  have hsaved : saveAt path (Generation.run models .unbounded).sink.accepted disk = saved := rfl
  rw [toFile, h]
  simp only [hsaved]
  clear_value saved
  obtain ⟨result, after⟩ := saved
  cases result with
  | error fault => exact ⟨rfl, rfl⟩
  | ok _ => exact ⟨rfl, rfl⟩

/-- **The file comes last.**  With a path an execution keeps the fault of the
one that streams; otherwise it saves what that one streams. -/
theorem execute_against_streamed {path : Text} (hne : path ≠ []) (hnul : '\x00' ∉ path)
    (catalog : Catalog) (names : List Text) (sink : Sink) (disk : Disk) :
    let done := execute catalog ⟨names, some path⟩ false sink disk
    let streamed := execute catalog ⟨names, none⟩ false .unbounded disk
    (∃ fault, streamed.outcome = .error fault ∧ done.outcome = .error fault ∧ done.disk = disk) ∨
      ∃ report, streamed.outcome = .ok report ∧
        done.outcome = (saveAt path streamed.sink.accepted disk).1.map (fun _ => report) ∧
        done.disk = (saveAt path streamed.sink.accepted disk).2 := by
  intro done streamed
  have hsame := check_of_path hne hnul names
  cases hpassed : Config.check ⟨names, none⟩ with
  | error fault =>
      have hstreamed : streamed = ⟨.error fault, .unbounded, disk, []⟩ :=
        execute_eq_of_failed_check hpassed false .unbounded disk
      have hdone : done = ⟨.error fault, sink, disk, []⟩ :=
        execute_eq_of_failed_check (hsame.trans hpassed) false sink disk
      rw [hstreamed, hdone]
      exact .inl ⟨fault, rfl, rfl, rfl⟩
  | ok _ =>
      have hcheck : Config.check ⟨names, some path⟩ = .ok () := hsame.trans hpassed
      cases hresolve : catalog.resolve names with
      | error fault =>
          have hstreamed : streamed.outcome = .error fault :=
            execute_of_unresolved hpassed hresolve false .unbounded disk
          have hdone : done = ⟨.error fault, sink, disk, [configEvent ⟨names, some path⟩]⟩ :=
            execute_eq_of_unresolved hcheck hresolve false sink disk
          rw [hdone]
          exact .inl ⟨fault, hstreamed, rfl, rfl⟩
      | ok models =>
          obtain ⟨hstreamed, hbytes⟩ := execute_stream disk hcheck hresolve
          have hdone : done = { toFile models path sink disk with
              events := configEvent ⟨names, some path⟩ :: (toFile models path sink disk).events } :=
            execute_eq_of_resolved hcheck hresolve false sink disk
          rw [hstreamed, hbytes, hdone]
          cases hrun : (Generation.run models .unbounded).outcome with
          | error fault =>
              rw [toFile, hrun]
              exact .inl ⟨fault, rfl, rfl, rfl⟩
          | ok report => exact .inr ⟨some report, rfl, toFile_of_report hrun path sink disk⟩

/-- A file is saved in the directory of its path, which is made first; the
system refuses where that does not work or the place does not admit a file. -/
theorem saveAt_of_fileName? {path name : Text} (h : Path.fileName? path = some name)
    (content : List UInt8) (disk : Disk) :
    let target := Path.join (Path.parent path) name
    let made := disk.makeDirectories (Path.parent target)
    saveAt path content disk
      = if made.1 = true ∧ made.2.Admits target name then
          (.ok (), made.2.put (disk.aim path) (.file content))
        else (.error (.io none), made.2) := by
  intro target made
  obtain ⟨hcomps, habs⟩ := Path.components_join_parent h
  have hsave := Disk.save_of_fileName? (Path.fileName?_join_parent h) disk content
  rw [Disk.aim_congr hcomps habs] at hsave
  rw [saveAt, h]
  simp only [hsave]
  by_cases hadmits : made.1 = true ∧ made.2.Admits target name
  · rw [if_pos hadmits, if_pos hadmits]
  · rw [if_neg hadmits, if_neg hadmits]

/-- **The file is written where its path leads.**  An execution with an output
path ends with the fault of the one that streams, if that has one.  Behind it,
a path whose last part is no name is refused before the disk is touched, and
no other path is, since all others have a file name.  They are cut and joined
again: the joined path starts where the path does, has the same parts, and
falls into the same directory and name.  That directory is made first, and the
path leads to it then; the file is put into it, at the place that the path as
configured names, with the bytes of the execution that streams. -/
theorem execute_writes_where_path_leads {path : Text} (hne : path ≠ []) (hnul : '\x00' ∉ path)
    (catalog : Catalog) (names : List Text) (sink : Sink) (disk : Disk) :
    let done := execute catalog ⟨names, some path⟩ false sink disk
    let streamed := execute catalog ⟨names, none⟩ false .unbounded disk
    (Path.Nameless path ∧ Path.fileName? path = none ∧ done.disk = disk ∧
      match streamed.outcome with
      | .error fault => done.outcome = .error fault
      | .ok _ =>
        done.outcome = .error (.invalidValue "output.path" path "Path has no file name")) ∨
    ¬ Path.Nameless path ∧ ∃ name, Path.fileName? path = some name ∧
      let target := Path.join (Path.parent path) name
      let directory := Path.parent target
      Path.isAbsolute target = Path.isAbsolute path ∧ Path.parts target = Path.parts path ∧
        Path.fileName? target = some name ∧ directory = Path.parent path ∧
        Path.isAbsolute directory = Path.isAbsolute path ∧
        Path.parts directory = (Path.parts path).dropLast ∧
        match streamed.outcome with
        | .error fault => done.outcome = .error fault ∧ done.disk = disk
        | .ok report =>
          let made := disk.makeDirectories directory
          (made.1 = true → made.2.walk (disk.start directory) (Path.components directory)
            = some (disk.aim directory)) ∧
          disk.aim path = name :: disk.aim directory ∧
          (made.1 = true ∧ made.2.Admits target name →
            done.outcome = .ok report ∧
              done.disk = made.2.put (disk.aim path) (.file streamed.sink.accepted)) ∧
          (¬ (made.1 = true ∧ made.2.Admits target name) →
            done.outcome = .error (.io none) ∧ done.disk = made.2) := by
  intro done streamed
  have hcases := execute_against_streamed hne hnul catalog names sink disk
  cases hname : Path.fileName? path with
  | none =>
      refine .inl ⟨(Path.fileName?_eq_none_iff hne).1 hname, rfl, ?_⟩
      rcases hcases with ⟨fault, hstreamed, houtcome, hdisk⟩ | ⟨report, hstreamed, houtcome, hdisk⟩
      · rw [hstreamed]
        exact ⟨hdisk, houtcome⟩
      · rw [saveAt, hname] at houtcome hdisk
        rw [hstreamed]
        exact ⟨hdisk, houtcome⟩
  | some name =>
      have hnamed : ¬ Path.Nameless path := by
        intro hnameless
        rw [(Path.fileName?_eq_none_iff hne).2 hnameless] at hname
        cases hname
      have hparent := Path.parent_join_parent hname
      refine .inr ⟨hnamed, name, rfl, ?_⟩
      intro target directory
      have hdirectory : directory = Path.parent path := hparent
      refine ⟨(Path.components_join_parent hname).2, Path.parts_join_parent hname,
        Path.fileName?_join_parent hname, hdirectory, ?_, ?_, ?_⟩
      · rw [hdirectory, Path.isAbsolute_parent]
      · rw [hdirectory, Path.parts_parent]
      · rcases hcases with
          ⟨fault, hstreamed, houtcome, hdisk⟩ | ⟨report, hstreamed, houtcome, hdisk⟩
        · rw [hstreamed]
          exact ⟨houtcome, hdisk⟩
        · rw [saveAt_of_fileName? hname] at houtcome hdisk
          rw [hstreamed]
          refine ⟨Disk.walk_of_makeDirectories, ?_, ?_, ?_⟩
          · rw [hdirectory]
            exact Disk.aim_of_fileName? hname disk
          · intro hadmits
            rw [if_pos hadmits] at houtcome hdisk
            exact ⟨houtcome, hdisk⟩
          · intro hrefused
            rw [if_neg hrefused] at houtcome hdisk
            exact ⟨houtcome, hdisk⟩

/-- Slashes and dots that do not count, a way up inside and a dot in front. -/
theorem execute_writes_where_path_leads_up :
    let path : Text := "./a//../b/./m.ts/."
    let catalog : Catalog := [⟨"Point2f", [⟨"X", .ofText "float64", none⟩]⟩]
    let place : List Text := ["m.ts", "b", "work"]
    let done := execute catalog ⟨["Point2f"], some path⟩ false .unbounded .blank
    path ≠ [] ∧ '\x00' ∉ path ∧
      Path.join (Path.parent path) "m.ts" = "./a//../b/m.ts" ∧
      Path.parts "./a//../b/m.ts" = Path.parts path ∧
      done.outcome = .ok (some ⟨1, 0, []⟩) ∧
      done.disk = (Disk.blank.makeDirectories "./a//../b").2.put place
        (.file (Utf8.encode "export type Point2f = \x7b\n\tX: number\n\x7d\n\n")) := by
  intro path catalog place done
  have hne : path ≠ [] := List.cons_ne_nil _ _
  have hnul : '\x00' ∉ path := by
    decide
  have hstreamed : (execute catalog ⟨["Point2f"], none⟩ false .unbounded .blank).outcome
      = .ok (some ⟨1, 0, []⟩) := by
    decide +kernel
  have hbytes : (execute catalog ⟨["Point2f"], none⟩ false .unbounded .blank).sink.accepted
      = Utf8.encode "export type Point2f = \x7b\n\tX: number\n\x7d\n\n" := by
    decide +kernel
  have htarget : Path.join (Path.parent path) "m.ts" = "./a//../b/m.ts" := rfl
  have hdirectory : Path.parent "./a//../b/m.ts" = "./a//../b" := rfl
  have haim : Disk.blank.aim path = place := rfl
  have hled : _ ∨ _ :=
    execute_writes_where_path_leads hne hnul catalog ["Point2f"] .unbounded .blank
  rw [hstreamed, hbytes, haim] at hled
  rcases hled with ⟨-, hnone, -⟩ | ⟨-, name, hname, -, hparts, -, -, -, -, -, -, hsaved, -⟩
  · cases hnone
  · obtain rfl : "m.ts" = name := Option.some_inj.1 hname
    rw [htarget] at hparts
    rw [htarget, hdirectory] at hsaved
    obtain ⟨houtcome, hdisk⟩ := hsaved (by decide +kernel)
    exact ⟨hne, hnul, htarget, hparts, houtcome, hdisk⟩

end Typescribe.Execution
