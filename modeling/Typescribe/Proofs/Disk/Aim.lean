/-
The place that a path names.

Components name a place by themselves, whatever stands on the disk (`lead`).
A walk goes no other way: it fails where there is no directory, and ends at
that place otherwise.  Directories that were made along a path stay while the
rest of them is made, so that they can be walked in the end
(`walk_of_makeAlong`); hence saving is making the directory of a path and
putting the file at the place that the path names, and no more than that
(`save_of_fileName?`).
-/
import Typescribe.Proofs.Disk

namespace Typescribe.Disk

/-! ## Where components lead -/

/-- Where components lead from a place, if there are directories all the
way. -/
def lead (here : Place) : List Text → Place
  | [] => here
  | c :: more =>
    if c = ['.'] then lead here more
    else if c = ['.', '.'] then lead here.tail more
    else lead (c :: here) more

/-- The place that a path names. -/
def aim (d : Disk) (path : Text) : Place := lead (d.start path) (Path.components path)

/-- A name leads one place further in. -/
theorem lead_concat {name : Text} (h : Path.isName name = true) : ∀ (comps : List Text)
    (here : Place), lead here (comps ++ [name]) = name :: lead here comps
  | [], here => by
      have hdot : name ≠ ['.'] := by
        rintro rfl
        cases h
      have hup : name ≠ ['.', '.'] := by
        rintro rfl
        cases h
      show lead here [name] = name :: here
      rw [lead, if_neg hdot, if_neg hup, lead]
  | c :: more, here => by
      rw [List.cons_append, lead, lead, lead_concat h more, lead_concat h more, lead_concat h more]
      by_cases hdot : c = ['.']
      · rw [if_pos hdot, if_pos hdot]
      · rw [if_neg hdot, if_neg hdot]
        by_cases hup : c = ['.', '.']
        · rw [if_pos hup, if_pos hup]
        · rw [if_neg hup, if_neg hup]

/-- A file stands in the directory of its path, under its name. -/
theorem aim_of_fileName? {path name : Text} (h : Path.fileName? path = some name) (d : Disk) :
    d.aim path = name :: d.aim (Path.parent path) := by
  rw [aim, aim, start_parent, Path.components_eq_concat h]
  exact lead_concat (Path.fileName?_eq_some_iff.1 h).2 _ _

/-- What a path names is a matter of its components and of where it starts. -/
theorem aim_congr {d : Disk} {path path' : Text}
    (hcomps : Path.components path = Path.components path')
    (habs : Path.isAbsolute path = Path.isAbsolute path') : d.aim path = d.aim path' := by
  rw [aim, aim, start, start, hcomps, habs]

/-! ## Walking what was made -/

theorem Grows.directory {before after : Disk} {places : List Place} (h : before.Grows after places)
    {place : Place} (hdir : before.find? place = some .directory) :
    after.find? place = some .directory := by
  rcases h.entry place with hkept | ⟨-, hnone, -⟩
  · exact hkept.trans hdir
  · rw [hdir] at hnone
    cases hnone

theorem Grows.start_eq {before after : Disk} {places : List Place} (h : before.Grows after places)
    (path : Text) : after.start path = before.start path := by
  rw [start, start, h.working]

/-- What a path names stays the same while directories are added. -/
theorem Grows.aim_eq {before after : Disk} {places : List Place} (h : before.Grows after places)
    (path : Text) : after.aim path = before.aim path := by
  rw [aim, aim, h.start_eq]

/-- Making directories goes on behind a name only if there is a directory that
the system lets pass. -/
theorem exists_of_makeAlong {c : Text} {more : List Text} {d made : Disk} {here : Place}
    (hdot : c ≠ ['.']) (hup : c ≠ ['.', '.']) (h : d.makeAlong here (c :: more) = (true, made)) :
    ∃ between : Disk, between.find? (c :: here) = some .directory ∧
      between.refuses (c :: here) = false ∧ between.makeAlong (c :: here) more = (true, made) := by
  rw [makeAlong, if_neg hdot, if_neg hup] at h
  by_cases hstop : (!nameFits c || d.refuses (c :: here)) = true
  · rw [if_pos hstop] at h
    cases h
  · rw [if_neg hstop] at h
    have hopen : d.refuses (c :: here) = false :=
      (Bool.or_eq_false_iff.1 (Bool.not_eq_true _ ▸ hstop)).2
    cases hfind : d.find? (c :: here) with
    | none =>
        rw [hfind] at h
        exact ⟨_, d.find?_put_self (List.cons_ne_nil c here) .directory, hopen, h⟩
    | some entry =>
        rw [hfind] at h
        cases entry with
        | directory => exact ⟨d, hfind, hopen, h⟩
        | file content => cases h

/-- Directories that were made along components can be walked along: each was
there before the rest was made, and nothing takes it away. -/
theorem walk_of_makeAlong : ∀ {comps : List Text} {d made : Disk} {here : Place},
    d.makeAlong here comps = (true, made) → made.walk here comps = some (lead here comps)
  | [], _, _, _, _ => rfl
  | c :: more, d, made, here, h => by
      rw [walk, lead]
      by_cases hdot : c = ['.']
      · rw [makeAlong, if_pos hdot] at h
        rw [if_pos hdot, if_pos hdot]
        exact walk_of_makeAlong h
      · rw [if_neg hdot, if_neg hdot]
        by_cases hup : c = ['.', '.']
        · rw [makeAlong, if_neg hdot, if_pos hup] at h
          rw [if_pos hup, if_pos hup]
          exact walk_of_makeAlong h
        · obtain ⟨between, hdir, hopen, hrest⟩ := exists_of_makeAlong hdot hup h
          have hgrows := makeAlong_grows more between (c :: here)
          rw [hrest] at hgrows
          have hpass : made.find? (c :: here) = some .directory ∧
              made.refuses (c :: here) = false :=
            ⟨hgrows.directory hdir, by rw [hgrows.refuses, hopen]⟩
          rw [if_neg hup, if_neg hup, if_pos hpass]
          exact walk_of_makeAlong hrest

/-- A directory that was made is where its path leads. -/
theorem walk_of_makeDirectories {d : Disk} {path : Text}
    (h : (d.makeDirectories path).1 = true) :
    (d.makeDirectories path).2.walk (d.start path) (Path.components path) = some (d.aim path) := by
  rw [makeDirectories] at h ⊢
  by_cases hempty : path = []
  · subst hempty
    rfl
  · rw [if_neg hempty] at h ⊢
    by_cases hfits : pathFits path = true
    · rw [if_pos hfits] at h ⊢
      exact walk_of_makeAlong (Prod.ext h rfl)
    · rw [if_neg hfits] at h
      cases h

/-- So a path leads to its directory, once that was made. -/
theorem walk_of_makeDirectories_parent {d : Disk} {path : Text}
    (h : (d.makeDirectories (Path.parent path)).1 = true) :
    (d.makeDirectories (Path.parent path)).2.walk (d.start path) (Path.components path).dropLast
      = some (d.aim (Path.parent path)) := by
  have hwalk := walk_of_makeDirectories h
  rw [start_parent, Path.components_parent] at hwalk
  exact hwalk

/-! ## The steps of saving -/

/-- A file of a path may be put at the place that the path names: path and
name are not too long, no directory is there, and the system does not refuse
it. -/
def Admits (d : Disk) (path name : Text) : Prop :=
  pathFits path = true ∧ nameFits name = true ∧ d.find? (d.aim path) ≠ some .directory ∧
    d.refuses (d.aim path) = false

instance (d : Disk) (path name : Text) : Decidable (d.Admits path name) :=
  inferInstanceAs (Decidable (_ ∧ _ ∧ _ ∧ _))

/-- With its directory in place, a file is put where its path names, or the
disk stays as it is. -/
theorem writeFile_of_walk {d : Disk} {path name : Text} (h : Path.fileName? path = some name)
    (hwalk : d.walk (d.start path) (Path.components path).dropLast
      = some (d.aim (Path.parent path))) (content : List UInt8) :
    d.writeFile path content
      = if d.Admits path name then (true, d.put (d.aim path) (.file content)) else (false, d) := by
  have haim := aim_of_fileName? h d
  rw [writeFile, filePlace?, h]
  simp only [hwalk, Option.map_some, ← haim]
  by_cases hfits : (pathFits path && nameFits name) = true
  · obtain ⟨hpath, hname⟩ := Bool.and_eq_true_iff.1 hfits
    rw [if_pos hfits]
    by_cases hstop : d.find? (d.aim path) = some .directory ∨ d.refuses (d.aim path) = true
    · have hnot : ¬ d.Admits path name := by
        rintro ⟨-, -, hdir, hopen⟩
        rcases hstop with hstop | hstop
        · exact hdir hstop
        · exact absurd (hopen.symm.trans hstop) Bool.false_ne_true
      exact (if_pos hstop).trans (if_neg hnot).symm
    · obtain ⟨hdir, hopen⟩ := not_or.1 hstop
      have hadmits : d.Admits path name := ⟨hpath, hname, hdir, Bool.not_eq_true _ ▸ hopen⟩
      exact (if_neg hstop).trans (if_pos hadmits).symm
  · have hnot : ¬ d.Admits path name := fun hadmits =>
      hfits (Bool.and_eq_true_iff.2 ⟨hadmits.1, hadmits.2.1⟩)
    rw [if_neg hfits, if_neg hnot]

/-- Saving makes the directory of the path, as far as it can, and then puts
the file where the path names, if that place admits it. -/
theorem save_of_fileName? {path name : Text} (h : Path.fileName? path = some name) (d : Disk)
    (content : List UInt8) :
    let made := d.makeDirectories (Path.parent path)
    d.save path content
      = if made.1 = true ∧ made.2.Admits path name then
          (true, made.2.put (d.aim path) (.file content))
        else (false, made.2) := by
  intro made
  have hgrows : d.Grows made.2 (d.along path) := d.makeDirectories_grows path
  rw [save]
  cases hmade : made.1 with
  | false =>
      have hpair : d.makeDirectories (Path.parent path) = (false, made.2) := Prod.ext hmade rfl
      rw [hpair, if_neg fun hboth => Bool.false_ne_true hboth.1]
  | true =>
      have hpair : d.makeDirectories (Path.parent path) = (true, made.2) := Prod.ext hmade rfl
      have hwalk : made.2.walk (made.2.start path) (Path.components path).dropLast
          = some (made.2.aim (Path.parent path)) := by
        rw [hgrows.start_eq, hgrows.aim_eq]
        exact walk_of_makeDirectories_parent hmade
      rw [hpair]
      refine (writeFile_of_walk h hwalk content).trans ?_
      rw [hgrows.aim_eq]
      simp only [true_and]

end Typescribe.Disk
