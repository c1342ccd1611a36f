/-
What writing a file does to a disk.

Directories are made one after the other, so that an obstacle may leave some
of them behind; `Grows` says that nothing else was changed.  The file itself
is put in one step: `Saved` says where it is afterwards and that `Grows` holds
of all other places.  Nothing here depends on which places the system refuses:
a refusal is an obstacle like any other.

The place of a file is found by walking through directories.  Putting a file
where no directory was takes none away, hence a path still leads to the file
once it is written.
-/
import Typescribe.Disk
import Typescribe.Proofs.Path

namespace Typescribe.Disk

/-! ## Putting -/

theorem find?_put_self (d : Disk) {place : Place} (h : place ≠ []) (entry : Entry) :
    (d.put place entry).find? place = some entry := by
  have hfirst : (d.put place entry).entries.find? (fun e => e.1 = place) = some (place, entry) :=
    List.find?_cons_of_pos (decide_eq_true rfl)
  rw [find?, if_neg h, hfirst]
  rfl

theorem find?_put_of_ne (d : Disk) {place other : Place} (h : other ≠ place) (entry : Entry) :
    (d.put place entry).find? other = d.find? other := by
  have hrest : (d.put place entry).entries.find? (fun e => e.1 = other)
      = d.entries.find? (fun e => e.1 = other) := by
    refine (List.find?_cons_of_neg fun he => h (of_decide_eq_true he).symm).trans ?_
    rw [List.find?_filter]
    congr 1
    funext e
    by_cases he : e.1 = other
    · simp [he, h]
    · simp [he]
  rw [find?, find?, hrest]

/-! ## Growing -/

/-- A place is as it was, or one of `places` at which there is a directory now
and was nothing before. -/
def KeptOrMade (before after : Disk) (places : List Place) (place : Place) : Prop :=
  after.find? place = before.find? place ∨
    (place ∈ places ∧ before.find? place = none ∧ after.find? place = some .directory)

/-- Nothing but directories was added, and those at some of `places`. -/
structure Grows (before after : Disk) (places : List Place) : Prop where
  working : after.working = before.working
  refuses : after.refuses = before.refuses
  entry : ∀ place, KeptOrMade before after places place

theorem Grows.refl (d : Disk) (places : List Place) : d.Grows d places :=
  ⟨rfl, rfl, fun _ => .inl rfl⟩

theorem Grows.mono {before after : Disk} {few places : List Place} (h : before.Grows after few)
    (hsub : few ⊆ places) : before.Grows after places := by
  refine ⟨h.working, h.refuses, fun place => ?_⟩
  rcases h.entry place with hkept | ⟨hmem, hmade⟩
  · exact .inl hkept
  · exact .inr ⟨hsub hmem, hmade⟩

theorem Grows.trans {d d' d'' : Disk} {places : List Place} (h : d.Grows d' places)
    (h' : d'.Grows d'' places) : d.Grows d'' places := by
  refine ⟨h'.working.trans h.working, h'.refuses.trans h.refuses, fun place => ?_⟩
  rcases h'.entry place with hkept' | ⟨hmem, hnone, hmade⟩
  · rcases h.entry place with hkept | ⟨hmem, hnone, hmade⟩
    · exact .inl (hkept'.trans hkept)
    · exact .inr ⟨hmem, hnone, hkept'.trans hmade⟩
  · rcases h.entry place with hkept | ⟨-, -, hdir⟩
    · exact .inr ⟨hmem, hkept.symm.trans hnone, hmade⟩
    · rw [hnone] at hdir
      cases hdir

/-- No file is created, removed or changed. -/
theorem Grows.file?_eq {before after : Disk} {places : List Place} (h : before.Grows after places)
    (place : Place) : after.file? place = before.file? place := by
  rw [file?, file?]
  rcases h.entry place with hkept | ⟨-, hnone, hmade⟩
  · rw [hkept]
  · rw [hnone, hmade]

/-- A directory put where nothing was. -/
theorem grows_put {d : Disk} {place : Place} (hne : place ≠ []) (h : d.find? place = none) :
    d.Grows (d.put place .directory) [place] := by
  refine ⟨rfl, rfl, fun other => ?_⟩
  by_cases he : other = place
  · subst he
    exact .inr ⟨List.mem_singleton_self _, h, d.find?_put_self hne .directory⟩
  · exact .inl (d.find?_put_of_ne he .directory)

/-- The places that components lead to, one after the other; up and in place
are not counted. -/
def passed (here : Place) : List Text → List Place
  | [] => []
  | c :: more =>
    if c = ['.'] then passed here more
    else if c = ['.', '.'] then passed here.tail more
    else (c :: here) :: passed (c :: here) more

/-- Making directories along a path adds directories along it, whether it
comes to its end or not. -/
theorem makeAlong_grows : ∀ (comps : List Text) (d : Disk) (here : Place),
    d.Grows (d.makeAlong here comps).2 (passed here comps)
  | [], d, _ => .refl d _
  | c :: more, d, here => by
      rw [makeAlong, passed]
      by_cases hdot : c = ['.']
      · rw [if_pos hdot, if_pos hdot]
        exact makeAlong_grows more d here
      · rw [if_neg hdot, if_neg hdot]
        by_cases hup : c = ['.', '.']
        · rw [if_pos hup, if_pos hup]
          exact makeAlong_grows more d here.tail
        · rw [if_neg hup, if_neg hup]
          by_cases hstop : (!nameFits c || d.refuses (c :: here)) = true
          · rw [if_pos hstop]
            exact .refl d _
          · rw [if_neg hstop]
            have hrest : ∀ d' : Disk, d'.Grows (d'.makeAlong (c :: here) more).2
                ((c :: here) :: passed (c :: here) more) := fun d' =>
              (makeAlong_grows more d' (c :: here)).mono (List.subset_cons_self _ _)
            cases hfind : d.find? (c :: here) with
            | none =>
                have hput : d.Grows (d.put (c :: here) .directory)
                    ((c :: here) :: passed (c :: here) more) :=
                  (grows_put (List.cons_ne_nil c here) hfind).mono
                    (List.cons_subset_cons _ (List.nil_subset _))
                exact hput.trans (hrest _)
            | some entry =>
                cases entry with
                | directory => exact hrest d
                | file content => exact .refl d _

/-! ## Where a path leads -/

/-- The place that a path leads to: through directories that are there, and
then to its file name. -/
def target? (d : Disk) (path : Text) : Option Place :=
  (Path.fileName? path).bind fun name =>
    (d.walk (d.start path) (Path.components path).dropLast).map (name :: ·)

/-- The places of the directories that a path leads through. -/
def along (d : Disk) (path : Text) : List Place :=
  passed (d.start path) (Path.components path).dropLast

/-- Where a path leads is a matter of its components and of where it starts. -/
theorem target?_congr {d : Disk} {path path' : Text}
    (hcomps : Path.components path = Path.components path')
    (habs : Path.isAbsolute path = Path.isAbsolute path') : d.target? path = d.target? path' := by
  rw [target?, target?, Path.fileName?, Path.fileName?, start, start, hcomps, habs]

theorem along_congr {d : Disk} {path path' : Text}
    (hcomps : Path.components path = Path.components path')
    (habs : Path.isAbsolute path = Path.isAbsolute path') : d.along path = d.along path' := by
  rw [along, along, start, start, hcomps, habs]

/-- A file is looked for where its path leads to. -/
theorem target?_of_filePlace? {d : Disk} {path : Text} {place : Place}
    (h : d.filePlace? path = some place) : d.target? path = some place := by
  rw [filePlace?] at h
  rw [target?]
  cases hname : Path.fileName? path with
  | none =>
      rw [hname] at h
      cases h
  | some name =>
      rw [hname] at h
      by_cases hfits : (pathFits path && nameFits name) = true
      · exact (if_pos hfits).symm.trans h
      · exact absurd ((if_neg hfits).symm.trans h) nofun

theorem ne_nil_of_target? {d : Disk} {path : Text} {place : Place}
    (h : d.target? path = some place) : place ≠ [] := by
  obtain ⟨name, -, hwalk⟩ := Option.bind_eq_some_iff.1 h
  obtain ⟨directory, -, rfl⟩ := Option.map_eq_some_iff.1 hwalk
  exact List.cons_ne_nil name directory

/-- A file where no directory was is in nobody's way. -/
theorem walk_put {d : Disk} {place : Place} (h : d.find? place ≠ some .directory)
    (content : List UInt8) : ∀ (comps : List Text) (here : Place),
    (d.put place (.file content)).walk here comps = d.walk here comps
  | [], _ => rfl
  | c :: more, here => by
      have hfind : (d.put place (.file content)).find? (c :: here) = some .directory ↔
          d.find? (c :: here) = some .directory := by
        by_cases hp : c :: here = place
        · subst hp
          rw [find?_put_self d (List.cons_ne_nil c here)]
          exact ⟨nofun, fun hd => absurd hd h⟩
        · rw [find?_put_of_ne d hp]
      have hopen : (d.put place (.file content)).find? (c :: here) = some .directory ∧
          (d.put place (.file content)).refuses (c :: here) = false ↔
          d.find? (c :: here) = some .directory ∧ d.refuses (c :: here) = false :=
        and_congr_left fun _ => hfind
      rw [walk, walk, walk_put h content more, walk_put h content more, walk_put h content more]
      simp only [hopen]

/-! ## Saving -/

/-- A file was saved: its path leads to it, it has the content, and elsewhere
at most directories were added that the path leads through. -/
def Saved (before after : Disk) (path : Text) (content : List UInt8) : Prop :=
  ∃ place, after.target? path = some place ∧ after.find? place = some (.file content) ∧
    ∀ other, other ≠ place → KeptOrMade before after (before.along path) other

theorem Saved.congr {before after : Disk} {path path' : Text} {content : List UInt8}
    (hcomps : Path.components path = Path.components path')
    (habs : Path.isAbsolute path = Path.isAbsolute path')
    (h : before.Saved after path content) : before.Saved after path' content := by
  obtain ⟨place, htarget, hfind, hother⟩ := h
  rw [target?_congr hcomps habs] at htarget
  rw [along_congr hcomps habs] at hother
  exact ⟨place, htarget, hfind, hother⟩

/-- The directory of a path starts where the path does. -/
theorem start_parent (d : Disk) (path : Text) : d.start (Path.parent path) = d.start path := by
  rw [start, start, Path.isAbsolute_parent]

/-- Making the directory of a path makes directories that the path leads
through. -/
theorem makeDirectories_grows (d : Disk) (path : Text) :
    d.Grows (d.makeDirectories (Path.parent path)).2 (d.along path) := by
  rw [makeDirectories]
  by_cases hempty : Path.parent path = []
  · rw [if_pos hempty]
    exact .refl d _
  · rw [if_neg hempty]
    by_cases hfits : pathFits (Path.parent path) = true
    · rw [if_pos hfits, start_parent, Path.components_parent]
      exact makeAlong_grows _ d _
    · rw [if_neg hfits]
      exact .refl d _

/-- A file that cannot be written leaves the disk as it is; otherwise it is
put where its path leads to, which was no directory. -/
theorem writeFile_cases (d : Disk) (path : Text) (content : List UInt8) :
    d.writeFile path content = (false, d) ∨
      ∃ place, d.target? path = some place ∧ d.find? place ≠ some .directory ∧
        d.writeFile path content = (true, d.put place (.file content)) := by
  rw [writeFile]
  cases hplace : d.filePlace? path with
  | none => exact .inl rfl
  | some place =>
      by_cases hstop : d.find? place = some .directory ∨ d.refuses place = true
      · exact .inl (if_pos hstop)
      · exact .inr ⟨place, target?_of_filePlace? hplace, (not_or.1 hstop).1, if_neg hstop⟩

/-- Saving either fails and adds directories at most, or the file is saved. -/
theorem save_cases (d : Disk) (path : Text) (content : List UInt8) :
    (∃ after, d.save path content = (false, after) ∧ d.Grows after (d.along path)) ∨
      ∃ after, d.save path content = (true, after) ∧ d.Saved after path content := by
  have hgrows := d.makeDirectories_grows path
  rw [save]
  generalize d.makeDirectories (Path.parent path) = result at hgrows ⊢
  obtain ⟨made, between⟩ := result
  cases made with
  | false => exact .inl ⟨between, rfl, hgrows⟩
  | true =>
      rcases between.writeFile_cases path content with hfail | ⟨place, htarget, hdir, hdone⟩
      · exact .inl ⟨between, hfail, hgrows⟩
      · refine .inr ⟨_, hdone, place, ?_, ?_, fun other hne => ?_⟩
        · rw [← htarget, target?, target?]
          simp only [walk_put hdir]
          rfl
        · exact between.find?_put_self (ne_nil_of_target? htarget) _
        · rw [KeptOrMade, between.find?_put_of_ne hne]
          exact hgrows.entry other

/-- Neither a file in the way nor a refusal takes back what was made before
it. -/
example :
    let made : List Text := ["made", "work"]
    let taken := blank.put ["taken", "work"] (.file [])
    let refusing := { blank with refuses := fun place => place = "lost".toList :: made }
    [taken.save "made/../taken/lost" [], refusing.save "made/lost" []].all fun (done, after) =>
      !done && taken.find? made = none && after.find? made = some .directory := by
  decide

end Typescribe.Disk
