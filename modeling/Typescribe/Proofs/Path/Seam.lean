/-
The seam between the directory of a path and its file name.

Which paths have no file name is read off what stands between their slashes:
the last part is two dots, or there is a dot and nothing else, or nothing
behind the root.  `parts` says what counts without the recursion that finds
the components.

Where there is a file name, the directory has no segment at its end that does
not count, so that joining puts one slash between the two and the joined path
is made of the segments of the directory and the name (`join_parent_eq`).
Cutting it again gives the same directory back, as a text.
-/
import Typescribe.Proofs.Path

namespace Typescribe.Path

/-! ## Parts -/

/-- What stands between the slashes of a path, without the empty parts and the
dots, but for a dot that a relative path starts with. -/
def parts (path : Text) : List Text :=
  (if isAbsolute path = false ∧ (path.splitOn '/').head? = some ['.'] then [['.']] else [])
    ++ (path.splitOn '/').filter fun s => s ≠ [] ∧ s ≠ ['.']

theorem counts_eq : counts false = fun s => decide (s ≠ [] ∧ s ≠ ['.']) := by
  funext s
  simp [counts]

/-- Behind the first segment a dot never counts. -/
theorem significant_eq_filter : ∀ segs : List Text,
    significant false segs = segs.filter (counts false)
  | [] => rfl
  | s :: more => by rw [significant, significant_eq_filter more, List.filter_cons]

/-- A dot counts as the first segment of a relative path. -/
theorem significant_first (s : Text) (more : List Text) :
    significant true (s :: more)
      = (if s = ['.'] then [['.']] else []) ++ (s :: more).filter (counts false) := by
  rw [significant, significant_eq_filter, List.filter_cons]
  by_cases hdot : s = ['.']
  · subst hdot
    rfl
  · have hcounts : counts true s = counts false s := by
      simp [counts, hdot]
    rw [hcounts, if_neg hdot, List.nil_append]

/-- **The components of a path are its parts.** -/
theorem components_eq_parts (path : Text) : components path = parts path := by
  rw [parts, ← counts_eq]
  cases path with
  | nil => rfl
  | cons c rest =>
      rw [components, segments]
      by_cases hc : c = '/'
      · -- The root stands for an empty first segment, which does not count.
        subst hc
        have hsplit : ('/' :: rest).splitOn '/' = [] :: rest.splitOn '/' :=
          List.splitOn_append_cons_self [] rest
        have hnoDot : ¬ (isAbsolute ('/' :: rest) = false ∧
            ([] :: rest.splitOn '/').head? = some ['.']) := fun h => Bool.false_ne_true h.1.symm
        rw [hsplit, if_neg hnoDot, List.nil_append]
        show significant false (Text.splitAll '/' rest) = _
        rw [significant_eq_filter, Text.splitAll_eq_splitOn]
        exact (List.filter_cons_of_neg Bool.false_ne_true).symm
      · have hrelative : isAbsolute (c :: rest) = false := by
          rw [isAbsolute_cons]
          exact decide_eq_false hc
        rw [hrelative, if_neg Bool.false_ne_true, Text.splitAll_eq_splitOn]
        cases hsegs : (c :: rest).splitOn '/' with
        | nil => exact absurd hsegs (List.splitOn_ne_nil '/' _)
        | cons s more =>
            refine (significant_first s more).trans ?_
            simp only [List.head?_cons, Option.some_inj, true_and]

/-! ## Paths without a file name -/

/-- The last part is no name: it is two dots or a dot that stands alone,
or there is nothing behind the root. -/
inductive Nameless (path : Text) : Prop
  | up : (parts path).getLast? = some ['.', '.'] → Nameless path
  | here : parts path = [['.']] → Nameless path
  | root : isAbsolute path = true → parts path = [] → Nameless path

/-- A relative path that is not empty has a part. -/
theorem parts_ne_nil {path : Text} (hne : path ≠ []) (hrelative : isAbsolute path = false) :
    parts path ≠ [] := by
  rw [← components_eq_parts]
  cases path with
  | nil => exact absurd rfl hne
  | cons c rest =>
      have hc : c ≠ '/' := by
        intro hc
        rw [isAbsolute_cons, hc] at hrelative
        cases hrelative
      rw [components, segments, hrelative, if_neg Bool.false_ne_true, Text.splitAll, if_neg hc]
      -- The first segment starts with `c`, so that it counts.
      cases Text.splitAll '/' rest with
      | nil => exact List.cons_ne_nil [c] []
      | cons piece more => exact List.cons_ne_nil (c :: piece) _

/-- A dot is the last part only if it is the only one. -/
theorem parts_eq_dot {path : Text} (h : (parts path).getLast? = some ['.']) :
    parts path = [['.']] := by
  rw [parts] at h ⊢
  generalize hkept : (path.splitOn '/').filter (fun s => s ≠ [] ∧ s ≠ ['.']) = kept at h ⊢
  rcases List.eq_nil_or_concat kept with rfl | ⟨front, last, rfl⟩
  · rw [List.append_nil] at h ⊢
    split at h
    · next hfirst => exact if_pos hfirst
    · cases h
  · have hdot : last = ['.'] := by
      rw [List.concat_eq_append, ← List.append_assoc, List.getLast?_concat] at h
      exact Option.some_inj.1 h
    have hmem : last ∈ (path.splitOn '/').filter (fun s => s ≠ [] ∧ s ≠ ['.']) := by
      rw [hkept, List.concat_eq_append]
      exact List.mem_concat_self
    exact absurd hdot (of_decide_eq_true (List.mem_filter.1 hmem).2).2

/-- **A path has no file name exactly when its last part is no name.** -/
theorem fileName?_eq_none_iff {path : Text} (hne : path ≠ []) :
    fileName? path = none ↔ Nameless path := by
  rw [fileName?, components_eq_parts]
  constructor
  · intro h
    cases hlast : (parts path).getLast? with
    | none =>
        have hnil : parts path = [] := List.getLast?_eq_none_iff.1 hlast
        cases habs : isAbsolute path with
        | true => exact .root habs hnil
        | false => exact absurd hnil (parts_ne_nil hne habs)
    | some last =>
        rw [hlast] at h
        have hname : isName last ≠ true := Option.filter_eq_none_iff.1 h last rfl
        by_cases hdot : last = ['.']
        · exact .here (parts_eq_dot (hdot ▸ hlast))
        · by_cases hup : last = ['.', '.']
          · exact .up (hup ▸ hlast)
          · refine absurd ?_ hname
            simp [isName, hdot, hup]
  · intro h
    cases h with
    | up hlast => rw [hlast]; rfl
    | here hdot => rw [hdot]; rfl
    | root _ hnil => rw [hnil]; rfl

example : Nameless "a/..//." ∧ Nameless "./" ∧ Nameless "//." :=
  ⟨.up rfl, .here rfl, .root rfl rfl⟩

/-! ## The segments of a directory -/

/-- What is cut off is cut off at once. -/
theorem upToLast_upToLast : ∀ (first : Bool) (segs : List Text),
    upToLast first (upToLast first segs) = upToLast first segs
  | _, [] => rfl
  | first, s :: more => by
      have ih := upToLast_upToLast false more
      rw [upToLast]
      cases hkept : upToLast false more with
      | nil =>
          cases hs : counts first s with
          | true => exact if_pos hs
          | false => rfl
      | cons t kept =>
          rw [hkept] at ih
          show upToLast first (s :: t :: kept) = s :: t :: kept
          rw [upToLast, ih]

/-- Nothing is cut off behind a segment that counts. -/
theorem upToLast_concat {name : Text} (h : counts false name = true) : ∀ (first : Bool)
    (segs : List Text), upToLast first (segs ++ [name]) = segs ++ [name]
  | first, [] => if_pos (counts_of_later h first)
  | first, s :: segs => by
      rw [List.cons_append, upToLast, upToLast_concat h false segs]
      cases hkept : segs ++ [name] with
      | nil => exact absurd hkept (List.append_ne_nil_of_right_ne_nil segs (List.cons_ne_nil name []))
      | cons t kept => rfl

/-- The last of the segments that are kept is not empty. -/
theorem ne_nil_of_getLast?_upToLast : ∀ {first : Bool} {segs : List Text} {last : Text},
    (upToLast first segs).getLast? = some last → last ≠ []
  | _, [], _, h => nomatch h
  | first, s :: more, last, h => by
      rw [upToLast] at h
      cases hkept : upToLast false more with
      | nil =>
          rw [hkept] at h
          cases hs : counts first s with
          | false =>
              rw [hs] at h
              cases h
          | true =>
              rw [hs] at h
              obtain rfl : s = last := Option.some_inj.1 h
              rintro rfl
              cases hs
      | cons t kept =>
          rw [hkept] at h
          have hlast : (upToLast false more).getLast? = some last := by
            rw [hkept]
            exact List.getLast?_cons_cons.symm.trans h
          exact ne_nil_of_getLast?_upToLast hlast

/-- A further segment is put behind a slash, if there are segments before it. -/
theorem joinSegments_concat (name : Text) : ∀ {segs : List Text}, segs ≠ [] →
    joinSegments (segs ++ [name]) = joinSegments segs ++ '/' :: name
  | [], h => absurd rfl h
  | [s], _ => rfl
  | s :: t :: segs, _ => by
      have ih : joinSegments (t :: segs ++ [name]) = joinSegments (t :: segs) ++ '/' :: name :=
        joinSegments_concat name (List.cons_ne_nil t segs)
      show s ++ '/' :: joinSegments (t :: segs ++ [name]) = _
      rw [ih]
      exact (List.append_assoc s ('/' :: joinSegments (t :: segs)) ('/' :: name)).symm

/-- Joined segments end in the last of them. -/
theorem exists_append_joinSegments (last : Text) (front : List Text) :
    ∃ before, joinSegments (front ++ [last]) = before ++ last := by
  by_cases hfront : front = []
  · subst hfront
    exact ⟨[], rfl⟩
  · refine ⟨joinSegments front ++ ['/'], ?_⟩
    rw [joinSegments_concat last hfront, List.append_assoc, List.singleton_append]

/-- The directory of a path ends in a slash only if it is the root. -/
theorem exists_end_of_parent {path : Text} (h : directorySegments path ≠ []) :
    ∃ before c, parent path = before ++ [c] ∧ c ≠ '/' := by
  obtain ⟨front, last, hlast⟩ := (List.eq_nil_or_concat (directorySegments path)).resolve_left h
  rw [List.concat_eq_append] at hlast
  obtain ⟨before, hbefore⟩ := exists_append_joinSegments last front
  have hne : last ≠ [] := by
    have hend : (directorySegments path).getLast? = some last := by
      rw [hlast, List.getLast?_concat]
    exact ne_nil_of_getLast?_upToLast hend
  have hslash : '/' ∉ last := by
    have hmem : last ∈ directorySegments path := by
      rw [hlast]
      exact List.mem_append_right front (List.mem_singleton_self last)
    exact not_mem_of_mem_segments ((directorySegments_isPrefix path).subset hmem)
  obtain ⟨start, c, rfl⟩ := (List.eq_nil_or_concat last).resolve_left hne
  rw [List.concat_eq_append] at hslash hbefore hlast
  refine ⟨fromRoot (isAbsolute path) (before ++ start), c, ?_, ?_⟩
  · rw [parent_eq, hlast, hbefore, ← List.append_assoc, fromRoot_append]
  · rintro rfl
    exact hslash (List.mem_append_right start (List.mem_singleton_self _))

/-! ## Cutting what was joined -/

/-- A directory and a name are joined into the segments of the directory and
the name. -/
theorem join_parent_eq (path name : Text) :
    join (parent path) name
      = fromRoot (isAbsolute path) (joinSegments (directorySegments path ++ [name])) := by
  rw [join]
  by_cases hsegs : directorySegments path = []
  · rw [parent_eq, hsegs]
    cases isAbsolute path with
    | true => rfl
    | false => rfl
  · obtain ⟨before, c, hparent, hc⟩ := exists_end_of_parent hsegs
    have hnotNil : parent path ≠ [] := by
      rw [hparent]
      exact List.append_ne_nil_of_right_ne_nil before (List.cons_ne_nil c [])
    have hnotSlash : (parent path).getLast? ≠ some '/' := by
      rw [hparent, List.getLast?_concat]
      exact fun hlast => hc (Option.some_inj.1 hlast)
    rw [if_neg hnotNil, if_neg hnotSlash, parent_eq, joinSegments_concat name hsegs,
      fromRoot_append]

/-- The segments of the joined path. -/
theorem segments_join_parent {path name : Text} (h : fileName? path = some name) :
    segments (join (parent path) name) = directorySegments path ++ [name] := by
  rw [segments_fromRoot (join_parent_eq path name) (components_join_parent h).2]
  refine splitAll_joinSegments (List.append_ne_nil_of_right_ne_nil _ (List.cons_ne_nil name [])) ?_
  intro s hs
  rcases List.mem_append.1 hs with hs | hs
  · exact not_mem_of_mem_segments ((directorySegments_isPrefix path).subset hs)
  · obtain rfl := List.mem_singleton.1 hs
    exact (isSegment_of_fileName? h).slash

/-- **Cutting a path that was joined gives the same directory**, as a text. -/
theorem parent_join_parent {path name : Text} (h : fileName? path = some name) :
    parent (join (parent path) name) = parent path := by
  have hsegs : directorySegments (join (parent path) name) = directorySegments path := by
    rw [directorySegments, segments_join_parent h, (components_join_parent h).2,
      upToLast_concat (isSegment_of_fileName? h).counts, List.dropLast_concat]
    exact upToLast_upToLast _ _
  rw [parent_eq, hsegs, (components_join_parent h).2, ← parent_eq]

/-- The joined path has the parts of the path. -/
theorem parts_join_parent {path name : Text} (h : fileName? path = some name) :
    parts (join (parent path) name) = parts path := by
  rw [← components_eq_parts, ← components_eq_parts, (components_join_parent h).1]

theorem parts_parent (path : Text) : parts (parent path) = (parts path).dropLast := by
  rw [← components_eq_parts, ← components_eq_parts, components_parent]

end Typescribe.Path
