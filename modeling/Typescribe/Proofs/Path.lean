/-
Paths and their components.

A path is cut into the directory it lies in and its file name, and a file is
written at what joining the two gives.  The text may change by this, since
slashes and dots that do not count are lost; the components do not, nor does
a relative path become absolute or the other way round.

Segments are what `List.splitOn` gives and `List.intercalate` undoes, so that
the library's lemmas on these two can be used.
-/
import Typescribe.Path

namespace Typescribe

namespace Text

/-! ## Pieces -/

theorem splitAll_eq_splitOn (c : Char) : ∀ s : Text, splitAll c s = s.splitOn c
  | [] => rfl
  | d :: rest => by
      rw [splitAll, splitAll_eq_splitOn c rest, List.splitOn_cons_eq_if_modifyHead]
      by_cases hd : d = c
      · rw [if_pos hd, if_pos (beq_iff_eq.2 hd)]
      · rw [if_neg hd, if_neg (mt beq_iff_eq.1 hd)]
        cases hr : List.splitOn c rest with
        | nil => exact absurd hr (List.splitOn_ne_nil c rest)
        | cons piece more => rfl

/-- The character that a text is cut at is in none of the pieces. -/
theorem not_mem_of_mem_splitAll {c : Char} {piece : Text} : ∀ {s : Text},
    piece ∈ splitAll c s → c ∉ piece
  | [], h => by
      obtain rfl := List.mem_singleton.1 h
      exact List.not_mem_nil
  | d :: rest, h => by
      rw [splitAll] at h
      by_cases hd : d = c
      · rw [if_pos hd] at h
        rcases List.mem_cons.1 h with rfl | h
        · exact List.not_mem_nil
        · exact not_mem_of_mem_splitAll h
      · rw [if_neg hd] at h
        have hrest : ∀ other ∈ splitAll c rest, c ∉ other := fun _ => not_mem_of_mem_splitAll
        cases hr : splitAll c rest with
        | nil =>
            rw [hr] at h
            obtain rfl := List.mem_singleton.1 h
            exact fun hc => hd (List.mem_singleton.1 hc).symm
        | cons first more =>
            rw [hr] at h hrest
            rcases List.mem_cons.1 h with rfl | h
            · intro hc
              rcases List.mem_cons.1 hc with hc | hc
              · exact hd hc.symm
              · exact hrest first List.mem_cons_self hc
            · exact hrest piece (List.mem_cons_of_mem _ h)

end Text

namespace Path

/-! ## Segments -/

theorem joinSegments_eq_intercalate : ∀ segs : List Text,
    joinSegments segs = List.intercalate ['/'] segs
  | [] => rfl
  | [s] => List.intercalate_singleton.symm
  | s :: t :: more => by
      rw [joinSegments, joinSegments_eq_intercalate (t :: more), List.intercalate_cons_cons]
      · exact (List.append_assoc s ['/'] _).symm
      · exact nofun

/-- The slashes between segments can be told from the segments. -/
theorem splitAll_joinSegments {segs : List Text} (hne : segs ≠ []) (h : ∀ s ∈ segs, '/' ∉ s) :
    Text.splitAll '/' (joinSegments segs) = segs := by
  rw [Text.splitAll_eq_splitOn, joinSegments_eq_intercalate]
  exact List.splitOn_intercalate '/' h hne

theorem joinSegments_splitAll (s : Text) : joinSegments (Text.splitAll '/' s) = s := by
  rw [Text.splitAll_eq_splitOn, joinSegments_eq_intercalate]
  exact List.intercalate_splitOn '/'

/-- Fewer segments make a text that the longer one starts with. -/
theorem joinSegments_isPrefix : ∀ {kept segs : List Text}, kept <+: segs →
    joinSegments kept <+: joinSegments segs
  | [], _, _ => List.nil_prefix
  | [s], [], h => absurd (List.prefix_nil.1 h) (List.cons_ne_nil s [])
  | [s], t :: segs, h => by
      obtain ⟨rfl, -⟩ := List.cons_prefix_cons.1 h
      cases segs with
      | nil => exact List.prefix_rfl
      | cons u segs => exact List.prefix_append s _
  | s :: t :: kept, segs, h => by
      obtain ⟨rest, rfl⟩ := h
      have ih : joinSegments (t :: kept) <+: joinSegments (t :: kept ++ rest) :=
        joinSegments_isPrefix (List.prefix_append _ rest)
      show s ++ '/' :: joinSegments (t :: kept) <+: s ++ '/' :: joinSegments (t :: kept ++ rest)
      exact (List.prefix_append_right_inj s).2 (List.cons_prefix_cons.2 ⟨rfl, ih⟩)

/-! ## The segments that count -/

/-- What counts behind the first segment counts as the first one too. -/
theorem counts_of_later {segment : Text} (h : counts false segment = true) (first : Bool) :
    counts first segment = true := by
  cases first with
  | false => exact h
  | true => simp_all [counts]

theorem significant_append (more : List Text) : ∀ (first : Bool) {segs : List Text}, segs ≠ [] →
    significant first (segs ++ more) = significant first segs ++ significant false more
  | _, [], h => absurd rfl h
  | first, [s], _ => by
      show significant first (s :: more) = significant first [s] ++ significant false more
      rw [significant, significant]
      cases counts first s with
      | true => rfl
      | false => rfl
  | first, s :: t :: segs, _ => by
      have ih : significant false (t :: segs ++ more)
          = significant false (t :: segs) ++ significant false more :=
        significant_append more false (List.cons_ne_nil t segs)
      show significant first (s :: (t :: segs ++ more)) = _
      rw [significant, significant, ih]
      cases counts first s with
      | true => rfl
      | false => rfl

/-- A row of segments is cut down to nothing only if none of them counts. -/
theorem upToLast_eq_nil : ∀ {first : Bool} {segs : List Text}, significant first segs = [] →
    upToLast first segs = []
  | _, [], _ => rfl
  | first, s :: more, h => by
      rw [significant] at h
      cases hs : counts first s with
      | true =>
          rw [hs] at h
          cases h
      | false =>
          rw [hs] at h
          rw [upToLast, upToLast_eq_nil h, hs]
          rfl

/-- What is cut off does not count. -/
theorem significant_upToLast : ∀ (first : Bool) (segs : List Text),
    significant first (upToLast first segs) = significant first segs
  | _, [] => rfl
  | first, s :: more => by
      have ih := significant_upToLast false more
      rw [upToLast]
      cases hkept : upToLast false more with
      | nil =>
          rw [hkept] at ih
          rw [significant, ← ih]
          cases hs : counts first s with
          | true =>
              show significant first [s] = [s]
              rw [significant, hs]
              rfl
          | false => rfl
      | cons t kept =>
          rw [hkept] at ih
          show significant first (s :: (t :: kept)) = significant first (s :: more)
          rw [significant.eq_2, ih, significant.eq_2]

/-- The last segment that is kept counts. -/
theorem significant_dropLast_upToLast : ∀ (first : Bool) (segs : List Text),
    significant first (upToLast first segs).dropLast = (significant first segs).dropLast
  | _, [] => rfl
  | first, s :: more => by
      have ih := significant_dropLast_upToLast false more
      have hsig := significant_upToLast false more
      rw [upToLast, significant]
      cases hkept : upToLast false more with
      | nil =>
          rw [hkept] at hsig
          rw [← hsig]
          cases counts first s with
          | true => rfl
          | false => rfl
      | cons t kept =>
          have hne : significant false more ≠ [] := by
            intro hnil
            rw [upToLast_eq_nil hnil] at hkept
            cases hkept
          show significant first (s :: (t :: kept).dropLast) = _
          rw [significant, ← hkept, ih]
          cases counts first s with
          | true => exact (List.dropLast_cons_of_ne_nil hne).symm
          | false => rfl

theorem upToLast_isPrefix : ∀ (first : Bool) (segs : List Text), upToLast first segs <+: segs
  | _, [] => List.nil_prefix
  | first, s :: more => by
      have ih := upToLast_isPrefix false more
      rw [upToLast]
      cases hkept : upToLast false more with
      | nil =>
          cases counts first s with
          | true => exact ⟨more, rfl⟩
          | false => exact List.nil_prefix
      | cons t kept =>
          rw [hkept] at ih
          exact List.cons_prefix_cons.2 ⟨rfl, ih⟩

/-! ## The directory of a path -/

theorem isAbsolute_cons (c : Char) (rest : Text) : isAbsolute (c :: rest) = decide (c = '/') := by
  simp only [isAbsolute, List.head?_cons, Option.some_inj]

theorem isAbsolute_append {path : Text} (h : path ≠ []) (rest : Text) :
    isAbsolute (path ++ rest) = isAbsolute path := by
  cases path with
  | nil => exact absurd rfl h
  | cons c more => rw [List.cons_append, isAbsolute_cons, isAbsolute_cons]

theorem not_mem_of_mem_segments {path segment : Text} (h : segment ∈ segments path) :
    '/' ∉ segment := Text.not_mem_of_mem_splitAll h

/-- The segments that the directory of a path is made of. -/
def directorySegments (path : Text) : List Text :=
  upToLast (!isAbsolute path) (upToLast (!isAbsolute path) (segments path)).dropLast

theorem directorySegments_isPrefix (path : Text) : directorySegments path <+: segments path :=
  (upToLast_isPrefix _ _).trans ((List.dropLast_prefix _).trans (upToLast_isPrefix _ _))

/-- Those of them that count are the components of the path, the last apart. -/
theorem significant_directorySegments (path : Text) :
    significant (!isAbsolute path) (directorySegments path) = (components path).dropLast := by
  rw [directorySegments, significant_upToLast, significant_dropLast_upToLast, components]

/-- Text behind the root, or behind nothing. -/
def fromRoot (absolute : Bool) (body : Text) : Text := if absolute then '/' :: body else body

theorem fromRoot_append (absolute : Bool) (body rest : Text) :
    fromRoot absolute (body ++ rest) = fromRoot absolute body ++ rest := by
  cases absolute with
  | true => rfl
  | false => rfl

theorem segments_fromRoot {path body : Text} {absolute : Bool} (h : path = fromRoot absolute body)
    (habsolute : isAbsolute path = absolute) : segments path = Text.splitAll '/' body := by
  rw [segments, habsolute, h]
  cases absolute with
  | true => rfl
  | false => rfl

theorem parent_eq (path : Text) :
    parent path = fromRoot (isAbsolute path) (joinSegments (directorySegments path)) := by
  rw [parent, fromRoot, directorySegments]
  cases isAbsolute path with
  | true => rfl
  | false => rfl

/-- The directory of a path is absolute if and only if the path is. -/
theorem isAbsolute_parent (path : Text) : isAbsolute (parent path) = isAbsolute path := by
  rw [parent_eq]
  cases ha : isAbsolute path with
  | true => rfl
  | false =>
      -- A relative path starts with the text of its directory.
      have hstart : joinSegments (directorySegments path) <+: path := by
        have hsegments : segments path = Text.splitAll '/' path := segments_fromRoot rfl ha
        have hprefix := joinSegments_isPrefix (directorySegments_isPrefix path)
        rw [hsegments, joinSegments_splitAll] at hprefix
        exact hprefix
      obtain ⟨rest, hrest⟩ := hstart
      show isAbsolute (joinSegments (directorySegments path)) = false
      cases hbody : joinSegments (directorySegments path) with
      | nil => rfl
      | cons c more =>
          rw [← ha, ← hrest, hbody]
          exact (isAbsolute_append (List.cons_ne_nil c more) rest).symm

/-- The components of the directory are those of the path, the last apart. -/
theorem components_parent (path : Text) : components (parent path) = (components path).dropLast := by
  rw [components, isAbsolute_parent, segments_fromRoot (parent_eq path) (isAbsolute_parent path),
    ← significant_directorySegments]
  by_cases hne : directorySegments path = []
  · rw [hne]
    cases isAbsolute path with
    | true => rfl
    | false => rfl
  · rw [splitAll_joinSegments hne fun s hs =>
      not_mem_of_mem_segments ((directorySegments_isPrefix path).subset hs)]

/-! ## Joining -/

/-- Behind a slash the components go on. -/
theorem components_append_slash {path : Text} (h : path ≠ []) (rest : Text) :
    components (path ++ '/' :: rest)
      = components path ++ significant false (Text.splitAll '/' rest) := by
  have hsegments : segments (path ++ '/' :: rest) = segments path ++ Text.splitAll '/' rest := by
    rw [segments, segments, isAbsolute_append h]
    simp only [Text.splitAll_eq_splitOn]
    cases ha : isAbsolute path with
    | true =>
        cases path with
        | nil => exact absurd rfl h
        | cons c more => exact List.splitOn_append_cons_self more rest
    | false => exact List.splitOn_append_cons_self path rest
  have hne : segments path ≠ [] := by
    rw [segments, Text.splitAll_eq_splitOn]
    exact List.splitOn_ne_nil '/' _
  rw [components, isAbsolute_append h, hsegments, significant_append _ _ hne, components]

/-- A segment that counts wherever it stands. -/
structure IsSegment (name : Text) : Prop where
  slash : '/' ∉ name
  counts : counts false name = true

theorem IsSegment.significant_eq {name : Text} (h : IsSegment name) (first : Bool) :
    significant first (Text.splitAll '/' name) = [name] := by
  rw [Text.splitAll_eq_splitOn, List.splitOn_eq_singleton h.slash, significant,
    counts_of_later h.counts first]
  rfl

theorem IsSegment.isAbsolute_eq {name : Text} (h : IsSegment name) : isAbsolute name = false := by
  cases name with
  | nil => rfl
  | cons c more =>
      rw [isAbsolute_cons]
      exact decide_eq_false fun hc => h.slash (hc ▸ List.mem_cons_self)

/-- Joining adds one component to those of the directory. -/
theorem components_join {name : Text} (h : IsSegment name) (directory : Text) :
    components (join directory name) = components directory ++ [name] := by
  rw [join]
  by_cases hd : directory = []
  · subst hd
    show components name = significant true (Text.splitAll '/' []) ++ [name]
    rw [components, h.isAbsolute_eq, segments, h.isAbsolute_eq]
    exact h.significant_eq true
  · rw [if_neg hd]
    by_cases hlast : directory.getLast? = some '/'
    · rw [if_pos hlast]
      obtain ⟨front, rfl⟩ := List.getLast?_eq_some_iff.1 hlast
      rw [List.append_assoc, List.singleton_append]
      by_cases hf : front = []
      · subst hf
        exact h.significant_eq false
      · rw [components_append_slash hf, components_append_slash hf, h.significant_eq]
        show _ = components front ++ [] ++ [name]
        rw [List.append_nil]
    · rw [if_neg hlast, components_append_slash hd, h.significant_eq]

theorem isAbsolute_join {name : Text} (h : IsSegment name) (directory : Text) :
    isAbsolute (join directory name) = isAbsolute directory := by
  rw [join]
  by_cases hd : directory = []
  · subst hd
    exact h.isAbsolute_eq
  · rw [if_neg hd]
    by_cases hlast : directory.getLast? = some '/'
    · rw [if_pos hlast, isAbsolute_append hd]
    · rw [if_neg hlast, isAbsolute_append hd]

/-! ## Cutting and joining again -/

theorem significant_subset : ∀ (first : Bool) (segs : List Text), significant first segs ⊆ segs
  | _, [] => List.nil_subset _
  | first, s :: more => by
      have ih := significant_subset false more
      rw [significant]
      cases counts first s with
      | true => exact List.cons_subset_cons s ih
      | false => exact List.Subset.trans ih (List.subset_cons_self s more)

theorem ne_nil_of_mem_significant : ∀ {first : Bool} {segs : List Text} {s : Text},
    s ∈ significant first segs → s ≠ []
  | _, [], _, h => absurd h List.not_mem_nil
  | first, t :: more, s, h => by
      rw [significant] at h
      cases ht : counts first t with
      | true =>
          rw [ht] at h
          rcases List.mem_cons.1 h with rfl | h
          · intro he
            rw [counts, he] at ht
            cases ht
          · exact ne_nil_of_mem_significant h
      | false =>
          rw [ht] at h
          exact ne_nil_of_mem_significant h

/-- A file name is the last component, and neither a dot nor two. -/
theorem fileName?_eq_some_iff {path name : Text} : fileName? path = some name ↔
    (components path).getLast? = some name ∧ isName name = true := by
  rw [fileName?, Option.filter_eq_some_iff]

theorem isSegment_of_fileName? {path name : Text} (h : fileName? path = some name) :
    IsSegment name := by
  obtain ⟨hlast, hname⟩ := fileName?_eq_some_iff.1 h
  have hmem : name ∈ components path := List.mem_of_getLast? hlast
  constructor
  · exact not_mem_of_mem_segments (significant_subset _ _ hmem)
  · have hne : name ≠ [] := ne_nil_of_mem_significant hmem
    have hdot : name ≠ ['.'] := by
      rintro rfl
      cases hname
    simp [counts, hne, hdot]

/-- The components of a path are those of its directory, and then its name. -/
theorem components_eq_concat {path name : Text} (h : fileName? path = some name) :
    components path = components (parent path) ++ [name] := by
  obtain ⟨front, hfront⟩ := List.getLast?_eq_some_iff.1 (fileName?_eq_some_iff.1 h).1
  rw [components_parent, hfront, List.dropLast_concat]

/-- **A path that is cut into directory and file name and joined again has the
same components**, and starts at the same place. -/
theorem components_join_parent {path name : Text} (h : fileName? path = some name) :
    components (join (parent path) name) = components path ∧
      isAbsolute (join (parent path) name) = isAbsolute path := by
  have hname := isSegment_of_fileName? h
  constructor
  · rw [components_join hname, ← components_eq_concat h]
  · rw [isAbsolute_join hname, isAbsolute_parent]

/-- So it has the same file name. -/
theorem fileName?_join_parent {path name : Text} (h : fileName? path = some name) :
    fileName? (join (parent path) name) = some name := by
  rw [fileName?, (components_join_parent h).1]
  exact h

end Path

end Typescribe
