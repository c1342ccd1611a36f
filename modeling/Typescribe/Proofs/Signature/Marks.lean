/-
The marks of a text: where a slice mark or a qualifier stands in it.

A character is marked, for taking out, when it belongs to one of these
stretches of the text as it is written; `Leaves` says what is left then, of the
marks of one kind or of all.  No two marks overlap, and so one pass from the
left takes them out that goes on behind each mark it meets: `IsPass.leaves_iff`
says that such a pass leaves the characters that are not marked, in their order,
and no others.  The erasure of slice marks is such a pass, so is the erasure of
qualifiers, and `unmark` is one for both.

A pass cuts the text in two again and again; what it keeps up is that no mark
lies across the cut.
-/
import Typescribe.Proofs.Signature.Qualifier
import Typescribe.Proofs.Text.Ident

namespace Typescribe.Qualifier

/-! ## Marks -/

/-- A stretch of a text is a slice mark, whatever stands before it. -/
def IsSlice (_ mark : Text) : Prop := mark = "[]"

/-- A stretch of a text is a qualifier: small letters and a dot, where no word
character stands before them. -/
def IsQualifier (before mark : Text) : Prop :=
  inWordAfter false before = false ∧
    ∃ letters, letters ≠ [] ∧ (∀ c ∈ letters, c.isLower = true) ∧ mark = letters ++ ['.']

/-- A stretch of a text that is to be taken out. -/
def IsMark (before mark : Text) : Prop := IsSlice before mark ∨ IsQualifier before mark

/-- The character at a place belongs to a mark of some kind. -/
def Marked (kind : Text → Text → Prop) (s : Text) (i : Nat) : Prop :=
  ∃ before mark behind, s = before ++ mark ++ behind ∧ kind before mark ∧
    before.length ≤ i ∧ i < before.length + mark.length

/-- The characters of a text at some places, in order; the first place has a
number. -/
def keepFrom (kept : Nat → Bool) (first : Nat) (s : Text) : Text :=
  ((s.zipIdx first).filter fun p => kept p.2).map (·.1)

/-- The text without the characters that belong to its marks of some kind, and
with all others. -/
def Leaves (kind : Text → Text → Prop) (s t : Text) : Prop :=
  ∃ kept : Nat → Bool, (∀ i < s.length, kept i = true ↔ ¬Marked kind s i) ∧ t = keepFrom kept 0 s

/-- The text without the characters that belong to its marks, and with all
others. -/
def IsUnmarked (s t : Text) : Prop := Leaves IsMark s t

/-- What follows the mark that a text starts with. -/
def mark? (inWord : Bool) : Text → Option Text
  | '[' :: ']' :: rest => some rest
  | s => if inWord then none else behind? s

theorem length_of_mark? {inWord : Bool} {s rest : Text} (h : mark? inWord s = some rest) :
    rest.length < s.length := by
  unfold mark? at h
  split at h
  · cases h
    rw [List.length_cons, List.length_cons]
    omega
  · split at h
    · cases h
    · exact length_of_behind? h

/-- A text without its marks, taken out once from the left. -/
def unmark (inWord : Bool) (s : Text) : Text :=
  match _h : mark? inWord s with
  | some rest => unmark false rest
  | none =>
    match s with
    | [] => []
    | c :: rest => c :: unmark (Text.isWord c) rest
termination_by s.length
decreasing_by
  · exact length_of_mark? _h
  · simp

theorem unmark_of_mark {inWord : Bool} {s rest : Text} (h : mark? inWord s = some rest) :
    unmark inWord s = unmark false rest := by
  rw [unmark]
  split
  · next h' =>
    rw [h] at h'
    cases h'
    rfl
  · next h' =>
    rw [h] at h'
    cases h'

theorem unmark_of_none {inWord : Bool} {c : Char} {rest : Text}
    (h : mark? inWord (c :: rest) = none) :
    unmark inWord (c :: rest) = c :: unmark (Text.isWord c) rest := by
  rw [unmark]
  split
  · next h' =>
    rw [h] at h'
    cases h'
  · rfl

theorem unmark_nil (inWord : Bool) : unmark inWord [] = [] := by
  cases inWord with
  | true => rw [unmark]; rfl
  | false => rw [unmark]; rfl

/-- What `mark?` takes off is a mark. -/
theorem mark?_eq_some_iff {before s rest : Text} :
    mark? (inWordAfter false before) s = some rest ↔
      ∃ mark, s = mark ++ rest ∧ IsMark before mark := by
  unfold mark?
  split
  · next more =>
    constructor
    · rintro h
      cases h
      exact ⟨"[]", rfl, .inl rfl⟩
    · rintro ⟨mark, hs, rfl | ⟨-, letters, hne, hlower, rfl⟩⟩
      · exact congrArg some (List.cons.inj (List.cons.inj hs).2).2
      · obtain ⟨c, more, rfl⟩ := List.exists_cons_of_ne_nil hne
        obtain rfl : '[' = c := (List.cons.inj hs).1
        exact absurd (hlower '[' List.mem_cons_self) (by decide)
  · next hslice =>
    cases hword : inWordAfter false before with
    | true =>
        refine ⟨nofun, ?_⟩
        rintro ⟨mark, hs, rfl | ⟨hstart, -⟩⟩
        · exact absurd hs (hslice rest)
        · rw [hword] at hstart
          cases hstart
    | false =>
        rw [if_neg Bool.false_ne_true, behind?_eq_some_iff]
        constructor
        · rintro ⟨letters, hne, hlower, rfl⟩
          exact ⟨letters ++ ['.'], by simp, .inr ⟨hword, letters, hne, hlower, rfl⟩⟩
        · rintro ⟨mark, hs, rfl | ⟨-, letters, hne, hlower, rfl⟩⟩
          · exact absurd hs (hslice rest)
          · exact ⟨letters, hne, hlower, by simpa using hs⟩

/-! ## Marks do not overlap -/

/-- A mark starts with a bracket or a small letter. -/
theorem IsMark.head {before mark : Text} (h : IsMark before mark) :
    ∃ c more, mark = c :: more ∧ (c = '[' ∨ c.isLower = true) := by
  rcases h with rfl | ⟨-, letters, hne, hlower, rfl⟩
  · exact ⟨'[', [']'], rfl, .inl rfl⟩
  · obtain ⟨c, more, rfl⟩ := List.exists_cons_of_ne_nil hne
    exact ⟨c, more ++ ['.'], rfl, .inr (hlower c List.mem_cons_self)⟩

/-- No word character stands at the end of a mark. -/
theorem IsMark.ends_no_word {before mark : Text} (h : IsMark before mark) :
    inWordAfter false (before ++ mark) = false := by
  rcases h with rfl | ⟨-, letters, -, -, rfl⟩
  · rw [inWordAfter_append]
    exact Text.isWord_punctuation (c := ']') (by decide)
  · rw [← List.append_assoc, inWordAfter_concat]
    exact Text.isWord_punctuation (by decide)

/-- A text starts with one mark only. -/
theorem IsMark.unique {before mark other rest behind : Text} (h : IsMark before mark)
    (hother : IsMark before other) (hs : mark ++ rest = other ++ behind) : mark = other := by
  have hread : mark? (inWordAfter false before) (mark ++ rest) = some rest :=
    mark?_eq_some_iff.2 ⟨mark, rfl, h⟩
  rw [hs, mark?_eq_some_iff.2 ⟨other, rfl, hother⟩, Option.some.injEq] at hread
  subst hread
  exact List.append_cancel_right hs

/-- A mark that starts behind the start of another starts behind its end. -/
theorem IsMark.length_le {before mark gap other rest behind : Text} (h : IsMark before mark)
    (hother : IsMark (before ++ gap) other) (hgap : gap ≠ [])
    (hs : mark ++ rest = gap ++ (other ++ behind)) : mark.length ≤ gap.length := by
  obtain ⟨d, more, rfl, hd⟩ := hother.head
  have hopen : ∀ {c : Char}, c = ']' ∨ c = '.' → ¬(c = '[' ∨ c.isLower = true) := by
    rintro c (rfl | rfl) <;> decide
  rcases h with rfl | ⟨hword, letters, hne, hlower, rfl⟩
  · -- inside a slice mark stands only its closing bracket
    match gap, hgap with
    | [c], _ =>
        obtain rfl : ']' = d := (List.cons.inj (List.cons.inj hs).2).1
        exact absurd hd (hopen (.inl rfl))
    | _ :: _ :: gap, _ => simp
  · rw [List.append_assoc, List.append_eq_append_iff] at hs
    rcases hs with ⟨shared, rfl, hs⟩ | ⟨shared, rfl, hs⟩
    · -- at the end of the letters stands the dot
      cases shared with
      | nil =>
          obtain rfl : '.' = d := (List.cons.inj hs).1
          exact absurd hd (hopen (.inr rfl))
      | cons e shared => simp
    · -- at a letter behind the first, a letter stands before
      have hletters : inWordAfter false (before ++ gap) = true := by
        rw [inWordAfter_append]
        exact inWordAfter_of_isWord _ hgap fun c hc =>
          Text.isWord_of_isLower (hlower c (List.mem_append_left shared hc))
      cases shared with
      | nil =>
          obtain rfl : d = '.' := (List.cons.inj hs).1
          exact absurd hd (hopen (.inr rfl))
      | cons e shared =>
          obtain rfl : d = e := (List.cons.inj hs).1
          rcases hother with hslice | ⟨hstart, -⟩
          · obtain rfl : d = '[' := (List.cons.inj hslice).1
            have := hlower '[' (List.mem_append_right gap List.mem_cons_self)
            exact absurd this (by decide)
          · rw [hletters] at hstart
            cases hstart

/-! ## One pass takes out all marks of a kind -/

/-- A pass over a text from the left that leaves out the marks of a kind; it
carries along whether a word character stands just before. -/
structure IsPass (kind : Text → Text → Prop) (pass : Bool → Text → Text) : Prop where
  isMark : ∀ {before mark : Text}, kind before mark → IsMark before mark
  nil : ∀ inWord, pass inWord [] = []
  mark : ∀ {before mark : Text}, kind before mark → ∀ rest,
    pass (inWordAfter false before) (mark ++ rest) = pass false rest
  char : ∀ {before : Text} {c : Char} {rest : Text},
    (∀ mark behind, c :: rest = mark ++ behind → ¬kind before mark) →
      pass (inWordAfter false before) (c :: rest) = c :: pass (Text.isWord c) rest

section Pass

variable {kind : Text → Text → Prop} {pass : Bool → Text → Text}

/-- No mark of a text lies across the place where it is cut in two. -/
def NoneAcross (kind : Text → Text → Prop) (before s : Text) : Prop :=
  ∀ b mark behind, before ++ s = b ++ (mark ++ behind) → kind b mark →
    b.length + mark.length ≤ before.length ∨ before.length ≤ b.length

theorem noneAcross_nil (s : Text) : NoneAcross kind [] s := fun _ _ _ _ _ => .inr (Nat.zero_le _)

/-- Behind a cut, a mark starts at the cut or behind some gap. -/
theorem NoneAcross.cases {before s b mark behind : Text} (h : NoneAcross kind before s)
    (hs : before ++ s = b ++ (mark ++ behind)) (hmark : kind b mark) :
    b.length + mark.length ≤ before.length ∨
      ∃ gap, b = before ++ gap ∧ s = gap ++ (mark ++ behind) := by
  refine (h b mark behind hs hmark).imp_right fun hle => ?_
  rcases List.append_eq_append_iff.1 hs with ⟨gap, rfl, hgap⟩ | ⟨gap, rfl, hgap⟩
  · exact ⟨gap, rfl, hgap⟩
  · have hnone : gap.length = 0 := by
      rw [List.length_append] at hle
      omega
    obtain rfl : gap = [] := List.eq_nil_of_length_eq_zero hnone
    exact ⟨[], by simp, by simpa using hgap.symm⟩

/-- Behind a mark at the cut, the text can be cut again. -/
theorem NoneAcross.mark {before mark rest : Text} (hpass : IsPass kind pass)
    (h : NoneAcross kind before (mark ++ rest)) (hmark : kind before mark) :
    NoneAcross kind (before ++ mark) rest := by
  intro b other behind hs hother
  rw [List.append_assoc] at hs
  rcases h.cases hs hother with hle | ⟨gap, rfl, hgap⟩
  · exact .inl (by simp; omega)
  · by_cases hnil : gap = []
    · subst hnil
      rw [List.append_nil] at hother
      rw [(hpass.isMark hmark).unique (hpass.isMark hother) hgap]
      exact .inl (by simp)
    · have := (hpass.isMark hmark).length_le (hpass.isMark hother) hnil hgap
      exact .inr (by simp; omega)

section NoMark

variable {before s : Text} (h : NoneAcross kind before s)
  (hnone : ∀ mark behind, s = mark ++ behind → ¬kind before mark)
include h hnone

/-- Where no mark is at the cut, one behind it starts behind some gap. -/
theorem NoneAcross.gap_ne_nil {b mark behind : Text} (hs : before ++ s = b ++ (mark ++ behind))
    (hmark : kind b mark) :
    b.length + mark.length ≤ before.length ∨ before.length < b.length := by
  rcases h.cases hs hmark with hle | ⟨gap, rfl, hgap⟩
  · exact .inl hle
  · cases gap with
    | nil =>
        rw [List.append_nil] at hmark
        exact absurd hmark (hnone mark behind hgap)
    | cons c gap => exact .inr (by simp)

/-- Where no mark is at the cut, the character behind it belongs to none. -/
theorem NoneAcross.not_marked : ¬Marked kind (before ++ s) before.length := by
  rintro ⟨b, mark, behind, hs, hmark, hle, hlt⟩
  rw [List.append_assoc] at hs
  rcases h.gap_ne_nil hnone hs hmark with h | h <;> omega

end NoMark

/-- Where no mark is at the cut, the text can be cut behind the next
character. -/
theorem NoneAcross.char {before rest : Text} {c : Char} (h : NoneAcross kind before (c :: rest))
    (hnone : ∀ mark behind, c :: rest = mark ++ behind → ¬kind before mark) :
    NoneAcross kind (before ++ [c]) rest := by
  intro b mark behind hs hmark
  rw [List.append_assoc] at hs
  rcases h.gap_ne_nil hnone hs hmark with hle | hlt
  · exact .inl (by simp; omega)
  · exact .inr (by simp; omega)

section Kept

variable {kept : Nat → Bool}

theorem keepFrom_cons (first : Nat) (c : Char) (rest : Text) :
    keepFrom kept first (c :: rest)
      = if kept first then c :: keepFrom kept (first + 1) rest else keepFrom kept (first + 1) rest := by
  rw [keepFrom, List.zipIdx_cons, List.filter_cons]
  split <;> rfl

/-- A stretch of which nothing is kept leaves what is behind it. -/
theorem keepFrom_append : ∀ (mark rest : Text) (first : Nat),
    (∀ i, first ≤ i → i < first + mark.length → kept i = false) →
      keepFrom kept first (mark ++ rest) = keepFrom kept (first + mark.length) rest
  | [], _, _, _ => rfl
  | c :: mark, rest, first, h => by
      have hfirst : kept first = false := h first (Nat.le_refl _) (by simp)
      rw [List.cons_append, keepFrom_cons, hfirst, if_neg Bool.false_ne_true,
        keepFrom_append mark rest (first + 1) fun i hle hlt => h i (by omega) (by simp; omega)]
      congr 1
      simp
      omega

/-- From a cut with no mark across it, a pass keeps the unmarked characters of
the whole text. -/
theorem IsPass.eq_keepFrom (hpass : IsPass kind pass) (before s : Text)
    (h : NoneAcross kind before s)
    (hkept : ∀ i < (before ++ s).length, kept i = true ↔ ¬Marked kind (before ++ s) i) :
    pass (inWordAfter false before) s = keepFrom kept before.length s := by
  by_cases hstart : ∃ mark rest, s = mark ++ rest ∧ kind before mark
  · obtain ⟨mark, rest, rfl, hmark⟩ := hstart
    have hout : ∀ i, before.length ≤ i → i < before.length + mark.length → kept i = false := by
      intro i hle hlt
      rw [← Bool.not_eq_true, hkept i (by simp; omega), Classical.not_not]
      exact ⟨before, mark, rest, by simp, hmark, hle, hlt⟩
    have hshorter : rest.length < (mark ++ rest).length := by
      obtain ⟨c, more, rfl, -⟩ := (hpass.isMark hmark).head
      rw [List.length_append, List.length_cons]
      omega
    rw [hpass.mark hmark, keepFrom_append mark rest _ hout, ← List.length_append]
    rw [← (hpass.isMark hmark).ends_no_word]
    rw [← List.append_assoc] at hkept
    exact hpass.eq_keepFrom (before ++ mark) rest (h.mark hpass hmark) hkept
  · have hnone : ∀ mark behind, s = mark ++ behind → ¬kind before mark :=
      fun mark behind hs hmark => hstart ⟨mark, behind, hs, hmark⟩
    cases s with
    | nil => exact hpass.nil _
    | cons c rest =>
        have hin : kept before.length = true := by
          rw [hkept _ (by simp)]
          exact h.not_marked hnone
        rw [hpass.char hnone, keepFrom_cons, if_pos hin, ← inWordAfter_concat false before c]
        rw [List.append_cons] at hkept
        have := hpass.eq_keepFrom (before ++ [c]) rest (h.char hnone) hkept
        simpa using this
termination_by s.length

end Kept

/-- A pass from the start leaves the unmarked characters, and nothing else can
be left of them. -/
theorem IsPass.leaves_iff (hpass : IsPass kind pass) {s t : Text} :
    Leaves kind s t ↔ t = pass false s := by
  constructor
  · rintro ⟨kept, hkept, rfl⟩
    exact (hpass.eq_keepFrom [] s (noneAcross_nil s) hkept).symm
  · rintro rfl
    classical
    have hkept : ∀ i < s.length, decide (¬Marked kind s i) = true ↔ ¬Marked kind s i :=
      fun _ _ => decide_eq_true_iff
    exact ⟨_, hkept, hpass.eq_keepFrom [] s (noneAcross_nil s) hkept⟩

end Pass

/-! ## The passes -/

theorem isPass_unmark : IsPass IsMark unmark where
  isMark := id
  nil := unmark_nil
  mark := fun hmark rest => unmark_of_mark (mark?_eq_some_iff.2 ⟨_, rfl, hmark⟩)
  char := by
    intro before c rest hnone
    apply unmark_of_none
    rw [Option.eq_none_iff_forall_ne_some]
    intro behind hsome
    obtain ⟨mark, hs, hmark⟩ := mark?_eq_some_iff.1 hsome
    exact hnone mark behind hs hmark

theorem isPass_eraseSlices : IsPass IsSlice fun _ s => eraseSlices s where
  isMark := .inl
  nil := fun _ => rfl
  mark := by
    rintro before _ rfl rest
    rfl
  char := by
    intro before c rest hnone
    apply eraseSlices_cons
    rintro rfl hrest
    obtain ⟨more, rfl⟩ := List.head?_eq_some_iff.1 hrest
    exact hnone "[]" more rfl rfl

theorem isPass_eraseAfter : IsPass IsQualifier eraseAfter where
  isMark := .inr
  nil := fun _ => by rw [eraseAfter]
  mark := by
    rintro before _ ⟨hword, letters, hne, hlower, rfl⟩ rest
    rw [hword]
    exact eraseAfter_of_behind? (behind?_eq_some_iff.2 ⟨letters, hne, hlower, by simp⟩)
  char := by
    intro before c rest hnone
    rw [eraseAfter_cons]
    cases hword : inWordAfter false before with
    | true => rfl
    | false =>
        cases hs : behind? (c :: rest) with
        | none => rfl
        | some behind =>
            obtain ⟨letters, hne, hlower, hs⟩ := behind?_eq_some_iff.1 hs
            refine absurd ⟨hword, letters, hne, hlower, rfl⟩ (hnone (letters ++ ['.']) behind ?_)
            rw [hs, List.append_assoc]
            rfl

/-- The one pass for all marks leaves the unmarked characters. -/
theorem isUnmarked_iff {s t : Text} : IsUnmarked s t ↔ t = unmark false s := isPass_unmark.leaves_iff

/-- Erasing slice marks leaves the characters that belong to none. -/
theorem leaves_slices_iff {s t : Text} : Leaves IsSlice s t ↔ t = eraseSlices s :=
  isPass_eraseSlices.leaves_iff

/-- Erasing qualifiers leaves the characters that belong to none. -/
theorem leaves_qualifiers_iff {s t : Text} : Leaves IsQualifier s t ↔ t = erase s :=
  isPass_eraseAfter.leaves_iff

end Typescribe.Qualifier
