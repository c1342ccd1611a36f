/-
What is taken out of a text that is kept verbatim.

The TypeScript type of a verbatim leaf is made in two passes: slice marks are
erased first, and qualifiers are looked for in what is left.  This takes out
what is marked in the text, and nothing else, as long as no erased slice mark
makes a word run into a dot so that a qualifier comes about or is hidden, see
`joins`.  Where one does, the word in front of it may be taken out together with
the qualifier, or the qualifier behind it may stay: `bare_of_joined` has a text
for either.
-/
import Typescribe.Proofs.Signature.Marks
import Typescribe.Signature.Reader
import Typescribe.Signature.TypeScript

namespace Typescribe

namespace Qualifier

/-! ## Words joined by the first pass -/

/-- The word that a text ends in: none, one of small letters only, or any
other. -/
inductive LastWord where
  | none
  | small
  | other
deriving DecidableEq, Repr

namespace LastWord

/-- The last word when one more character stands behind it. -/
def next (w : LastWord) (c : Char) : LastWord :=
  if Text.isWord c then
    if c.isLower ∧ w ≠ other then small else other
  else none

/-- There is a word. -/
def isOpen : LastWord → Bool
  | none => false
  | small => true
  | other => true

theorem isOpen_next (w : LastWord) (c : Char) : (w.next c).isOpen = Text.isWord c := by
  rw [next]
  cases Text.isWord c with
  | false => rfl
  | true =>
      rw [if_pos rfl]
      split <;> rfl

theorem next_of_isLower {w : LastWord} {c : Char} (hw : w ≠ other) (hc : c.isLower = true) :
    w.next c = small := by
  rw [next, if_pos (Text.isWord_of_isLower hc), if_pos ⟨hc, hw⟩]

/-- With nothing between them, the word and what follows have a qualifier where
neither has one, or hide one: small letters run into a dot, with more of them in
front of it or none, or another word runs into small letters with a dot. -/
def runsInto (w : LastWord) (s : Text) : Bool :=
  match w with
  | none => false
  | small => (s.dropWhile Char.isLower).head? == some '.'
  | other => (behind? s).isSome

end LastWord

/-- Somewhere in a text a slice mark stands between a word and what this would
run into, other slice marks in front of it aside. -/
def joinsAfter (w : LastWord) : Text → Bool
  | '[' :: ']' :: rest => w.runsInto rest || joinsAfter w rest
  | c :: rest => joinsAfter (w.next c) rest
  | [] => false

/-- Erasing the slice marks of a text makes a word run into a dot behind one of
them. -/
def joins (s : Text) : Bool := joinsAfter .none s

theorem joinsAfter_cons {w : LastWord} {c : Char} {rest : Text}
    (h : c = '[' → rest.head? ≠ some ']') :
    joinsAfter w (c :: rest) = joinsAfter (w.next c) rest := by
  rw [joinsAfter]
  intro more hc hrest
  rw [hrest] at h
  exact h hc rfl

/-- Small letters run into small letters and a dot. -/
theorem runsInto_small {letters : Text} (hlower : ∀ c ∈ letters, c.isLower = true) (rest : Text) :
    LastWord.small.runsInto (letters ++ '.' :: rest) = true := by
  rw [LastWord.runsInto, List.dropWhile_append_of_pos hlower,
    List.dropWhile_cons_of_neg (by decide)]
  rfl

/-- Where a word runs into nothing, no qualifier follows it. -/
theorem behind?_of_not_runsInto {w : LastWord} {s : Text} (hw : w.isOpen = true)
    (h : w.runsInto s = false) : behind? s = none := by
  cases w with
  | none => cases hw
  | small =>
      rw [Option.eq_none_iff_forall_ne_some]
      intro rest hrest
      obtain ⟨letters, -, hlower, rfl⟩ := behind?_eq_some_iff.1 hrest
      rw [runsInto_small hlower] at h
      cases h
  | other => simpa [LastWord.runsInto] using h

section Letters

variable {letters : Text} (hlower : ∀ c ∈ letters, c.isLower = true)
include hlower

theorem no_bracket_of_isLower : '[' ∉ letters ++ ['.'] := by
  intro h
  rcases List.mem_append.1 h with h | h
  · exact absurd (hlower '[' h) (by decide)
  · exact absurd (List.mem_singleton.1 h) (by decide)

/-- The first pass keeps small letters and a dot. -/
theorem eraseSlices_qualifier (rest : Text) :
    eraseSlices (letters ++ '.' :: rest) = letters ++ '.' :: eraseSlices rest := by
  rw [List.append_cons, eraseSlices_append _ _ (no_bracket_of_isLower hlower),
    ← List.append_cons]

end Letters

/-- A dot ends the word before it. -/
theorem joinsAfter_qualifier (rest : Text) : ∀ {letters : Text},
    (∀ c ∈ letters, c.isLower = true) → ∀ w : LastWord,
      joinsAfter w (letters ++ '.' :: rest) = joinsAfter .none rest
  | [], _, _ => joinsAfter_cons nofun
  | c :: more, hlower, w => by
      rw [List.cons_append, joinsAfter_cons]
      · exact joinsAfter_qualifier rest (fun d hd => hlower d (List.mem_cons_of_mem c hd)) _
      · rintro rfl
        exact absurd (hlower '[' List.mem_cons_self) (by decide)

/-- Where no erased slice mark makes small letters run into a dot, small letters
with a dot stood there before slice marks were erased. -/
theorem exists_append_of_eraseSlices {s : Text} (h : joinsAfter .small s = false) :
    ∀ {letters more : Text}, (∀ c ∈ letters, c.isLower = true) →
      eraseSlices s = letters ++ '.' :: more → ∃ rest, s = letters ++ '.' :: rest := by
  induction s using eraseSlices.induct with
  | case1 rest ih =>
      intro letters more hlower hs
      rw [joinsAfter, Bool.or_eq_false_iff] at h
      obtain ⟨behind, rfl⟩ := ih h.2 hlower hs
      rw [runsInto_small hlower] at h
      cases h.1
  | case2 c rest hopen ih =>
      intro letters more hlower hs
      have hslice : c = '[' → rest.head? ≠ some ']' := by
        rintro rfl hrest
        obtain ⟨others, rfl⟩ := List.head?_eq_some_iff.1 hrest
        exact hopen others rfl rfl
      rw [eraseSlices_cons hslice] at hs
      cases letters with
      | nil =>
          obtain ⟨rfl, -⟩ := List.cons.inj hs
          exact ⟨rest, rfl⟩
      | cons d letters =>
          obtain ⟨rfl, hmore⟩ := List.cons.inj hs
          rw [joinsAfter_cons hslice,
            LastWord.next_of_isLower (by decide) (hlower c List.mem_cons_self)] at h
          obtain ⟨behind, rfl⟩ := ih h (fun e he => hlower e (List.mem_cons_of_mem c he)) hmore
          exact ⟨behind, rfl⟩
  | case3 =>
      intro letters more _ hs
      exact absurd hs.symm (List.append_ne_nil_of_right_ne_nil letters (List.cons_ne_nil _ _))

/-! ## Both passes -/

/-- Where no mark starts, no qualifier starts after the first pass, unless an
erased slice mark joined its letters. -/
theorem behind?_eraseSlices {c : Char} {rest : Text} (hnone : mark? false (c :: rest) = none)
    (hjoins : joinsAfter (LastWord.none.next c) rest = false) :
    behind? (c :: eraseSlices rest) = none := by
  have hstart : behind? (c :: rest) = none := by
    unfold mark? at hnone
    split at hnone
    · cases hnone
    · exact hnone
  apply behind?_of_replaced hstart
  intro hc letters more hlower hrest
  rw [LastWord.next_of_isLower (by decide) hc] at hjoins
  exact exists_append_of_eraseSlices hjoins hlower hrest

/-- Erasing slice marks and then qualifiers takes out the marks of the text
and nothing else, when no erased slice mark joins anything.  What carries the
induction is that the two passes may disagree on whether a word character
stands before, but then no qualifier stands behind. -/
theorem eraseAfter_eraseSlices (inWord : Bool) (s : Text) : ∀ w : LastWord,
    joinsAfter w s = false → (w.isOpen = inWord ∨ inWord = false ∧ behind? s = none) →
      eraseAfter w.isOpen (eraseSlices s) = unmark inWord s := by
  induction inWord, s using unmark.induct with
  | case1 inWord s rest hmark ih =>
      intro w hjoins hagree
      rw [unmark_of_mark hmark]
      unfold mark? at hmark
      split at hmark
      · -- a slice mark is gone after the first pass, and hides the word before it
        next more =>
        cases hmark
        rw [joinsAfter, Bool.or_eq_false_iff] at hjoins
        refine ih w hjoins.2 ?_
        cases hw : w.isOpen with
        | false => exact .inl rfl
        | true => exact .inr ⟨rfl, behind?_of_not_runsInto hw hjoins.1⟩
      · split at hmark
        · cases hmark
        · -- a qualifier is whole in both passes
          next hstart =>
          have hclosed : w.isOpen = false := by
            rcases hagree with h | h
            · rw [h]
              exact Bool.not_eq_true _ ▸ hstart
            · rw [hmark] at h
              cases h.2
          obtain ⟨letters, hne, hlower, rfl⟩ := behind?_eq_some_iff.1 hmark
          rw [joinsAfter_qualifier rest hlower] at hjoins
          rw [eraseSlices_qualifier hlower, hclosed,
            eraseAfter_of_behind? (behind?_eq_some_iff.2 ⟨letters, hne, hlower, rfl⟩)]
          exact ih .none hjoins (.inl rfl)
  | case2 inWord hnone =>
      intro w _ _
      rw [unmark_nil, show eraseSlices [] = [] from rfl, eraseAfter]
  | case3 inWord c rest hnone ih =>
      intro w hjoins hagree
      have hslice : c = '[' → rest.head? ≠ some ']' := by
        rintro rfl hrest
        obtain ⟨more, rfl⟩ := List.head?_eq_some_iff.1 hrest
        cases hnone
      rw [joinsAfter_cons hslice] at hjoins
      have hkept : (if w.isOpen then none else behind? (c :: eraseSlices rest)) = none := by
        cases w with
        | none =>
            have hstart : inWord = false := by
              rcases hagree with h | h
              · exact h.symm
              · exact h.1
            subst hstart
            exact behind?_eraseSlices hnone hjoins
        | small => rfl
        | other => rfl
      have hrest := ih (w.next c) hjoins (.inl (w.isOpen_next c))
      rw [w.isOpen_next c] at hrest
      rw [unmark_of_none hnone, eraseSlices_cons hslice, eraseAfter_cons, hkept]
      exact congrArg (c :: ·) hrest

end Qualifier

namespace Leaf

/-- **Of a verbatim text, only what is marked in it is taken out**, if erasing
its slice marks makes no word run into a dot so that a qualifier comes about or
is hidden. -/
theorem isUnmarked_bare {raw : Text} (h : Qualifier.joins raw = false) :
    Qualifier.IsUnmarked raw (verbatim raw).bare :=
  Qualifier.isUnmarked_iff.2 (Qualifier.eraseAfter_eraseSlices false raw .none h (.inl rfl))

/-- A slice mark behind a bracket joins nothing, and neither does one between
dots and a word that has more than small letters in it. -/
theorem isUnmarked_bare_variadic :
    let raw : Text := "func(map[geo.Key][]*model.X, Args[]...model.Y)"
    let bare : Text := "func(map[Key]*X, Args...Y)"
    Qualifier.joins raw = false ∧ (verbatim raw).bare = bare ∧ Qualifier.IsUnmarked raw bare := by
  intro raw bare
  have hjoins : Qualifier.joins raw = false := by decide
  have hbare : (verbatim raw).bare = bare := by decide +kernel
  exact ⟨hjoins, hbare, hbare ▸ isUnmarked_bare hjoins⟩

/-- A word in front of a slice mark is lost with the qualifier behind it, or
keeps the qualifier from being seen. -/
theorem bare_of_joined :
    let lost : Text := "chan[]model.X"
    let left : Text := "func(a1[]model.X)"
    (Signature.ofText lost).isForeign = true ∧ (Signature.ofText lost).bare.1 = "X" ∧
      Qualifier.IsUnmarked lost "chanX" ∧ ¬Qualifier.IsUnmarked lost "X" ∧
    (Signature.ofText left).isForeign = true ∧
      (Signature.ofText left).bare.1 = "func(a1model.X)" ∧
      Qualifier.IsUnmarked left "func(a1X)" ∧ ¬Qualifier.IsUnmarked left "func(a1model.X)" := by
  simp only [Qualifier.isUnmarked_iff]
  decide +kernel

end Leaf

end Typescribe
