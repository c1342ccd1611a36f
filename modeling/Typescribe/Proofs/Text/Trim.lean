/-
Texts without blanks at one of their ends.

Trimming leaves such a text as it is, and what trimming leaves is such a
text.  A piece at the end of a text inherits the clean end of the whole, and
two texts with clean ends have one when they are put together; so a reader
that takes pieces off the front never meets a blank at the end again once it
has dropped those that were there.
-/
import Typescribe.Text.Basic

namespace Typescribe.Text

/-- No blank stands at the start of the text. -/
def startsClean (s : Text) : Prop := ∀ c, s.head? = some c → isBlank c = false

/-- No blank stands at the end of the text. -/
def endsClean (s : Text) : Prop := ∀ c, s.getLast? = some c → isBlank c = false

/-! ## The start -/

theorem trimStart_of_startsClean {s : Text} (h : startsClean s) : s.trimStart = s := by
  cases s with
  | nil => rfl
  | cons c rest =>
      have hc : isBlank c = false := h c rfl
      exact List.dropWhile_cons_of_neg (by simp [hc])

theorem startsClean_trimStart (s : Text) : startsClean s.trimStart := by
  intro c hc
  have h := List.head?_dropWhile_not isBlank s
  rw [show s.dropWhile isBlank = s.trimStart from rfl, hc] at h
  simpa using h

/-- Blanks in front of such a text are all that is taken off. -/
theorem trimStart_append {blanks s : Text} (hblank : ∀ c ∈ blanks, isBlank c = true)
    (hs : startsClean s) : (blanks ++ s).trimStart = s := by
  rw [trimStart, List.dropWhile_append_of_pos hblank]
  exact trimStart_of_startsClean hs

/-- A text begins with blanks, and then with what is left of it. -/
theorem exists_append_trimStart (s : Text) :
    ∃ blanks, (∀ c ∈ blanks, isBlank c = true) ∧ s = blanks ++ s.trimStart :=
  ⟨s.takeWhile isBlank, fun _ hc => List.all_eq_true.1 List.all_takeWhile _ hc,
    List.takeWhile_append_dropWhile.symm⟩

/-! ## The end -/

theorem trimEnd_of_endsClean {s : Text} (h : endsClean s) : s.trimEnd = s := by
  have hr : startsClean s.reverse := by
    intro c hc
    rw [List.head?_reverse] at hc
    exact h c hc
  show (trimStart s.reverse).reverse = s
  rw [trimStart_of_startsClean hr, List.reverse_reverse]

theorem endsClean_trimEnd (s : Text) : endsClean s.trimEnd := by
  intro c hc
  refine startsClean_trimStart s.reverse c ?_
  rw [← List.getLast?_reverse]
  exact hc

theorem endsClean_append {s t : Text} (hs : endsClean s) (ht : endsClean t) :
    endsClean (s ++ t) := by
  intro c hc
  rw [List.getLast?_append] at hc
  cases hl : t.getLast? with
  | none =>
      rw [hl, Option.none_or] at hc
      exact hs c hc
  | some d =>
      rw [hl, Option.some_or, Option.some.injEq] at hc
      subst hc
      exact ht d hl

/-- What stands behind some start of a text has its end. -/
theorem endsClean_of_append {s t : Text} (h : endsClean (s ++ t)) : endsClean t := by
  intro c hc
  refine h c ?_
  rw [List.getLast?_append, hc, Option.some_or]

theorem endsClean_trimStart {s : Text} (h : endsClean s) : endsClean s.trimStart := by
  obtain ⟨blanks, -, hs⟩ := exists_append_trimStart s
  rw [hs] at h
  exact endsClean_of_append h

/-- Behind such a text, all that follows is trimmed on its own. -/
theorem trimEnd_append {s : Text} (hs : endsClean s) (t : Text) :
    (s ++ t).trimEnd = s ++ t.trimEnd := by
  have hreverse : s.reverse.dropWhile isBlank = s.reverse := by
    rw [← List.reverse_inj, List.reverse_reverse]
    exact trimEnd_of_endsClean hs
  rw [trimEnd, trimEnd, List.reverse_append, List.dropWhile_append, hreverse]
  split
  · next hnil => simp [List.isEmpty_iff.1 hnil]
  · simp

/-- A text ends with blanks, behind what is left of it. -/
theorem exists_trimEnd_append (s : Text) :
    ∃ blanks, (∀ c ∈ blanks, isBlank c = true) ∧ s = s.trimEnd ++ blanks := by
  obtain ⟨blanks, hblank, hs⟩ := exists_append_trimStart s.reverse
  refine ⟨blanks.reverse, fun c hc => hblank c (List.mem_reverse.1 hc), ?_⟩
  rw [← List.reverse_inj, trimEnd, ← List.reverse_append, List.reverse_reverse]
  exact hs

/-- A text is what is left of it between blanks. -/
theorem exists_append_trim (s : Text) :
    ∃ before behind, (∀ c ∈ before ++ behind, isBlank c = true) ∧
      s = before ++ (s.trim ++ behind) := by
  obtain ⟨before, hbefore, hstart⟩ := exists_append_trimStart s.trimEnd
  obtain ⟨behind, hbehind, hend⟩ := exists_trimEnd_append s
  refine ⟨before, behind, fun c hc => ?_, ?_⟩
  · rcases List.mem_append.1 hc with hc | hc
    · exact hbefore c hc
    · exact hbehind c hc
  · rw [← List.append_assoc, trim, ← hstart]
    exact hend

/-- Nothing is left of a text when it holds nothing but blanks. -/
theorem trim_eq_nil_iff {s : Text} : s.trim = [] ↔ ∀ c ∈ s, isBlank c = true := by
  constructor
  · intro h
    obtain ⟨before, behind, hblank, hs⟩ := exists_append_trim s
    rw [h, List.nil_append] at hs
    rw [hs]
    exact hblank
  · intro h
    have hend : s.trimEnd = [] := by
      have hreverse : ∀ c ∈ s.reverse, isBlank c = true := fun c hc => h c (List.mem_reverse.1 hc)
      rw [trimEnd, ← List.append_nil s.reverse, List.dropWhile_append_of_pos hreverse]
      rfl
    rw [trim, hend]
    rfl

/-- Nothing is trimmed when there are no blanks to trim. -/
theorem trim_eq_self_iff {s before behind : Text} (h : s = before ++ (s.trim ++ behind)) :
    s.trim = s ↔ before = [] ∧ behind = [] := by
  have hlength := congrArg List.length h
  rw [List.length_append, List.length_append] at hlength
  constructor
  · intro hs
    rw [hs] at hlength
    exact ⟨List.length_eq_zero_iff.1 (by omega), List.length_eq_zero_iff.1 (by omega)⟩
  · rintro ⟨rfl, rfl⟩
    rw [List.nil_append, List.append_nil] at h
    exact h.symm

theorem startsClean_trim (s : Text) : startsClean s.trim := startsClean_trimStart s.trimEnd

theorem endsClean_trim (s : Text) : endsClean s.trim := endsClean_trimStart (endsClean_trimEnd s)

end Typescribe.Text
