/-
Package qualifiers and slice marks inside a text.

A qualifier is one or more small ASCII letters and a dot, starting at a word
boundary.  Both functions here go over a text once, from the left, and carry
along whether a word character stands just before; since the small letters
are word characters, a qualifier can only start where none does.
-/
import Typescribe.Text.Word

namespace Typescribe.Qualifier

/-- What follows the qualifier that a text starts with, when it starts with
one. -/
def behind? (s : Text) : Option Text :=
  if s.takeWhile Char.isLower = [] then none
  else
    match s.dropWhile Char.isLower with
    | '.' :: rest => some rest
    | _ => none

theorem length_of_behind? {s rest : Text} (h : behind? s = some rest) :
    rest.length < s.length := by
  unfold behind? at h
  split at h
  · simp at h
  · split at h
    · next hd =>
      have := (List.dropWhile_sublist (l := s) Char.isLower).length_le
      rw [hd] at this
      simp only [Option.some.injEq] at h
      subst h
      simp at this
      omega
    · simp at h

/-- Whether a qualifier stands anywhere in the text; `inWord` says whether a
word character stands just before it. -/
def occursAfter (inWord : Bool) : Text → Bool
  | [] => false
  | c :: rest => (!inWord && (behind? (c :: rest)).isSome) || occursAfter (Text.isWord c) rest

/-- Whether a qualifier stands anywhere in the text. -/
def occurs (s : Text) : Bool := occursAfter false s

/-- The text without its qualifiers; after each of them the search goes on
behind its dot. -/
def eraseAfter (inWord : Bool) (s : Text) : Text :=
  match s with
  | [] => []
  | c :: rest =>
    match _h : if inWord then none else behind? (c :: rest) with
    | some more => eraseAfter false more
    | none => c :: eraseAfter (Text.isWord c) rest
termination_by s.length
decreasing_by
  · split at _h
    · simp at _h
    · exact length_of_behind? _h
  · simp

/-- The text without its qualifiers. -/
def erase (s : Text) : Text := eraseAfter false s

/-! ## Slice marks -/

/-- Whether a bracket is closed at once anywhere in the text. -/
def hasSlice : Text → Bool
  | '[' :: ']' :: _ => true
  | _ :: rest => hasSlice rest
  | [] => false

/-- The text without its slice marks, found once from the left; a mark that
only comes about by the erasure stays. -/
def eraseSlices : Text → Text
  | '[' :: ']' :: rest => eraseSlices rest
  | c :: rest => c :: eraseSlices rest
  | [] => []

end Typescribe.Qualifier
