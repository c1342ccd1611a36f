/-
Word characters, which decide where a word begins and ends.

A boundary lies between a word character and one that is none; the start of
a text counts as none.  `isWord` settles ASCII by itself and looks every
other character up in `WordRanges`.
-/
import Typescribe.Text.Basic
import Typescribe.Text.WordRanges

namespace Typescribe.Text

/-- A character that belongs to a word. -/
def isWord (c : Char) : Bool :=
  if c.toNat < 0x80 then c.isAlphanum || c == '_'
  else WordRanges.all.any fun (low, high) => low ≤ c.toNat && c.toNat ≤ high

/-- Every letter and digit of core's class is a word character. -/
theorem isWord_of_isAlphanum {c : Char} (h : c.isAlphanum = true) : isWord c = true := by
  have hc : c.toNat < 0x80 := by
    change (decide (c.val ≥ 'A'.val ∧ c.val ≤ 'Z'.val) ||
      (decide (c.val ≥ 'a'.val) && decide (c.val ≤ 'z'.val)) ||
      (decide (c.val ≥ '0'.val) && decide (c.val ≤ '9'.val))) = true at h
    simp only [Bool.or_eq_true, Bool.and_eq_true, decide_eq_true_eq] at h
    rcases h with (h | h) | h <;>
      exact Nat.lt_of_le_of_lt (UInt32.le_iff_toNat_le.1 h.2) (by decide)
  simp [isWord, hc, h]

/-- The characters that markers and qualifiers are made of, letters apart,
belong to no word. -/
theorem isWord_punctuation {c : Char} (h : c ∈ ['.', '*', '[', ']']) : isWord c = false := by
  simp only [List.mem_cons, List.not_mem_nil, or_false] at h
  rcases h with rfl | rfl | rfl | rfl <;> decide

/-! ## ASCII classes -/

/-- A character that may start an identifier. -/
def isIdentStart (c : Char) : Bool := c.isAlpha || c == '_'

/-- A character that may continue an identifier. -/
def isIdentRest (c : Char) : Bool := c.isAlphanum || c == '_'

/-- An identifier: a letter or an underscore, then letters, digits and
underscores, all of them ASCII. -/
def isIdent : Text → Bool
  | [] => false
  | c :: rest => isIdentStart c && rest.all isIdentRest

end Typescribe.Text
