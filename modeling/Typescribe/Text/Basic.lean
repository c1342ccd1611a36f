/-
Texts, and the two operations every reader of this library starts from:
taking blanks off the ends and cutting at a character.

A text is a list of characters.  Names, signatures, tags, declarations and
messages are all texts, so that a statement about them is a statement about
lists.  String literals stand for their lists of characters.
-/

namespace Typescribe

/-- A text: its characters in order. -/
abbrev Text := List Char

/-- A string literal may be written where a text is wanted. -/
instance : Coe String Text := ⟨String.toList⟩

namespace Text

/-! ## Blanks -/

/-- The characters with the Unicode property `White_Space`.  The zero-width
space U+200B, the byte order mark U+FEFF and the separators U+001C to U+001F
are not among them. -/
def isBlank (c : Char) : Bool :=
  let n := c.toNat
  (0x9 ≤ n && n ≤ 0xD) || n == 0x20 || n == 0x85 || n == 0xA0 || n == 0x1680 ||
    (0x2000 ≤ n && n ≤ 0x200A) || n == 0x2028 || n == 0x2029 || n == 0x202F ||
    n == 0x205F || n == 0x3000

/-- The text without the blanks at its start. -/
def trimStart (s : Text) : Text := s.dropWhile isBlank

/-- The text without the blanks at its end. -/
def trimEnd (s : Text) : Text := (s.reverse.dropWhile isBlank).reverse

/-- The text without the blanks at either end. -/
def trim (s : Text) : Text := s.trimEnd.trimStart

theorem length_trimStart_le (s : Text) : s.trimStart.length ≤ s.length :=
  (List.dropWhile_sublist isBlank).length_le

/-! ## Cutting -/

/-- What stands before and after the first `c`, when the text has one. -/
def cutAt (c : Char) : Text → Option (Text × Text)
  | [] => none
  | d :: rest =>
    if d = c then some ([], rest)
    else (cutAt c rest).map fun (before, behind) => (d :: before, behind)

/-- A cut loses the character it was made at and nothing else. -/
theorem eq_of_cutAt {c : Char} {s before behind : Text} (h : cutAt c s = some (before, behind)) :
    s = before ++ c :: behind ∧ c ∉ before := by
  induction s generalizing before with
  | nil => simp [cutAt] at h
  | cons d rest ih =>
    rw [cutAt] at h
    split at h
    · next hd =>
      simp only [Option.some.injEq, Prod.mk.injEq] at h
      obtain ⟨rfl, rfl⟩ := h
      simp [hd]
    · next hd =>
      obtain ⟨⟨b, e⟩, hb, he⟩ := Option.map_eq_some_iff.1 h
      simp only [Prod.mk.injEq] at he
      obtain ⟨rfl, rfl⟩ := he
      obtain ⟨h1, h2⟩ := ih hb
      exact ⟨by simp [h1], by simp [h2, Ne.symm hd]⟩

/-- A text is cut at its first `c`. -/
theorem cutAt_append {c : Char} : ∀ {before : Text}, c ∉ before → ∀ (behind : Text),
    cutAt c (before ++ c :: behind) = some (before, behind)
  | [], _, behind => by simp [cutAt]
  | d :: more, h, behind => by
      rw [List.mem_cons, not_or] at h
      rw [List.cons_append, cutAt, if_neg (Ne.symm h.1), cutAt_append h.2 behind, Option.map_some]

/-- Only a text without any `c` cannot be cut. -/
theorem cutAt_eq_none_iff {c : Char} {s : Text} : cutAt c s = none ↔ c ∉ s := by
  constructor
  · intro h hmem
    obtain ⟨before, behind, rfl, hc⟩ := List.eq_append_cons_of_mem hmem
    rw [cutAt_append hc] at h
    cases h
  · intro h
    cases hs : cutAt c s with
    | none => rfl
    | some pair =>
        have := (eq_of_cutAt (s := s) (c := c) hs).1
        exact absurd (this ▸ List.mem_append_right _ List.mem_cons_self) h

theorem length_of_cutAt {c : Char} {s before behind : Text}
    (h : cutAt c s = some (before, behind)) : behind.length < s.length := by
  rw [(eq_of_cutAt h).1]
  simp
  omega

/-- The pieces between the occurrences of `c`: always one more than those. -/
def splitAll (c : Char) : Text → List Text
  | [] => [[]]
  | d :: rest =>
    if d = c then [] :: splitAll c rest
    else
      match splitAll c rest with
      | [] => [[d]]
      | piece :: more => (d :: piece) :: more

/-! ## Decimal numerals -/

/-- A number in decimal digits, without leading zeros. -/
def decimal (n : Nat) : Text := Nat.toDigits 10 n

/-- The number that a row of decimal digits stands for; leading zeros are
allowed, an empty row is no number. -/
def ofDecimal? (s : Text) : Option Nat :=
  if s ≠ [] ∧ s.all Char.isDigit then some (Nat.ofDigitChars 10 s 0) else none

/-- A number reads back from its digits. -/
theorem ofDecimal?_decimal (n : Nat) : ofDecimal? (decimal n) = some n := by
  have hd : (decimal n).all Char.isDigit = true := by
    rw [List.all_eq_true]
    intro c hc
    exact Nat.isDigit_of_mem_toDigits (by decide) (by decide) hc
  have hne : decimal n ≠ [] := Nat.toDigits_ne_nil
  rw [ofDecimal?, if_pos ⟨hne, hd⟩, decimal, Nat.ofDigitChars_toDigits (by decide) (by decide)]

end Text

end Typescribe
