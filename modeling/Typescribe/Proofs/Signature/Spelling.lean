/-
The spellings of a marker, and the reader that knows them.

A marker is written in one way, but an array's length may be spelled in many: a
plus sign may stand before it, and zeros.  The reader takes a marker off the
front of a text exactly when the text starts with one of its spellings.  No
spelling is the start of another one's text, since a star is read at once and a
bracket up to where it is closed; so what is read off the front is settled by the
text alone.
-/
import Typescribe.Proofs.Text.Trim
import Typescribe.Signature.Reader

namespace Typescribe

namespace Text

/-- A number is read from decimal digits, one or more, and from nothing else. -/
theorem ofDecimal?_eq_some_iff {s : Text} {n : Nat} : ofDecimal? s = some n ↔
    s ≠ [] ∧ (∀ c ∈ s, c.isDigit = true) ∧ Nat.ofDigitChars 10 s 0 = n := by
  unfold ofDecimal?
  constructor
  · intro h
    split at h
    · next hs => exact ⟨hs.1, List.all_eq_true.1 hs.2, Option.some.inj h⟩
    · cases h
  · rintro ⟨hne, hdigit, hvalue⟩
    rw [if_pos ⟨hne, List.all_eq_true.2 hdigit⟩, hvalue]

end Text

namespace Marker

/-! ## Lengths -/

/-- A length is spelled in digits, zeros in front or not, perhaps behind a plus
sign. -/
structure SpellsLength (n : UInt64) (sign digits : Text) : Prop where
  sign : sign = [] ∨ sign = ['+']
  digits_ne_nil : digits ≠ []
  isDigit : ∀ c ∈ digits, c.isDigit = true
  value : Nat.ofDigitChars 10 digits 0 = n.toNat

theorem length?_eq_some_iff {s : Text} {n : UInt64} :
    length? s = some n ↔ ∃ sign digits, s = sign ++ digits ∧ SpellsLength n sign digits := by
  have hnumber : ∀ {digits : Text}, ((Text.ofDecimal? digits).bind fun k =>
        if k < UInt64.size then some (UInt64.ofNat k) else none) = some n ↔
      Text.ofDecimal? digits = some n.toNat := by
    intro digits
    rw [Option.bind_eq_some_iff]
    constructor
    · rintro ⟨k, hk, hn⟩
      split at hn
      · next hlt =>
        rw [hk, ← Option.some.inj hn, UInt64.toNat_ofNat_of_lt' hlt]
      · cases hn
    · intro hk
      exact ⟨n.toNat, hk, by rw [if_pos n.toNat_lt, UInt64.ofNat_toNat]⟩
  unfold length?
  constructor
  · intro h
    split at h
    · next digits =>
      obtain ⟨hne, hdigit, hvalue⟩ := Text.ofDecimal?_eq_some_iff.1 (hnumber.1 h)
      exact ⟨['+'], digits, rfl, .inr rfl, hne, hdigit, hvalue⟩
    · obtain ⟨hne, hdigit, hvalue⟩ := Text.ofDecimal?_eq_some_iff.1 (hnumber.1 h)
      exact ⟨[], s, rfl, .inl rfl, hne, hdigit, hvalue⟩
  · rintro ⟨sign, digits, rfl, hsign, hne, hdigit, hvalue⟩
    have hread := hnumber.2 (Text.ofDecimal?_eq_some_iff.2 ⟨hne, hdigit, hvalue⟩)
    rcases hsign with rfl | rfl
    · rw [List.nil_append]
      split
      · -- digits do not start with a plus sign
        exact absurd (hdigit '+' List.mem_cons_self) (by decide)
      · exact hread
    · exact hread

/-! ## Spellings -/

/-- The ways to write a marker. -/
inductive Spells : Marker → Text → Prop
  | pointer : Spells pointer "*"
  | slice : Spells slice "[]"
  | array {n : UInt64} {sign digits : Text} (length : SpellsLength n sign digits) :
      Spells (array n) ('[' :: (sign ++ digits) ++ [']'])

/-- A marker is read off a text that starts with a spelling of it. -/
theorem read?_eq_some_iff {s rest : Text} {m : Marker} :
    read? s = some (m, rest) ↔ ∃ spelling, m.Spells spelling ∧ s = spelling ++ rest := by
  constructor
  · intro h
    unfold read? at h
    split at h
    · cases h
      exact ⟨_, .pointer, rfl⟩
    · split at h
      · next element hcut =>
        cases h
        exact ⟨_, .slice, by rw [(Text.eq_of_cutAt hcut).1]; rfl⟩
      · next size element _ hcut =>
        obtain ⟨n, hn, he⟩ := Option.map_eq_some_iff.1 h
        cases he
        obtain ⟨sign, digits, rfl, hlength⟩ := length?_eq_some_iff.1 hn
        exact ⟨_, .array hlength, by simp [(Text.eq_of_cutAt hcut).1]⟩
      · cases h
    · cases h
  · rintro ⟨spelling, hspells, rfl⟩
    cases hspells with
    | pointer => rfl
    | slice => rfl
    | @array n sign digits hlength =>
        have hread : length? (sign ++ digits) = some n :=
          length?_eq_some_iff.2 ⟨sign, digits, rfl, hlength⟩
        have hclose : ']' ∉ sign ++ digits := by
          rw [List.mem_append, not_or]
          refine ⟨?_, fun hmem => absurd (hlength.isDigit _ hmem) (by decide)⟩
          rcases hlength.sign with rfl | rfl <;> decide
        have hcut : Text.cutAt ']' (sign ++ digits ++ ']' :: rest) = some (sign ++ digits, rest) :=
          Text.cutAt_append hclose rest
        have htext : '[' :: (sign ++ digits) ++ [']'] ++ rest
            = '[' :: (sign ++ digits ++ ']' :: rest) := by simp
        rw [htext, read?, hcut]
        cases hsize : sign ++ digits with
        | nil => exact absurd (List.append_eq_nil_iff.1 hsize).2 hlength.digits_ne_nil
        | cons c more =>
            rw [hsize] at hread
            show (length? (c :: more)).map _ = _
            rw [hread, Option.map_some]

namespace Spells

variable {m : Marker} {spelling : Text} (h : m.Spells spelling)
include h

/-- No blank stands at either end of a spelling. -/
theorem startsClean_append (rest : Text) : Text.startsClean (spelling ++ rest) := by
  intro c hc
  cases h with
  | pointer =>
      obtain rfl : '*' = c := Option.some.inj hc
      decide
  | slice =>
      obtain rfl : '[' = c := Option.some.inj hc
      decide
  | array _ =>
      obtain rfl : '[' = c := Option.some.inj hc
      decide

theorem endsClean : Text.endsClean spelling := by
  intro c hc
  cases h with
  | pointer =>
      obtain rfl : '*' = c := Option.some.inj hc
      decide
  | slice =>
      obtain rfl : ']' = c := Option.some.inj hc
      decide
  | array _ =>
      rw [List.getLast?_append] at hc
      obtain rfl : ']' = c := Option.some.inj hc
      decide

theorem ne_nil : spelling ≠ [] := by
  cases h with
  | pointer => decide
  | slice => decide
  | array _ => exact List.cons_ne_nil _ _

end Spells

/-! ## The written form -/

/-- The digits of a number are digits. -/
theorem isDigit_of_mem_decimal {n : Nat} {c : Char} (h : c ∈ Text.decimal n) :
    c.isDigit = true :=
  Nat.isDigit_of_mem_toDigits (by decide) (by decide) h

theorem decimal_ne_nil (n : Nat) : Text.decimal n ≠ [] := Nat.toDigits_ne_nil

/-- A marker is written in one of its spellings. -/
theorem spells_text (m : Marker) : m.Spells m.text := by
  cases m with
  | pointer => exact .pointer
  | slice => exact .slice
  | array n =>
      have hlength : SpellsLength n [] (Text.decimal n.toNat) := by
        obtain ⟨hne, hdigit, hvalue⟩ :=
          Text.ofDecimal?_eq_some_iff.1 (Text.ofDecimal?_decimal n.toNat)
        exact ⟨.inl rfl, hne, hdigit, hvalue⟩
      exact .array hlength

end Marker

end Typescribe
