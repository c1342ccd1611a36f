/-
Characters of identifiers: where they stand among the code points, and that
none of them is blank.
-/
import Typescribe.Text.Word

namespace Typescribe.Text

/-- A small letter stands between a and z. -/
theorem toNat_of_isLower {c : Char} (h : c.isLower = true) : 0x61 ≤ c.toNat ∧ c.toNat ≤ 0x7A := by
  have hbounds : (decide (c.val ≥ 'a'.val) && decide (c.val ≤ 'z'.val)) = true := h
  rw [Bool.and_eq_true] at hbounds
  exact ⟨UInt32.le_iff_toNat_le.1 (of_decide_eq_true hbounds.1),
    UInt32.le_iff_toNat_le.1 (of_decide_eq_true hbounds.2)⟩

theorem toNat_of_isUpper {c : Char} (h : c.isUpper = true) : 0x41 ≤ c.toNat ∧ c.toNat ≤ 0x5A := by
  have hbounds : c.val ≥ 'A'.val ∧ c.val ≤ 'Z'.val := of_decide_eq_true h
  exact ⟨UInt32.le_iff_toNat_le.1 hbounds.1, UInt32.le_iff_toNat_le.1 hbounds.2⟩

/-- Digits are no small letters. -/
theorem isLower_of_isDigit {c : Char} (h : c.isDigit = true) : c.isLower = false := by
  cases hl : c.isLower with
  | false => rfl
  | true =>
      have hletter := (toNat_of_isLower hl).1
      have hdigit : c.toNat ≤ 0x39 := (Char.isDigit_iff_toNat.1 h).2
      omega

/-- Letters, digits and the underscore continue an identifier. -/
theorem isIdentRest_iff {c : Char} : isIdentRest c = true ↔
    c.isUpper = true ∨ c.isLower = true ∨ c.isDigit = true ∨ c = '_' := by
  show ((c.isUpper || c.isLower || c.isDigit) || c == '_') = true ↔ _
  simp only [Bool.or_eq_true, beq_iff_eq, or_assoc]

/-- The characters of identifiers belong to words. -/
theorem isWord_of_isIdentRest {c : Char} (h : isIdentRest c = true) : isWord c = true := by
  rw [isIdentRest, Bool.or_eq_true, beq_iff_eq] at h
  rcases h with h | rfl
  · exact isWord_of_isAlphanum h
  · decide

theorem isWord_of_isLower {c : Char} (h : c.isLower = true) : isWord c = true :=
  isWord_of_isIdentRest (isIdentRest_iff.2 (.inr (.inl h)))

/-- The characters of identifiers stand between 0 and z. -/
theorem toNat_of_isIdentRest {c : Char} (h : isIdentRest c = true) :
    0x30 ≤ c.toNat ∧ c.toNat ≤ 0x7A := by
  rcases isIdentRest_iff.1 h with h | h | h | rfl
  · have := toNat_of_isUpper h
    omega
  · have := toNat_of_isLower h
    omega
  · have hdigit : 0x30 ≤ c.toNat ∧ c.toNat ≤ 0x39 := Char.isDigit_iff_toNat.1 h
    omega
  · decide

/-- The characters of identifiers are not blank. -/
theorem isBlank_of_isIdentRest {c : Char} (h : isIdentRest c = true) : isBlank c = false := by
  have hbounds := toNat_of_isIdentRest h
  simp only [isBlank, Bool.or_eq_false_iff, Bool.and_eq_false_iff, decide_eq_false_iff_not,
    beq_eq_false_iff_ne]
  omega

/-- An identifier is made of the characters that continue one. -/
theorem isIdentRest_of_isIdent {name : Text} (h : isIdent name = true) :
    ∀ c ∈ name, isIdentRest c = true := by
  cases name with
  | nil => cases h
  | cons d more =>
      rw [isIdent, Bool.and_eq_true, List.all_eq_true] at h
      intro c hc
      rcases List.mem_cons.1 hc with rfl | hc
      · have hstart : ((c.isUpper || c.isLower) || c == '_') = true := h.1
        simp only [Bool.or_eq_true, beq_iff_eq] at hstart
        rcases hstart with (hu | hl) | h_
        · exact isIdentRest_iff.2 (.inl hu)
        · exact isIdentRest_iff.2 (.inr (.inl hl))
        · exact isIdentRest_iff.2 (.inr (.inr (.inr h_)))
      · exact h.2 c hc

/-- An identifier goes on as long as such characters follow it. -/
theorem isIdent_append {name more : Text} (h : isIdent name = true)
    (hmore : ∀ c ∈ more, isIdentRest c = true) : isIdent (name ++ more) = true := by
  cases name with
  | nil => cases h
  | cons d rest =>
      rw [isIdent, Bool.and_eq_true] at h
      rw [List.cons_append, isIdent, List.all_append, h.1, h.2, List.all_eq_true.2 hmore]
      rfl

end Typescribe.Text
