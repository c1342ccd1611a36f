/-
Where qualifiers and slice marks stand in a text that is put together from
pieces.

The search for qualifiers carries one bit from the left: whether a word
character stands just before.  A piece without small letters starts no
qualifier, so the search goes over it and comes out with the bit of its last
character.  A slice mark is two neighbouring characters, and only a piece
that ends in an opening bracket could share one with what follows.  Markers
have neither small letters nor an opening bracket at their end; that is why
both searches can be done piece by piece.
-/
import Typescribe.Signature.Qualifier

namespace Typescribe.Qualifier

/-! ## One qualifier -/

/-- A text starts with a qualifier when it starts with small letters and a
dot. -/
theorem behind?_eq_some_iff {s rest : Text} :
    behind? s = some rest ↔
      ∃ letters, letters ≠ [] ∧ (∀ c ∈ letters, c.isLower = true) ∧ s = letters ++ '.' :: rest := by
  unfold behind?
  constructor
  · intro h
    split at h
    · cases h
    · next hne =>
      split at h
      · next hd =>
        cases h
        refine ⟨s.takeWhile Char.isLower, hne, fun c hc => ?_, ?_⟩
        · exact List.all_eq_true.1 List.all_takeWhile c hc
        · rw [← hd, List.takeWhile_append_dropWhile]
      · cases h
  · rintro ⟨letters, hne, hlower, rfl⟩
    have htake : (letters ++ '.' :: rest).takeWhile Char.isLower = letters := by
      rw [List.takeWhile_append_of_pos hlower,
        List.takeWhile_cons_of_neg (by decide), List.append_nil]
    have hdrop : (letters ++ '.' :: rest).dropWhile Char.isLower = '.' :: rest := by
      rw [List.dropWhile_append_of_pos hlower, List.dropWhile_cons_of_neg (by decide)]
    rw [htake, if_neg hne, hdrop]
    rfl

theorem behind?_of_not_lower {c : Char} (h : c.isLower = false) (rest : Text) :
    behind? (c :: rest) = none := by
  rw [behind?, List.takeWhile_cons_of_neg (by simp [h]), if_pos rfl]

/-- Where there is no dot, no qualifier stands. -/
theorem behind?_of_no_dot {s : Text} (h : '.' ∉ s) : behind? s = none := by
  cases hs : behind? s with
  | none => rfl
  | some rest =>
      obtain ⟨letters, _, _, rfl⟩ := behind?_eq_some_iff.1 hs
      exact absurd (List.mem_append_right _ List.mem_cons_self) h

/-- Where no qualifier starts, none starts when what follows is replaced, if no
small letters with a dot come to stand there that did not stand there before. -/
theorem behind?_of_replaced {c : Char} {s t : Text} (hnone : behind? (c :: s) = none)
    (hstood : c.isLower = true → ∀ letters more, (∀ d ∈ letters, d.isLower = true) →
      t = letters ++ '.' :: more → ∃ behind, s = letters ++ '.' :: behind) :
    behind? (c :: t) = none := by
  rw [Option.eq_none_iff_forall_ne_some]
  intro more hmore
  obtain ⟨letters, hne, hlower, hs⟩ := behind?_eq_some_iff.1 hmore
  obtain ⟨d, letters, rfl⟩ := List.exists_cons_of_ne_nil hne
  obtain ⟨rfl, htail⟩ := List.cons.inj hs
  obtain ⟨behind, rfl⟩ := hstood (hlower c List.mem_cons_self) letters more
    (fun d hd => hlower d (List.mem_cons_of_mem c hd)) htail
  have hsome : behind? (c :: letters ++ '.' :: behind) = some behind :=
    behind?_eq_some_iff.2 ⟨c :: letters, hne, hlower, rfl⟩
  rw [List.cons_append, hnone] at hsome
  cases hsome

/-! ## Steps of the search -/

/-- Whether a word character stands at the end of a text, or before it when
it is empty. -/
def inWordAfter (inWord : Bool) (s : Text) : Bool := s.foldl (fun _ c => Text.isWord c) inWord

theorem inWordAfter_append (inWord : Bool) (s t : Text) :
    inWordAfter inWord (s ++ t) = inWordAfter (inWordAfter inWord s) t := List.foldl_append

/-- What stands before does not count behind a character. -/
theorem inWordAfter_concat (inWord : Bool) (s : Text) (c : Char) :
    inWordAfter inWord (s ++ [c]) = Text.isWord c := by
  rw [inWordAfter_append]
  rfl

/-- A word character stands at the end of a piece of nothing else. -/
theorem inWordAfter_of_isWord (inWord : Bool) {s : Text} (hne : s ≠ [])
    (h : ∀ c ∈ s, Text.isWord c = true) : inWordAfter inWord s = true := by
  rw [← List.dropLast_concat_getLast hne, inWordAfter_concat]
  exact h _ (List.getLast_mem hne)

theorem eraseAfter_cons (inWord : Bool) (c : Char) (rest : Text) :
    eraseAfter inWord (c :: rest) =
      match if inWord then none else behind? (c :: rest) with
      | some more => eraseAfter false more
      | none => c :: eraseAfter (Text.isWord c) rest := by
  rw [eraseAfter]
  split
  · next h => rw [h]
  · next h => rw [h]

/-- A qualifier at the start is taken out. -/
theorem eraseAfter_of_behind? {s more : Text} (h : behind? s = some more) :
    eraseAfter false s = eraseAfter false more := by
  cases s with
  | nil => cases h
  | cons c rest =>
      rw [eraseAfter_cons, if_neg Bool.false_ne_true, h]

theorem eraseAfter_of_not_lower (inWord : Bool) {c : Char} (h : c.isLower = false) (rest : Text) :
    eraseAfter inWord (c :: rest) = c :: eraseAfter (Text.isWord c) rest := by
  rw [eraseAfter_cons, behind?_of_not_lower h, ite_self]

theorem occursAfter_of_not_lower (inWord : Bool) {c : Char} (h : c.isLower = false)
    (rest : Text) : occursAfter inWord (c :: rest) = occursAfter (Text.isWord c) rest := by
  rw [occursAfter, behind?_of_not_lower h, Option.isSome_none, Bool.and_false, Bool.false_or]

/-! ## Pieces without small letters -/

/-- The search for a qualifier goes over a piece without small letters. -/
theorem occursAfter_append : ∀ (s : Text) (inWord : Bool) (rest : Text),
    (∀ c ∈ s, c.isLower = false) →
      occursAfter inWord (s ++ rest) = occursAfter (inWordAfter inWord s) rest
  | [], _, _, _ => rfl
  | c :: more, inWord, rest, h => by
      rw [List.cons_append, occursAfter_of_not_lower inWord (h c List.mem_cons_self)]
      exact occursAfter_append more (Text.isWord c) rest
        (fun d hd => h d (List.mem_cons_of_mem _ hd))

/-- Erasing keeps a piece without small letters. -/
theorem eraseAfter_append : ∀ (s : Text) (inWord : Bool) (rest : Text),
    (∀ c ∈ s, c.isLower = false) →
      eraseAfter inWord (s ++ rest) = s ++ eraseAfter (inWordAfter inWord s) rest
  | [], _, _, _ => rfl
  | c :: more, inWord, rest, h => by
      rw [List.cons_append, eraseAfter_of_not_lower inWord (h c List.mem_cons_self),
        eraseAfter_append more (Text.isWord c) rest (fun d hd => h d (List.mem_cons_of_mem _ hd))]
      rfl

/-- A text without a dot loses nothing. -/
theorem eraseAfter_of_no_dot : ∀ (s : Text) (inWord : Bool), '.' ∉ s → eraseAfter inWord s = s
  | [], _, _ => by rw [eraseAfter]
  | c :: rest, inWord, h => by
      rw [eraseAfter_cons, behind?_of_no_dot h, ite_self]
      show c :: eraseAfter (Text.isWord c) rest = c :: rest
      rw [eraseAfter_of_no_dot rest _ (fun hr => h (List.mem_cons_of_mem _ hr))]

/-- Small letters and a dot are taken out in front of a text without a dot. -/
theorem erase_qualified {letters name : Text} (hne : letters ≠ [])
    (hlower : ∀ c ∈ letters, c.isLower = true) (hdot : '.' ∉ name) :
    erase (letters ++ '.' :: name) = name := by
  rw [erase, eraseAfter_of_behind? (behind?_eq_some_iff.2 ⟨letters, hne, hlower, rfl⟩),
    eraseAfter_of_no_dot name false hdot]

/-! ## Where a qualifier stands -/

/-- A qualifier stands in a text when small letters and a dot stand in it,
behind something that ends in no word character. -/
theorem occursAfter_iff : ∀ (s : Text) (inWord : Bool),
    occursAfter inWord s = true ↔
      ∃ before letters behind, s = before ++ letters ++ '.' :: behind ∧
        inWordAfter inWord before = false ∧
        letters ≠ [] ∧ ∀ c ∈ letters, c.isLower = true := by
  intro s
  induction s with
  | nil =>
      intro inWord
      simp [occursAfter]
  | cons c rest ih =>
      intro inWord
      rw [occursAfter, Bool.or_eq_true, Bool.and_eq_true, Option.isSome_iff_exists, ih]
      constructor
      · rintro (⟨hw, more, hmore⟩ | ⟨before, letters, behind, rfl, hw, hne, hlower⟩)
        · obtain ⟨letters, hne, hlower, hs⟩ := behind?_eq_some_iff.1 hmore
          exact ⟨[], letters, more, hs, by simpa [inWordAfter] using hw, hne, hlower⟩
        · exact ⟨c :: before, letters, behind, rfl, hw, hne, hlower⟩
      · rintro ⟨before, letters, behind, hs, hw, hne, hlower⟩
        cases before with
        | nil =>
            refine Or.inl ⟨by simpa [inWordAfter] using hw, behind, ?_⟩
            rw [behind?_eq_some_iff]
            exact ⟨letters, hne, hlower, hs⟩
        | cons d before =>
            obtain ⟨rfl, rfl⟩ := List.cons.inj hs
            exact Or.inr ⟨before, letters, behind, rfl, hw, hne, hlower⟩

theorem occurs_of_no_dot {s : Text} (h : '.' ∉ s) : occurs s = false := by
  rw [← Bool.not_eq_true, occurs, occursAfter_iff]
  rintro ⟨before, letters, behind, rfl, _⟩
  exact h (List.mem_append_right _ List.mem_cons_self)

/-! ## Slice marks -/

/-- A character that does not open a slice mark is kept. -/
theorem eraseSlices_cons {c : Char} {rest : Text} (h : c = '[' → rest.head? ≠ some ']') :
    eraseSlices (c :: rest) = c :: eraseSlices rest := by
  rw [eraseSlices]
  intro more hc hrest
  rw [hrest] at h
  exact h hc rfl

theorem hasSlice_cons {c : Char} {rest : Text} (h : c = '[' → rest.head? ≠ some ']') :
    hasSlice (c :: rest) = hasSlice rest := by
  rw [hasSlice]
  intro more hc hrest
  rw [hrest] at h
  exact h hc rfl

/-- A piece without an opening bracket has no part in slice marks. -/
theorem eraseSlices_append : ∀ (s rest : Text), '[' ∉ s →
    eraseSlices (s ++ rest) = s ++ eraseSlices rest
  | [], _, _ => rfl
  | c :: more, rest, h => by
      rw [List.mem_cons, not_or] at h
      rw [List.cons_append, eraseSlices_cons (fun hc => absurd hc.symm h.1),
        eraseSlices_append more rest h.2, List.cons_append]

theorem hasSlice_append : ∀ (s rest : Text), '[' ∉ s → hasSlice (s ++ rest) = hasSlice rest
  | [], _, _ => rfl
  | c :: more, rest, h => by
      rw [List.mem_cons, not_or] at h
      rw [List.cons_append, hasSlice_cons (fun hc => absurd hc.symm h.1),
        hasSlice_append more rest h.2]

theorem eraseSlices_of_no_bracket {s : Text} (h : '[' ∉ s) : eraseSlices s = s := by
  have := eraseSlices_append s [] h
  rwa [List.append_nil, show eraseSlices [] = [] from rfl, List.append_nil] at this

theorem hasSlice_of_no_bracket {s : Text} (h : '[' ∉ s) : hasSlice s = false := by
  have := hasSlice_append s [] h
  rwa [List.append_nil] at this

end Typescribe.Qualifier
