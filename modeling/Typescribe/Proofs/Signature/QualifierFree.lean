/-
No TypeScript type has a qualifier in it.

Qualifiers are taken out in one pass, and what stood apart before may stand
side by side after it.  Nothing that comes together there is a qualifier.  A
qualifier is taken out only where no word character stands before it, so the
gap it leaves never lies behind a letter; small letters and a dot that stand
side by side after the pass stood side by side before it, with the same
character in front of them or a gap where a word ends all the same, and the
pass would have taken them out.

Markers in front of a leaf and a slice mark behind it add neither a letter nor
a dot.
-/
import Mathlib.Data.List.Basic
import Typescribe.Proofs.Signature.TextualRule

namespace Typescribe

namespace Qualifier

/-- Small letters and a dot stand in the text, and no word character stands
before them. -/
def StandsIn (s : Text) : Prop :=
  ∃ before letters behind, s = before ++ letters ++ '.' :: behind ∧
    inWordAfter false before = false ∧ letters ≠ [] ∧ ∀ c ∈ letters, c.isLower = true

theorem occurs_iff_standsIn {s : Text} : occurs s = true ↔ StandsIn s := occursAfter_iff s false

instance (s : Text) : Decidable (StandsIn s) := decidable_of_iff _ occurs_iff_standsIn

/-! ## One pass -/

/-- Behind a word character, small letters and a dot that come out of the pass
went into it. -/
theorem exists_append_of_eraseAfter {letters : Text} (hlower : ∀ c ∈ letters, c.isLower = true)
    {s more : Text} (hs : eraseAfter true s = letters ++ '.' :: more) :
    ∃ rest, s = letters ++ '.' :: rest := by
  induction letters generalizing s with
  | nil =>
      cases s with
      | nil =>
          rw [eraseAfter] at hs
          cases hs
      | cons c rest =>
          rw [eraseAfter_cons, if_pos rfl] at hs
          obtain ⟨rfl, -⟩ := List.cons.inj hs
          exact ⟨rest, rfl⟩
  | cons d letters ih =>
      cases s with
      | nil =>
          rw [eraseAfter] at hs
          cases hs
      | cons c rest =>
          rw [eraseAfter_cons, if_pos rfl] at hs
          obtain ⟨rfl, htail⟩ := List.cons.inj hs
          rw [Text.isWord_of_isLower (hlower c List.mem_cons_self)] at htail
          obtain ⟨behind, rfl⟩ := ih (fun d hd => hlower d (List.mem_cons_of_mem c hd)) htail
          exact ⟨behind, rfl⟩

/-- Where no qualifier starts before the pass, none starts after it. -/
theorem behind?_eraseAfter {c : Char} {rest : Text} (h : behind? (c :: rest) = none) :
    behind? (c :: eraseAfter (Text.isWord c) rest) = none := by
  apply behind?_of_replaced h
  intro hc letters more hlower hrest
  rw [Text.isWord_of_isLower hc] at hrest
  exact exists_append_of_eraseAfter hlower hrest

/-- The pass leaves no qualifier in what it goes over. -/
theorem occursAfter_eraseAfter (inWord : Bool) (s : Text) :
    occursAfter inWord (eraseAfter inWord s) = false := by
  induction inWord, s using eraseAfter.induct with
  | case1 inWord =>
      rw [eraseAfter]
      rfl
  | case2 inWord c rest more hmore ih =>
      cases inWord with
      | true => cases hmore
      | false =>
          rw [eraseAfter_of_behind? hmore]
          exact ih
  | case3 inWord c rest hnone ih =>
      have hnone' : (if inWord then none else behind? (c :: rest)) = none := hnone
      rw [eraseAfter_cons, hnone']
      show occursAfter inWord (c :: eraseAfter (Text.isWord c) rest) = false
      rw [occursAfter, ih, Bool.or_false]
      cases inWord with
      | true => rfl
      | false => rw [behind?_eraseAfter hnone', Option.isSome_none, Bool.and_false]

theorem occurs_erase (s : Text) : occurs (erase s) = false := occursAfter_eraseAfter false s

/-! ## What is put around it -/

/-- A text without a dot brings no qualifier about when it is put behind. -/
theorem StandsIn.of_append {s t : Text} (ht : '.' ∉ t) (h : StandsIn (s ++ t)) : StandsIn s := by
  obtain ⟨before, letters, behind, hs, hletters⟩ := h
  rcases List.append_eq_append_iff.1 hs with ⟨shared, -, rfl⟩ | ⟨shared, rfl, hshared⟩
  · exact absurd (List.mem_append_right shared List.mem_cons_self) ht
  · cases shared with
    | nil =>
        rw [List.nil_append] at hshared
        exact absurd (hshared ▸ List.mem_cons_self) ht
    | cons c more =>
        obtain ⟨rfl, -⟩ := List.cons.inj hshared
        exact ⟨before, letters, more, rfl, hletters⟩

end Qualifier

open Qualifier

/-- What is left of a readable leaf has no qualifier in it. -/
theorem Leaf.occurs_bare {leaf : Leaf} (h : leaf.IsReadable) : occurs leaf.bare = false := by
  cases leaf with
  | primitive kind =>
      have hrest := Text.isIdentRest_of_isIdent (isIdent_name kind)
      exact occurs_of_no_dot (not_mem_of_isIdentRest hrest).2
  | qualified package name =>
      exact occurs_of_no_dot (not_mem_of_isIdentRest (Text.isIdentRest_of_isIdent h.2)).2
  | verbatim text => exact occurs_erase (eraseSlices text)

namespace Signature

/-- Markers stay in place, and add no qualifier. -/
theorem occurs_bareUnder (leaf : Leaf) (markers : List Marker) :
    occurs (bareUnder leaf markers).1 = occurs leaf.bare := by
  induction markers with
  | nil => rfl
  | cons m more ih =>
      by_cases hm : m = .slice
      · subst hm
        exact ih
      · rw [bareUnder_cons hm, m.occurs_text_append, ih]

theorem not_standsIn_typeScript {s : Signature} (h : s.leaf.IsReadable) {typeName : Text}
    (ht : s.typeScript = .ok typeName) : ¬StandsIn typeName := by
  have hbare : ¬StandsIn s.bare.1 := by
    rw [← occurs_iff_standsIn, bare, occurs_bareUnder, Leaf.occurs_bare h]
    exact Bool.false_ne_true
  rw [typeScript] at ht
  split at ht
  · -- a slice mark behind has no dot
    cases ht
    split
    · exact fun hs => hbare (hs.of_append (by decide))
    · exact hbare
  · split at ht
    · next kind _ =>
      cases ht
      rw [← occurs_iff_standsIn]
      cases kind <;> decide
    · cases ht

/-- **No qualifier survives.**  The TypeScript type of whatever is read from a
text has no qualifier in it, and one pass takes the last qualifier out of any
text: neither do chained qualifiers leave one behind, nor letters that come
together. -/
theorem typeScript_qualifier_free (s : Text) :
    (∀ typeName, (ofText s).typeScript = .ok typeName → ¬StandsIn typeName) ∧
      ¬StandsIn (erase s) := by
  refine ⟨fun typeName => not_standsIn_typeScript (isReadable_ofText s), ?_⟩
  rw [← occurs_iff_standsIn, occurs_erase]
  exact Bool.false_ne_true

/-- Two packages are chained in the key of a map, and a slice mark stands
between the letters of the next. -/
theorem typeScript_qualifier_free_map :
    (ofText "[3]*map[a.b.Key][]*c[]d.e.V").typeScript = .ok "[3]*map[Key]*V[]" ∧
      ¬StandsIn "[3]*map[Key]*V[]" := by
  have htype : (ofText "[3]*map[a.b.Key][]*c[]d.e.V").typeScript = .ok "[3]*map[Key]*V[]" := by
    decide +kernel
  exact ⟨htype, (typeScript_qualifier_free _).1 _ htype⟩

end Signature

end Typescribe
