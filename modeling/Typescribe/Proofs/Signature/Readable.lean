/-
Readable leaves: the leaves that reading a text can end in.

A primitive type is always one.  A qualified name is one when its package and
its name have the form that the reader asks for.  Text kept verbatim is one
when nothing before it would have taken it for something else: it has no
blanks at its ends, starts with no marker, is not of the qualified form and
is no primitive type's name.

The condition is stated on the text; below it is shown to say, step by step,
that trimming, the marker reader and the leaf reader all leave the text alone.
-/
import Typescribe.Proofs.Signature.Spelling
import Typescribe.Proofs.Text.Ident

namespace Typescribe

/-! ## Markers at the front of a text -/

namespace Marker

/-- A text starts with no marker when it starts with no star, and with no
bracket that holds nothing or a length. -/
theorem read?_eq_none_iff {s : Text} :
    read? s = none ↔ s.head? ≠ some '*' ∧
      ∀ size element, s = '[' :: size ++ ']' :: element → ']' ∉ size →
        size ≠ [] ∧ length? size = none := by
  unfold read?
  split
  · simp
  · next rest =>
    cases hc : Text.cutAt ']' rest with
    | none =>
        have hno : ']' ∉ rest := Text.cutAt_eq_none_iff.1 hc
        refine ⟨fun _ => ⟨by simp, ?_⟩, fun _ => rfl⟩
        intro size element he _
        rw [List.cons_append, List.cons.injEq] at he
        rw [he.2] at hno
        exact absurd (List.mem_append_right _ List.mem_cons_self) hno
    | some pair =>
        obtain ⟨size, element⟩ := pair
        obtain ⟨hrest, hsize⟩ := Text.eq_of_cutAt hc
        -- the cut is the only one there is
        have hone : ∀ size' element', '[' :: rest = '[' :: size' ++ ']' :: element' →
            ']' ∉ size' → size' = size := by
          intro size' element' he hsize'
          rw [List.cons_append, List.cons.injEq] at he
          rw [he.2, Text.cutAt_append hsize'] at hc
          cases hc
          rfl
        cases size with
        | nil =>
            constructor
            · intro h
              cases h
            · intro h
              exact absurd rfl (h.2 [] element (by simp [hrest]) hsize).1
        | cons d more =>
            show (length? (d :: more)).map _ = none ↔ _
            rw [Option.map_eq_none_iff]
            constructor
            · intro h
              refine ⟨by simp, fun size' element' he hsize' => ?_⟩
              rw [hone size' element' he hsize']
              exact ⟨List.cons_ne_nil d more, h⟩
            · intro h
              exact (h.2 (d :: more) element (by simp [hrest]) hsize).2
  · next hstar hbracket =>
    refine ⟨fun _ => ⟨?_, ?_⟩, fun _ => rfl⟩
    · intro h
      obtain ⟨rest, rfl⟩ := List.head?_eq_some_iff.1 h
      exact hstar rest rfl
    · intro size element he _
      exact absurd he (hbracket (size ++ ']' :: element))

end Marker

/-! ## Leaves -/

namespace Leaf

/-- A text that nothing else is made of when it is read, and that is kept
whole. -/
structure IsVerbatim (text : Text) : Prop where
  starts : Text.startsClean text
  ends : Text.endsClean text
  /-- No pointer stands at its front. -/
  star : text.head? ≠ some '*'
  /-- What an opening bracket at its front holds is neither nothing nor a
  length. -/
  bracket : ∀ size element, text = '[' :: size ++ ']' :: element → ']' ∉ size →
    size ≠ [] ∧ Marker.length? size = none
  /-- It is not of the qualified form. -/
  form : ∀ package name, text = package ++ '.' :: name →
    ¬(isPackage package = true ∧ Text.isIdent name = true)
  name : ∀ kind : Primitive, text ≠ kind.name

/-- A leaf that some text is read as. -/
def IsReadable : Leaf → Prop
  | primitive _ => True
  | qualified package name => isPackage package = true ∧ Text.isIdent name = true
  | verbatim text => IsVerbatim text

theorem ne_nil_of_isPackage {package : Text} (h : isPackage package = true) : package ≠ [] := by
  rintro rfl
  cases h

/-- Characters of a package name are letters, digits and underscores. -/
theorem isIdentRest_of_isPackage {package : Text} (h : isPackage package = true) :
    ∀ c ∈ package, Text.isIdentRest c = true := by
  cases package with
  | nil => cases h
  | cons d more =>
      rw [isPackage, Bool.and_eq_true, List.all_eq_true] at h
      intro c hc
      rcases List.mem_cons.1 hc with rfl | hc
      · exact Text.isIdentRest_iff.2 (.inr (.inl h.1))
      · have := h.2 c hc
        simp only [Bool.or_eq_true, beq_iff_eq] at this
        rcases this with (hl | hd) | hu
        · exact Text.isIdentRest_iff.2 (.inr (.inl hl))
        · exact Text.isIdentRest_iff.2 (.inr (.inr (.inl hd)))
        · exact Text.isIdentRest_iff.2 (.inr (.inr (.inr hu)))

/-- A text is of the qualified form when it is a package, a dot and an
identifier; it can be that in one way only. -/
theorem qualified?_eq_some_iff {s : Text} {leaf : Leaf} :
    qualified? s = some leaf ↔
      ∃ package name, s = package ++ '.' :: name ∧ leaf = .qualified package name ∧
        isPackage package = true ∧ Text.isIdent name = true := by
  unfold qualified?
  constructor
  · intro h
    split at h
    · next package name hc =>
      split at h
      · next hform =>
        cases h
        rw [Bool.and_eq_true] at hform
        exact ⟨package, name, (Text.eq_of_cutAt hc).1, rfl, hform⟩
      · cases h
    · cases h
  · rintro ⟨package, name, rfl, rfl, hp, hn⟩
    have hdot : '.' ∉ package := by
      intro hmem
      exact absurd (isIdentRest_of_isPackage hp '.' hmem) (by decide)
    rw [Text.cutAt_append hdot]
    simp [hp, hn]

/-- A text that is read as no qualified name has not the form of one. -/
theorem qualified?_eq_none_iff {s : Text} :
    qualified? s = none ↔ ∀ package name, s = package ++ '.' :: name →
      ¬(isPackage package = true ∧ Text.isIdent name = true) := by
  constructor
  · intro h package name he hform
    have : qualified? s = some (.qualified package name) :=
      qualified?_eq_some_iff.2 ⟨package, name, he, rfl, hform⟩
    rw [h] at this
    cases this
  · intro h
    cases hq : qualified? s with
    | none => rfl
    | some leaf =>
        obtain ⟨package, name, he, _, hform⟩ := qualified?_eq_some_iff.1 hq
        exact absurd hform (h package name he)

/-! ## Readable leaves are read back -/

/-- No blank stands in a leaf, unless it is kept verbatim. -/
theorem isBlank_of_mem_qualified {package name : Text} (hp : isPackage package = true)
    (hn : Text.isIdent name = true) :
    ∀ c ∈ package ++ '.' :: name, Text.isBlank c = false := by
  intro c hc
  rcases List.mem_append.1 hc with h | h
  · exact Text.isBlank_of_isIdentRest (isIdentRest_of_isPackage hp c h)
  · rcases List.mem_cons.1 h with rfl | h
    · decide
    · exact Text.isBlank_of_isIdentRest (Text.isIdentRest_of_isIdent hn c h)

/-- The names of the primitive types are identifiers. -/
theorem isIdent_name (kind : Primitive) : Text.isIdent kind.name = true := by
  cases kind with
  | int => decide
  | float64 => decide
  | string => decide
  | bool => decide

/-- Readable leaves have no blanks at their ends. -/
theorem clean_of_readable {leaf : Leaf} (h : leaf.IsReadable) :
    Text.startsClean leaf.text ∧ Text.endsClean leaf.text := by
  cases leaf with
  | primitive kind =>
      have hall : ∀ c ∈ kind.name, Text.isBlank c = false := by
        intro c hc
        exact Text.isBlank_of_isIdentRest (Text.isIdentRest_of_isIdent (isIdent_name kind) c hc)
      exact ⟨fun c hc => hall c (List.mem_of_head? hc), fun c hc => hall c (List.mem_of_getLast? hc)⟩
  | qualified package name =>
      have hall := isBlank_of_mem_qualified h.1 h.2
      exact ⟨fun c hc => hall c (List.mem_of_head? hc), fun c hc => hall c (List.mem_of_getLast? hc)⟩
  | verbatim text => exact ⟨h.starts, h.ends⟩

/-- A readable leaf starts with no marker. -/
theorem read?_of_readable {leaf : Leaf} (h : leaf.IsReadable) : Marker.read? leaf.text = none := by
  cases leaf with
  | primitive kind =>
      cases kind with
      | int => rfl
      | float64 => rfl
      | string => rfl
      | bool => rfl
  | qualified package name =>
      cases package with
      | nil => cases h.1
      | cons c more =>
          have hc := isIdentRest_of_isPackage h.1 c List.mem_cons_self
          rw [Marker.read?_eq_none_iff]
          refine ⟨?_, ?_⟩
          · intro hstar
            obtain rfl : c = '*' := Option.some.inj hstar
            exact absurd hc (by decide)
          · intro size element he
            obtain rfl : c = '[' := (List.cons.inj he).1
            exact absurd hc (by decide)
  | verbatim text => exact Marker.read?_eq_none_iff.2 ⟨h.star, h.bracket⟩

/-- A readable leaf is what its own text is read as. -/
theorem ofText_of_readable {leaf : Leaf} (h : leaf.IsReadable) : ofText leaf.text = leaf := by
  cases leaf with
  | primitive kind =>
      cases kind with
      | int => rfl
      | float64 => rfl
      | string => rfl
      | bool => rfl
  | qualified package name =>
      have hq : qualified? (package ++ '.' :: name) = some (.qualified package name) :=
        qualified?_eq_some_iff.2 ⟨package, name, rfl, rfl, h⟩
      show ofText (package ++ '.' :: name) = _
      rw [ofText, hq]
  | verbatim text =>
      have hq : qualified? text = none := qualified?_eq_none_iff.2 h.form
      have hn : Primitive.ofName? text = none := by
        cases hk : Primitive.ofName? text with
        | none => rfl
        | some kind => exact absurd (Primitive.ofName?_eq_some_iff.1 hk) (h.name kind)
      show ofText text = _
      rw [ofText, hq, hn]

/-! ## Only readable leaves are read -/

/-- A text without blanks at its ends and without a marker at its front is
read as a readable leaf. -/
theorem isReadable_ofText {s : Text} (hstart : Text.startsClean s) (hend : Text.endsClean s)
    (hmarker : Marker.read? s = none) : (ofText s).IsReadable := by
  unfold ofText
  split
  · next leaf hq =>
    obtain ⟨package, name, _, rfl, hform⟩ := qualified?_eq_some_iff.1 hq
    exact hform
  · next hq =>
    split
    · exact trivial
    · next hn =>
      obtain ⟨hstar, hbracket⟩ := Marker.read?_eq_none_iff.1 hmarker
      refine IsVerbatim.mk hstart hend hstar hbracket (qualified?_eq_none_iff.1 hq) ?_
      intro kind hk
      rw [Primitive.ofName?_eq_some_iff.2 hk] at hn
      cases hn

end Leaf

end Typescribe
