/-
The TypeScript type of any row of markers around any leaf.

The type is found by recursion over the markers, outermost first: a flag is
carried out of the leaf and set at each slice, pointers and arrays are put in
front, and pointers are dropped where no qualifier stands.  What comes of it can
be read off the row as a whole.  Of a foreign signature the markers that are no
slices stay, in their order and in front of the bare leaf; slices leave one mark
behind it, however many there are and wherever they stand.  Of any other
signature only a primitive type behind nothing but pointers has a type.

`bareUnder_eq` is the induction over the row; everything else is cases on the
leaf.
-/
import Mathlib.Data.List.TakeWhile
import Typescribe.Proofs.Signature.Marks
import Typescribe.Proofs.Signature.QualifierFree

namespace Typescribe

open Qualifier

namespace Qualifier

/-- A slice mark is a part of the text. -/
def SliceStandsIn (s : Text) : Prop := Marker.slice.text <:+: s

theorem hasSlice_iff {s : Text} : hasSlice s = true ↔ SliceStandsIn s := by
  unfold SliceStandsIn
  fun_induction hasSlice s with
  | case1 rest => exact ⟨fun _ => ⟨[], rest, rfl⟩, fun _ => rfl⟩
  | case2 c rest hopen ih =>
      rw [ih, List.infix_cons_iff]
      refine ⟨.inr, fun h => h.resolve_left ?_⟩
      rintro ⟨more, hs⟩
      obtain ⟨rfl, rfl⟩ := List.cons.inj hs
      exact hopen more rfl rfl
  | case3 => simp [Marker.text]

instance (s : Text) : Decidable (SliceStandsIn s) := decidable_of_iff _ hasSlice_iff

end Qualifier

namespace Signature

/-! ## Foreign signatures -/

/-- What stays of markers when slice marks are erased. -/
def keptText (markers : List Marker) : Text := (markers.filter (· ≠ .slice)).flatMap Marker.text

theorem keptText_slice (more : List Marker) : keptText (.slice :: more) = keptText more := rfl

theorem keptText_cons {m : Marker} (h : m ≠ .slice) (more : List Marker) :
    keptText (m :: more) = m.text ++ keptText more := by
  rw [keptText, List.filter_cons_of_pos (by simpa using h), List.flatMap_cons, keptText]

/-- Under markers, the bare leaf stands behind those that stay, and there is a
slice mark when one is among them or in the leaf. -/
theorem bareUnder_eq (leaf : Leaf) (markers : List Marker) :
    bareUnder leaf markers
      = (keptText markers ++ leaf.bare, decide (.slice ∈ markers ∨ leaf.hasSlice = true)) := by
  induction markers with
  | nil => simp [bareUnder, keptText]
  | cons m more ih =>
      by_cases hm : m = .slice
      · subst hm
        rw [bareUnder, ih, keptText_slice]
        simp
      · rw [bareUnder_cons hm, ih, keptText_cons hm, List.append_assoc]
        simp [Ne.symm hm]

theorem typeScript_of_foreign {markers : List Marker} {leaf : Leaf} (h : leaf.isForeign = true) :
    typeScript ⟨markers, leaf⟩ = .ok (keptText markers ++ leaf.bare ++
      if .slice ∈ markers ∨ leaf.hasSlice = true then Marker.slice.text else []) := by
  rw [typeScript, isForeign, if_pos h, bare, bareUnder_eq]
  by_cases hs : .slice ∈ markers ∨ leaf.hasSlice = true
  · simp only [hs, decide_true, if_true]
    rfl
  · simp only [hs, decide_false, Bool.false_eq_true, if_false, List.append_nil]

/-! ## Signatures without a qualifier -/

/-- Without a qualifier, a signature that is no primitive type behind its
leading pointers is rejected as it stands behind them. -/
theorem typeScript_of_not_primitive {markers : List Marker} {leaf : Leaf}
    (hforeign : leaf.isForeign = false)
    (h : ∀ kind, dropPointers ⟨markers, leaf⟩ ≠ ⟨[], .primitive kind⟩) :
    typeScript ⟨markers, leaf⟩ = .error (.unsupportedType (dropPointers ⟨markers, leaf⟩).text) := by
  rw [typeScript, isForeign, hforeign, if_neg Bool.false_ne_true]
  split
  · next kind hd => exact absurd hd (h kind)
  · rfl

theorem typeScript_primitive (markers : List Marker) (kind : Primitive) :
    typeScript ⟨markers, .primitive kind⟩ =
      if ∀ m ∈ markers, m = .pointer then .ok kind.typeName
      else .error (.unsupportedType (dropPointers ⟨markers, .primitive kind⟩).text) := by
  have hnil : markers.dropWhile (· = .pointer) = [] ↔ ∀ m ∈ markers, m = .pointer := by
    simp
  split
  · next hall =>
    rw [typeScript, isForeign, Leaf.isForeign, if_neg Bool.false_ne_true, dropPointers,
      hnil.2 hall]
  · next hsome =>
    refine typeScript_of_not_primitive rfl fun kind' hd => hsome (hnil.1 ?_)
    exact congrArg Signature.markers hd

/-! ## Any signature -/

/-- **What a signature stands for, read off its markers and its leaf.**  With
a qualified leaf, or with text in which a qualifier stands, it is what the
markers leave in front, the name or what is left of the text, and one slice
mark if there was any; a primitive type behind pointers only is its counterpart;
and everything else is rejected as it is written behind its leading pointers.
This holds for any markers in any order and any leaf, also one that no text is
read as.  What is left of a text are the characters that belong to none of its
slice marks, and of these the ones that then belong to no qualifier. -/
theorem typeScript_around (markers : List Marker) (leaf : Leaf) :
    let kept := (markers.filter (· ≠ .slice)).flatMap Marker.text
    let rejected := (markers.dropWhile (· = .pointer)).flatMap Marker.text ++ leaf.text
    (typeScript ⟨markers, leaf⟩ =
      match leaf with
      | .qualified _ name => .ok (kept ++ name ++ if .slice ∈ markers then Marker.slice.text else [])
      | .verbatim text =>
        if StandsIn text then
          .ok (kept ++ erase (eraseSlices text) ++
            if .slice ∈ markers ∨ SliceStandsIn text then Marker.slice.text else [])
        else .error (.unsupportedType rejected)
      | .primitive kind =>
        if ∀ m ∈ markers, m = .pointer then .ok kind.typeName
        else .error (.unsupportedType rejected)) ∧
    ∀ text left, (Leaves IsSlice text left ↔ left = eraseSlices text) ∧
      (Leaves IsQualifier text left ↔ left = erase text) := by
  intro kept rejected
  refine ⟨?_, fun text left => ⟨leaves_slices_iff, leaves_qualifiers_iff⟩⟩
  cases leaf with
  | primitive kind => exact typeScript_primitive markers kind
  | qualified package name =>
      rw [typeScript_of_foreign rfl]
      simp [Leaf.bare, Leaf.hasSlice, keptText, kept]
  | verbatim text =>
      by_cases hs : StandsIn text
      · have hforeign : (Leaf.verbatim text).isForeign = true := occurs_iff_standsIn.2 hs
        rw [typeScript_of_foreign hforeign]
        simp only [if_pos hs, Leaf.bare, Leaf.hasSlice, hasSlice_iff, keptText, kept]
      · simp only [if_neg hs]
        refine typeScript_of_not_primitive ?_ ?_
        · rw [← Bool.not_eq_true]
          exact fun h => hs (occurs_iff_standsIn.1 h)
        · intro kind hd
          cases congrArg Signature.leaf hd

/-- A slice of arrays of pointers to slices. -/
example : typeScript ⟨[.slice, .array 3, .pointer, .slice], .qualified "geo" "Point"⟩
    = .ok "[3]*Point[]" := by
  decide +kernel

end Signature

end Typescribe
