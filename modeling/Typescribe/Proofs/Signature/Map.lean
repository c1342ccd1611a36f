/-
References inside a map.

The reader does not take a map apart.  It keeps the text, and a reference in
it is seen by the search for qualifiers, which looks for small letters and a
dot.  On its own, a qualified name may also have digits and underscores in its
package.  So the two readings of a reference part ways on such a package:
`typeScript_map_qualified` says exactly where.

The key of a map holds no dot, and the bracket behind it belongs to no word;
no qualifier starts in front of that bracket, and the one behind it starts
where it would start on its own.
-/
import Mathlib.Data.List.Basic
import Typescribe.Proofs.Signature.TextualRule

namespace Typescribe

/-! ## Pieces without a dot -/

namespace Qualifier

section Barrier

variable {c : Char} (hlower : c.isLower = false) (hdot : c ≠ '.')
include hlower hdot

/-- No qualifier goes past a character that is no small letter and no dot. -/
theorem behind?_append_cons {s : Text} (hs : '.' ∉ s) (rest : Text) :
    behind? (s ++ c :: rest) = none := by
  rw [Option.eq_none_iff_forall_ne_some]
  intro more hmore
  obtain ⟨letters, -, hletters, he⟩ := behind?_eq_some_iff.1 hmore
  rcases List.append_eq_append_iff.1 he with ⟨shared, rfl, htail⟩ | ⟨shared, rfl, htail⟩
  · cases shared with
    | nil => exact hdot (List.cons.inj htail).1
    | cons d shared =>
        obtain rfl : c = d := (List.cons.inj htail).1
        have := hletters c (List.mem_append_right s List.mem_cons_self)
        exact absurd (this.symm.trans hlower) (by decide)
  · cases shared with
    | nil => exact hdot (List.cons.inj htail).1.symm
    | cons d shared =>
        obtain rfl : '.' = d := (List.cons.inj htail).1
        exact hs (List.mem_append_right letters List.mem_cons_self)

/-- The search goes over a piece without a dot, up to such a character. -/
theorem occursAfter_append_cons : ∀ (s : Text) (inWord : Bool) (rest : Text), '.' ∉ s →
    occursAfter inWord (s ++ c :: rest) = occursAfter (Text.isWord c) rest
  | [], inWord, rest, _ => occursAfter_of_not_lower inWord hlower rest
  | d :: more, inWord, rest, h => by
      have hnone := behind?_append_cons hlower hdot h rest
      rw [List.cons_append] at hnone ⊢
      rw [occursAfter, hnone, Option.isSome_none, Bool.and_false, Bool.false_or]
      exact occursAfter_append_cons more _ rest fun hmem => h (List.mem_cons_of_mem d hmem)

theorem eraseAfter_append_cons : ∀ (s : Text) (inWord : Bool) (rest : Text), '.' ∉ s →
    eraseAfter inWord (s ++ c :: rest) = s ++ c :: eraseAfter (Text.isWord c) rest
  | [], inWord, rest, _ => eraseAfter_of_not_lower inWord hlower rest
  | d :: more, inWord, rest, h => by
      have hnone := behind?_append_cons hlower hdot h rest
      rw [List.cons_append] at hnone ⊢
      rw [eraseAfter_cons, hnone, ite_self]
      exact congrArg (d :: ·) <|
        eraseAfter_append_cons more _ rest fun hmem => h (List.mem_cons_of_mem d hmem)

end Barrier

/-- A qualified name has a qualifier in it when its package is made of small
letters. -/
theorem occurs_qualified {package name : Text} (hp : Leaf.isPackage package = true)
    (hn : Text.isIdent name = true) :
    occurs (package ++ '.' :: name) = package.all Char.isLower := by
  have hrest := Leaf.isIdentRest_of_isPackage hp
  rw [Bool.eq_iff_iff, List.all_eq_true, occurs, occursAfter_iff]
  constructor
  · rintro ⟨before, letters, behind, hs, hword, -, hletters⟩
    have hpdot : '.' ∉ package := (Leaf.not_mem_of_isIdentRest hrest).2
    have hndot : '.' ∉ name :=
      (Leaf.not_mem_of_isIdentRest (Text.isIdentRest_of_isIdent hn)).2
    obtain ⟨rfl, -, -⟩ := (List.append_cons_inj_of_notMem hpdot hndot).1 hs
    -- in front of the letters would stand a character of the package
    have hbefore : before = [] := by
      by_cases hne : before = []
      · exact hne
      · have := inWordAfter_of_isWord false hne fun c hc =>
          Text.isWord_of_isIdentRest (hrest c (List.mem_append_left letters hc))
        exact absurd (this.symm.trans hword) (by decide)
    subst hbefore
    exact hletters
  · intro hletters
    exact ⟨[], package, name, rfl, rfl, Leaf.ne_nil_of_isPackage hp, hletters⟩

end Qualifier

/-! ## Maps -/

/-- The text of a map, with its key type in brackets before the type of its
elements. -/
def mapOf (key element : Text) : Text := 'm' :: 'a' :: 'p' :: '[' :: key ++ ']' :: element

namespace Leaf

/-- A map is kept verbatim. -/
theorem isVerbatim_mapOf (key : Text) {element : Text} (h : Text.endsClean element) :
    IsVerbatim (mapOf key element) := by
  have hbracket : '[' ∈ mapOf key element := by simp [mapOf]
  constructor
  case starts =>
    intro c hc
    obtain rfl : 'm' = c := Option.some.inj hc
    decide
  case ends =>
    have hkey : Text.endsClean ('m' :: 'a' :: 'p' :: '[' :: key ++ [']']) := by
      intro c hc
      rw [List.getLast?_concat, Option.some.injEq] at hc
      subst hc
      decide
    have := Text.endsClean_append hkey h
    rwa [← List.append_cons] at this
  case star => exact nofun
  case bracket =>
    intro size element' he
    exact absurd (List.cons.inj he).1 (by decide)
  case form =>
    rintro package name he ⟨hp, hn⟩
    rw [he] at hbracket
    exact not_mem_qualified hp hn hbracket
  case name =>
    intro kind he
    rw [he] at hbracket
    exact (not_mem_of_isIdentRest (Text.isIdentRest_of_isIdent (isIdent_name kind))).1 hbracket

/-- The key and its brackets stay in place, and hold no slice mark. -/
theorem slices_mapOf {key : Text} (hne : key ≠ []) (hkey : ∀ c ∈ key, Text.isIdentRest c = true)
    (element : Text) :
    Qualifier.eraseSlices (mapOf key element) = mapOf key (Qualifier.eraseSlices element) ∧
      Qualifier.hasSlice (mapOf key element) = Qualifier.hasSlice element := by
  have hopen : '[' ∉ key ++ [']'] := by
    rw [List.mem_append, not_or]
    exact ⟨(not_mem_of_isIdentRest hkey).1, by decide⟩
  have hfirst : '[' = '[' → (key ++ [']'] ++ element).head? ≠ some ']' := by
    intro _ hhead
    obtain ⟨c, more, rfl⟩ := List.exists_cons_of_ne_nil hne
    obtain rfl : c = ']' := Option.some.inj hhead
    exact absurd (hkey ']' List.mem_cons_self) (by decide)
  have htext : ∀ t, mapOf key t = ['m', 'a', 'p'] ++ '[' :: (key ++ [']'] ++ t) := by
    intro t
    simp [mapOf]
  rw [htext, htext, Qualifier.eraseSlices_append _ _ (by decide),
    Qualifier.hasSlice_append _ _ (by decide), Qualifier.eraseSlices_cons hfirst,
    Qualifier.hasSlice_cons hfirst, Qualifier.eraseSlices_append _ _ hopen,
    Qualifier.hasSlice_append _ _ hopen]
  exact ⟨rfl, rfl⟩

/-- Of a map, only the type of the elements is searched and shortened. -/
theorem searches_mapOf {key : Text} (hne : key ≠ []) (hkey : ∀ c ∈ key, Text.isIdentRest c = true)
    (element : Text) :
    (verbatim (mapOf key element)).isForeign = Qualifier.occurs element ∧
      (verbatim (mapOf key element)).hasSlice = Qualifier.hasSlice element ∧
      (verbatim (mapOf key element)).bare
        = mapOf key (Qualifier.erase (Qualifier.eraseSlices element)) := by
  have hdot : '.' ∉ 'm' :: 'a' :: 'p' :: '[' :: key := by
    have := (not_mem_of_isIdentRest hkey).2
    simpa using this
  have hlower : ']'.isLower = false := by decide
  have hclose : ']' ≠ '.' := by decide
  have hword : Text.isWord ']' = false := Text.isWord_punctuation (by decide)
  obtain ⟨herase, hslice⟩ := slices_mapOf hne hkey element
  refine ⟨?_, hslice, ?_⟩
  · rw [isForeign, Qualifier.occurs, mapOf,
      Qualifier.occursAfter_append_cons hlower hclose _ _ _ hdot, hword]
    rfl
  · rw [bare, herase, Qualifier.erase, mapOf,
      Qualifier.eraseAfter_append_cons hlower hclose _ _ _ hdot, hword]
    rfl

end Leaf

namespace Signature

theorem ofText_mapOf (key : Text) {element : Text} (h : Text.endsClean element) :
    ofText (mapOf key element) = ⟨[], .verbatim (mapOf key element)⟩ :=
  ofText_text (s := ⟨[], .verbatim (mapOf key element)⟩) (Leaf.isVerbatim_mapOf key h)

/-- **A reference that is recognised on its own is recognised inside a map
when its package is made of small letters**, and its package is then left out
in either place.  With any other package the map is no reference and has no
type. -/
theorem typeScript_map_qualified {package name key : Text} (hp : Leaf.isPackage package = true)
    (hn : Text.isIdent name = true) (hne : key ≠ [])
    (hkey : ∀ c ∈ key, Text.isIdentRest c = true) :
    (ofText (package ++ '.' :: name)).typeScript = .ok name ∧
    (ofText (mapOf key (package ++ '.' :: name))).isForeign = package.all Char.isLower ∧
    (ofText (mapOf key (package ++ '.' :: name))).typeScript
      = if package.all Char.isLower then .ok (mapOf key name)
        else .error (.unsupportedType (mapOf key (package ++ '.' :: name))) := by
  have hread : (Leaf.qualified package name).IsReadable := ⟨hp, hn⟩
  have halone : ofText (package ++ '.' :: name) = ⟨[], .qualified package name⟩ :=
    ofText_text (s := ⟨[], .qualified package name⟩) hread
  have hmap : ofText (mapOf key (package ++ '.' :: name))
      = ⟨[], .verbatim (mapOf key (package ++ '.' :: name))⟩ :=
    ofText_mapOf key (Leaf.clean_of_readable hread).2
  have hopen : '[' ∉ package ++ '.' :: name := Leaf.not_mem_qualified hp hn
  obtain ⟨hforeign, hslice, hbare⟩ := Leaf.searches_mapOf hne hkey (package ++ '.' :: name)
  rw [Qualifier.occurs_qualified hp hn] at hforeign
  rw [Qualifier.hasSlice_of_no_bracket hopen] at hslice
  rw [Qualifier.eraseSlices_of_no_bracket hopen] at hbare
  refine ⟨by rw [halone]; rfl, by rw [hmap]; exact hforeign, ?_⟩
  rw [hmap, typeScript, isForeign, hforeign]
  cases hletters : package.all Char.isLower with
  | false => rfl
  | true =>
      have hdot : '.' ∉ name :=
        (Leaf.not_mem_of_isIdentRest (Text.isIdentRest_of_isIdent hn)).2
      rw [Qualifier.erase_qualified (Leaf.ne_nil_of_isPackage hp) (List.all_eq_true.1 hletters)
        hdot] at hbare
      show Except.ok (if (Leaf.verbatim _).hasSlice then _ else (Leaf.verbatim _).bare) = _
      rw [hslice, hbare]
      rfl

/-- Of the values of a map from numbered keys, only the package is left out. -/
theorem typeScript_map_qualified_geo :
    let key : Text := "Key_2"
    let package : Text := "geo"
    let name : Text := "Point2f"
    Leaf.isPackage package = true ∧ Text.isIdent name = true ∧ key ≠ [] ∧
      (∀ c ∈ key, Text.isIdentRest c = true) ∧
      (ofText "geo.Point2f").typeScript = .ok "Point2f" ∧
      (ofText "map[Key_2]geo.Point2f").isForeign = true ∧
      (ofText "map[Key_2]geo.Point2f").typeScript = .ok "map[Key_2]Point2f" := by
  intro key package name
  have hp : Leaf.isPackage package = true := by decide
  have hn : Text.isIdent name = true := by decide
  have hne : key ≠ [] := by decide
  have hkey : ∀ c ∈ key, Text.isIdentRest c = true := List.all_eq_true.1 (by decide)
  exact ⟨hp, hn, hne, hkey, typeScript_map_qualified hp hn hne hkey⟩

/-- A package with a digit in it is recognised on its own, and not in a map. -/
theorem typeScript_map_of_digit :
    Leaf.isPackage "v2" = true ∧ (ofText "v2.Point").isForeign = true ∧
      (ofText "v2.Point").typeScript = .ok "Point" ∧
      (ofText "map[string]v2.Point").isForeign = false ∧
      (ofText "map[string]v2.Point").typeScript
        = .error (.unsupportedType "map[string]v2.Point") ∧
      (ofText "map[string]v2.Point").typeScript ≠ .ok (mapOf "string" "Point") := by
  decide +kernel

end Signature

end Typescribe
