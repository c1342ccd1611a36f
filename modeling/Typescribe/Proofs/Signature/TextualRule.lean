/-
The type of a signature and the rule on its text.

`textualRule` takes a flat text: when a qualifier stands anywhere in it, the
slice marks are erased, then the qualifiers, and one slice mark is put behind
if there was any; otherwise the stars at its front are dropped and the rest
must be a primitive type's name.  `Signature.typeScript` takes a signature
apart instead.  The two give the same on everything that is read from a text,
apart from qualified names whose package has a digit or an underscore, which
the text rule does not see.

Both sides go marker by marker.  No search sees a marker and what follows it
together, since a marker has no small letter and ends in a star or a closing
bracket; what is left is a readable leaf, where the two agree by its form.
-/
import Typescribe.Proofs.Signature.Qualifier
import Typescribe.Proofs.Signature.RoundTrip
import Typescribe.Signature.TypeScript

namespace Typescribe

open Qualifier

/-! ## The rule -/

/-- The name of the TypeScript type for the name of a primitive type. -/
def primitiveRule (name : Text) : Except Fault Text :=
  if name = "int" ∨ name = "float64" then .ok "number"
  else if name = "string" then .ok "string"
  else if name = "bool" then .ok "boolean"
  else .error (.unsupportedType name)

/-- The name of the TypeScript type for a signature given as text. -/
def textualRule (s : Text) : Except Fault Text :=
  if occurs s then
    let bare := erase (eraseSlices s)
    .ok (if hasSlice s then bare ++ "[]" else bare)
  else primitiveRule (s.dropWhile (· = '*'))

theorem primitiveRule_name (kind : Primitive) : primitiveRule kind.name = .ok kind.typeName := by
  cases kind with
  | int => rfl
  | float64 => rfl
  | string => rfl
  | bool => rfl

theorem primitiveRule_of_ne {name : Text} (h : ∀ kind : Primitive, name ≠ kind.name) :
    primitiveRule name = .error (.unsupportedType name) := by
  have hnumber : ¬(name = "int" ∨ name = "float64") := by
    rintro (hi | hf)
    · exact h .int hi
    · exact h .float64 hf
  have hstring : name ≠ "string" := h .string
  have hbool : name ≠ "bool" := h .bool
  rw [primitiveRule, if_neg hnumber, if_neg hstring, if_neg hbool]

/-! ## Markers in a text -/

namespace Marker

/-- The characters of a marker: the star, the brackets and digits. -/
theorem isLower_of_mem_text {m : Marker} {c : Char} (h : c ∈ m.text) : c.isLower = false := by
  cases m with
  | pointer =>
      obtain rfl := List.mem_singleton.1 h
      decide
  | slice =>
      rcases List.mem_cons.1 h with rfl | h
      · decide
      · obtain rfl := List.mem_singleton.1 h
        decide
  | array n =>
      rcases List.mem_append.1 h with h | h
      · rcases List.mem_cons.1 h with rfl | h
        · decide
        · exact Text.isLower_of_isDigit (isDigit_of_mem_decimal h)
      · obtain rfl := List.mem_singleton.1 h
        decide

/-- No word character stands at the end of a marker. -/
theorem inWordAfter_text (m : Marker) (inWord : Bool) : inWordAfter inWord m.text = false := by
  cases m with
  | pointer => exact Text.isWord_punctuation (c := '*') (by decide)
  | slice => exact Text.isWord_punctuation (c := ']') (by decide)
  | array n =>
      rw [text, inWordAfter_concat]
      exact Text.isWord_punctuation (by decide)

theorem occurs_text_append (m : Marker) (rest : Text) : occurs (m.text ++ rest) = occurs rest := by
  rw [occurs, occursAfter_append m.text false rest fun _ hc => isLower_of_mem_text hc,
    inWordAfter_text]
  rfl

theorem erase_text_append (m : Marker) (rest : Text) :
    erase (m.text ++ rest) = m.text ++ erase rest := by
  rw [erase, eraseAfter_append m.text false rest fun _ hc => isLower_of_mem_text hc,
    inWordAfter_text]
  rfl

/-- A bracket with a length in it is no slice mark, nor is a star. -/
theorem slices_text_append {m : Marker} (h : m ≠ .slice) (rest : Text) :
    eraseSlices (m.text ++ rest) = m.text ++ eraseSlices rest ∧
      hasSlice (m.text ++ rest) = hasSlice rest := by
  cases m with
  | pointer => exact ⟨rfl, rfl⟩
  | slice => exact absurd rfl h
  | array n =>
      have hopen : '[' ∉ Text.decimal n.toNat ++ [']'] := by
        intro hmem
        rcases List.mem_append.1 hmem with hd | hd
        · exact absurd (isDigit_of_mem_decimal hd) (by decide)
        · exact absurd (List.mem_singleton.1 hd) (by decide)
      have hfirst : '[' = '[' → (Text.decimal n.toNat ++ [']'] ++ rest).head? ≠ some ']' := by
        intro _ hhead
        cases hd : Text.decimal n.toNat with
        | nil => exact decimal_ne_nil n.toNat hd
        | cons c more =>
            rw [hd] at hhead
            have hc : c.isDigit = true := isDigit_of_mem_decimal (n := n.toNat) (by simp [hd])
            obtain rfl : c = ']' := Option.some.inj hhead
            exact absurd hc (by decide)
      have htext : (array n).text ++ rest
          = '[' :: (Text.decimal n.toNat ++ [']'] ++ rest) := rfl
      rw [htext, eraseSlices_cons hfirst, hasSlice_cons hfirst, eraseSlices_append _ _ hopen,
        hasSlice_append _ _ hopen]
      exact ⟨rfl, rfl⟩

end Marker

/-! ## Leaves -/

namespace Leaf

/-- On the text of a leaf the two rules look at the same things. -/
structure IsPlain (leaf : Leaf) : Prop where
  foreign : occurs leaf.text = leaf.isForeign
  slice : Qualifier.hasSlice leaf.text = leaf.hasSlice
  bare : erase (eraseSlices leaf.text) = leaf.bare

/-- The brackets and the dot stand in no identifier. -/
theorem not_mem_of_isIdentRest {s : Text} (h : ∀ c ∈ s, Text.isIdentRest c = true) :
    '[' ∉ s ∧ '.' ∉ s :=
  ⟨fun hc => absurd (h _ hc) (by decide), fun hc => absurd (h _ hc) (by decide)⟩

/-- A package without digits and underscores is made of small letters. -/
theorem isLower_of_isPackage {package : Text} (hp : isPackage package = true)
    (hletters : ∀ c ∈ package, c.isDigit = false ∧ c ≠ '_') :
    package ≠ [] ∧ ∀ c ∈ package, c.isLower = true := by
  cases package with
  | nil => cases hp
  | cons d more =>
      refine ⟨List.cons_ne_nil d more, fun c hc => ?_⟩
      rw [isPackage, Bool.and_eq_true, List.all_eq_true] at hp
      rcases List.mem_cons.1 hc with rfl | hc
      · exact hp.1
      · have := hp.2 c hc
        obtain ⟨hdigit, hunder⟩ := hletters c (List.mem_cons_of_mem _ hc)
        simpa [hdigit, hunder] using this

/-- No bracket stands in a qualified name. -/
theorem not_mem_qualified {package name : Text} (hp : isPackage package = true)
    (hn : Text.isIdent name = true) : '[' ∉ package ++ '.' :: name := by
  intro hmem
  rcases List.mem_append.1 hmem with h | h
  · exact (not_mem_of_isIdentRest (isIdentRest_of_isPackage hp)).1 h
  · rcases List.mem_cons.1 h with h | h
    · exact absurd h (by decide)
    · exact (not_mem_of_isIdentRest (Text.isIdentRest_of_isIdent hn)).1 h

/-- The text of a qualified name is its qualifier and its name, when the
package is made of letters. -/
theorem isPlain_qualified {package name : Text} (hp : isPackage package = true)
    (hn : Text.isIdent name = true)
    (hletters : ∀ c ∈ package, c.isDigit = false ∧ c ≠ '_') :
    (qualified package name).IsPlain := by
  obtain ⟨hne, hlower⟩ := isLower_of_isPackage hp hletters
  have hdot : '.' ∉ name := (not_mem_of_isIdentRest (Text.isIdentRest_of_isIdent hn)).2
  have hslice : '[' ∉ package ++ '.' :: name := not_mem_qualified hp hn
  refine ⟨?_, hasSlice_of_no_bracket hslice, ?_⟩
  · exact (occursAfter_iff _ false).2 ⟨[], package, name, rfl, rfl, hne, hlower⟩
  · show erase (eraseSlices (package ++ '.' :: name)) = name
    rw [eraseSlices_of_no_bracket hslice]
    exact erase_qualified hne hlower hdot

theorem isPlain_primitive (kind : Primitive) : (primitive kind).IsPlain := by
  obtain ⟨hopen, hdot⟩ := not_mem_of_isIdentRest (Text.isIdentRest_of_isIdent (isIdent_name kind))
  refine ⟨occurs_of_no_dot hdot, hasSlice_of_no_bracket hopen, ?_⟩
  show erase (eraseSlices kind.name) = kind.name
  rw [eraseSlices_of_no_bracket hopen]
  exact eraseAfter_of_no_dot kind.name false hdot

/-- The readable leaves are plain, those with a digit or an underscore in
their package apart. -/
theorem isPlain_of_readable {leaf : Leaf} (h : leaf.IsReadable)
    (hletters : ∀ package name, leaf = .qualified package name →
      ∀ c ∈ package, c.isDigit = false ∧ c ≠ '_') : leaf.IsPlain := by
  cases leaf with
  | primitive kind => exact isPlain_primitive kind
  | qualified package name => exact isPlain_qualified h.1 h.2 (hletters package name rfl)
  | verbatim text => exact ⟨rfl, rfl, rfl⟩

end Leaf

/-! ## Signatures -/

namespace Signature

/-- Pointers and arrays stay in place when slice marks are erased. -/
theorem bareUnder_cons {m : Marker} (h : m ≠ .slice) (leaf : Leaf) (more : List Marker) :
    bareUnder leaf (m :: more) = (m.text ++ (bareUnder leaf more).1, (bareUnder leaf more).2) := by
  cases m with
  | pointer => rfl
  | slice => exact absurd rfl h
  | array n => rfl

/-- Over a plain leaf the searches in the text give what the signature says. -/
theorem searches_text {leaf : Leaf} (h : leaf.IsPlain) : ∀ markers : List Marker,
    occurs (text ⟨markers, leaf⟩) = leaf.isForeign ∧
      hasSlice (text ⟨markers, leaf⟩) = (bareUnder leaf markers).2 ∧
      erase (eraseSlices (text ⟨markers, leaf⟩)) = (bareUnder leaf markers).1 := by
  intro markers
  induction markers with
  | nil => exact ⟨h.foreign, h.slice, h.bare⟩
  | cons m more ih =>
      obtain ⟨hforeign, hslice, hbare⟩ := ih
      rw [text_cons, m.occurs_text_append]
      by_cases hm : m = .slice
      · subst hm
        exact ⟨hforeign, rfl, hbare⟩
      · obtain ⟨herase, hhas⟩ := Marker.slices_text_append hm (text ⟨more, leaf⟩)
        rw [herase, hhas, Marker.erase_text_append, hbare, bareUnder_cons hm]
        exact ⟨hforeign, hslice, rfl⟩

/-- Stars at the front of a text are the pointers at the front of the
signature, when the leaf starts with none. -/
theorem dropStars_text {leaf : Leaf} (h : leaf.text.head? ≠ some '*') : ∀ markers : List Marker,
    (text ⟨markers, leaf⟩).dropWhile (· = '*') = (dropPointers ⟨markers, leaf⟩).text := by
  intro markers
  induction markers with
  | nil =>
      show leaf.text.dropWhile (· = '*') = leaf.text
      cases hl : leaf.text with
      | nil => rfl
      | cons c rest =>
          refine List.dropWhile_cons_of_neg ?_
          rintro hc
          rw [hl] at h
          exact h (by simpa using hc)
  | cons m more ih =>
      cases m with
      | pointer => exact ih
      | slice => rfl
      | array n => rfl

/-- A signature that starts with a slice or an array is no primitive type's
name. -/
theorem ne_name_of_bracket {m : Marker} (h : m ≠ .pointer) (rest : Text) (kind : Primitive) :
    m.text ++ rest ≠ kind.name := by
  have hhead : (m.text ++ rest).head? = some '[' := by
    cases m with
    | pointer => exact absurd rfl h
    | slice => rfl
    | array n => rfl
  intro he
  rw [he] at hhead
  revert hhead
  cases kind with
  | int => decide
  | float64 => decide
  | string => decide
  | bool => decide

/-- Where no qualifier stands, a readable leaf behind pointers must be a
primitive type. -/
theorem typeScript_of_local {markers : List Marker} {leaf : Leaf} (hread : leaf.IsReadable)
    (h : leaf.isForeign = false) :
    typeScript ⟨markers, leaf⟩ = primitiveRule (dropPointers ⟨markers, leaf⟩).text := by
  rw [typeScript, isForeign, h, if_neg Bool.false_ne_true]
  cases hm : markers.dropWhile (· = .pointer) with
  | nil =>
      rw [dropPointers, hm]
      cases leaf with
      | primitive kind => exact (primitiveRule_name kind).symm
      | qualified package name => cases h
      | verbatim t => exact (primitiveRule_of_ne (Leaf.IsVerbatim.name hread)).symm
  | cons m more =>
      have hpointer : m ≠ .pointer := by
        have := List.head?_dropWhile_not (fun m : Marker => decide (m = .pointer)) markers
        rw [hm] at this
        simpa using this
      have hne : ∀ kind : Primitive, text ⟨m :: more, leaf⟩ ≠ kind.name := by
        intro kind
        rw [text_cons]
        exact ne_name_of_bracket hpointer _ kind
      rw [dropPointers, hm]
      exact (primitiveRule_of_ne hne).symm

/-- **The type of a signature is what the rule on its text gives.**  This
holds of everything that is read from a text, unless it ends in a qualified
name whose package has a digit or an underscore. -/
theorem typeScript_eq_textualRule (s : Text)
    (h : ∀ package name, (ofText s).leaf = .qualified package name →
      ∀ c ∈ package, c.isDigit = false ∧ c ≠ '_') :
    (ofText s).typeScript = textualRule (ofText s).text := by
  have hread : (ofText s).leaf.IsReadable := isReadable_ofText s
  generalize ofText s = t at h hread
  obtain ⟨markers, leaf⟩ := t
  obtain ⟨hforeign, hslice, hbare⟩ := searches_text (Leaf.isPlain_of_readable hread h) markers
  rw [textualRule, hforeign, hslice, hbare]
  cases hf : leaf.isForeign with
  | true =>
      rw [typeScript, isForeign, hf]
      rfl
  | false =>
      have hstar : leaf.text.head? ≠ some '*' :=
        (Marker.read?_eq_none_iff.1 (Leaf.read?_of_readable hread)).1
      rw [dropStars_text hstar]
      exact typeScript_of_local hread hf

/-- The two agree on a slice of pointers into a package, in an array. -/
theorem typeScript_eq_textualRule_geo :
    (∀ package name, (ofText "[3][]*geo.Point2f").leaf = .qualified package name →
      ∀ c ∈ package, c.isDigit = false ∧ c ≠ '_') ∧
    (ofText "[3][]*geo.Point2f").typeScript = textualRule (ofText "[3][]*geo.Point2f").text := by
  have hread : ofText "[3][]*geo.Point2f"
      = ⟨[.array 3, .slice, .pointer], .qualified "geo" "Point2f"⟩ :=
    ofText_text (s := ⟨[.array 3, .slice, .pointer], .qualified "geo" "Point2f"⟩)
      ⟨by decide, by decide⟩
  have h : ∀ package name, (ofText "[3][]*geo.Point2f").leaf = .qualified package name →
      ∀ c ∈ package, c.isDigit = false ∧ c ≠ '_' := by
    intro package name he
    rw [hread] at he
    cases he
    have hall : ("geo" : Text).all (fun c => !c.isDigit && c != '_') = true := by decide
    intro c hc
    simpa using List.all_eq_true.1 hall c hc
  exact ⟨h, typeScript_eq_textualRule _ h⟩

/-- The rule does not see a package with a digit in it. -/
example : (Signature.mk [] (.qualified "v2" "Point")).typeScript = .ok "Point" ∧
    textualRule "v2.Point" = .error (.unsupportedType "v2.Point") :=
  ⟨rfl, rfl⟩

end Signature

end Typescribe
