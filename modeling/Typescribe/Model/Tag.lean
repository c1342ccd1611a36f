/-
Field tags: the annotations that a backend model puts on a field.

A tag is text in which pairs `key:"value"` stand, wherever they stand: with
or without space between them, and among whatever else.  A key is an
identifier.  A value is a row of items, each a character other than the quote
and the backslash, or a backslash with the character it escapes, which is any
but a newline.  `pairs` finds them once from the left, without overlap, and
`lookup` gives the first value of a key, with escaped quotes and backslashes
decoded.
-/
import Typescribe.Text.Word

namespace Typescribe

/-- The annotations on a field, as they are written. -/
structure Tag where
  raw : Text
deriving DecidableEq, Repr

namespace Tag

/-! ## Values -/

/-- The value, still escaped, up to the quote that ends it, and what follows
that quote. -/
def value? : Text → Option (Text × Text)
  | [] => none
  | '"' :: rest => some ([], rest)
  | '\\' :: c :: rest =>
    if c = '\n' then none
    else (value? rest).map fun (items, behind) => ('\\' :: c :: items, behind)
  | c :: rest =>
    if c = '\\' then none
    else (value? rest).map fun (items, behind) => (c :: items, behind)

theorem length_of_value? {s items behind : Text} (h : value? s = some (items, behind)) :
    behind.length < s.length := by
  fun_induction value? s generalizing items behind with
  | case1 => simp at h
  | case2 rest =>
    simp only [Option.some.injEq, Prod.mk.injEq] at h
    simp [h.2]
  | case3 => simp at h
  | case4 c rest _ ih =>
    obtain ⟨⟨i, b⟩, hv, he⟩ := Option.map_eq_some_iff.1 h
    simp only [Prod.mk.injEq] at he
    have := ih hv
    simp [← he.2]
    omega
  | case5 => simp at h
  | case6 c rest _ _ _ ih =>
    obtain ⟨⟨i, b⟩, hv, he⟩ := Option.map_eq_some_iff.1 h
    simp only [Prod.mk.injEq] at he
    have := ih hv
    simp [← he.2]
    omega

/-- Drops the backslash in front of every `c`, once from the left. -/
def dropEscape (c : Char) : Text → Text
  | [] => []
  | [d] => [d]
  | d :: e :: rest =>
    if d = '\\' ∧ e = c then c :: dropEscape c rest else d :: dropEscape c (e :: rest)

/-- An escaped value with its quotes and then its backslashes decoded; every
other escape stays as it is. -/
def unescape (items : Text) : Text := dropEscape '\\' (dropEscape '"' items)

/-! ## Pairs -/

/-- The pair that a text starts with, its value still escaped, and what
follows it. -/
def pair? (s : Text) : Option ((Text × Text) × Text) :=
  match s with
  | [] => none
  | c :: rest =>
    if Text.isIdentStart c then
      match rest.dropWhile Text.isIdentRest with
      | ':' :: '"' :: more =>
        (value? more).map fun (items, behind) =>
          ((c :: rest.takeWhile Text.isIdentRest, items), behind)
      | _ => none
    else none

theorem length_of_pair? {s behind : Text} {pair : Text × Text}
    (h : pair? s = some (pair, behind)) : behind.length < s.length := by
  unfold pair? at h
  split at h
  · simp at h
  · next c rest =>
    split at h
    · split at h
      · next more hd =>
        obtain ⟨⟨i, b⟩, hv, he⟩ := Option.map_eq_some_iff.1 h
        simp only [Prod.mk.injEq] at he
        have h1 := length_of_value? hv
        have h2 := (List.dropWhile_sublist (l := rest) Text.isIdentRest).length_le
        rw [hd] at h2
        simp at h2
        simp [← he.2]
        omega
      · simp at h
    · simp at h

/-- The pairs that stand in a text, found from the left, values still
escaped. -/
def pairs (s : Text) : List (Text × Text) :=
  match _h : pair? s with
  | some (pair, behind) => pair :: pairs behind
  | none =>
    match s with
    | [] => []
    | _ :: rest => pairs rest
termination_by s.length
decreasing_by
  · exact length_of_pair? _h
  · simp

/-- The first value of a key. -/
def lookup (tag : Tag) (key : Text) : Option Text :=
  ((pairs tag.raw).find? fun (k, _) => k = key).map fun (_, items) => unescape items

end Tag

end Typescribe
