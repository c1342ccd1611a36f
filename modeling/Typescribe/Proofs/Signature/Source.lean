/-
What a signature keeps of the text it was read from.

A text begins with pieces, each a marker in one of its spellings with blanks
before it, and what follows the last of them is the leaf.  How a text is cut into
these is no choice: two rows of pieces that texts alike begin with are alike as
far as both go, so there is a longest row, and every other is a start of it.
The signature that is read from the text is written as the same text without
the blanks of the pieces and those at the ends of the leaf, and with every
length in plain decimal.

`ofText_piece` is the step: reading takes off a piece in front whole, although
the blanks at the end of the text are dropped before anything else is looked at.
-/
import Typescribe.Proofs.Signature.RoundTrip

namespace Typescribe

/-! ## Pieces -/

/-- A marker as it stands in a text: in some spelling, behind blanks. -/
structure Piece where
  blanks : Text
  marker : Marker
  spelling : Text
  isBlank : ∀ c ∈ blanks, Text.isBlank c = true
  spells : marker.Spells spelling

namespace Piece

def text (p : Piece) : Text := p.blanks ++ p.spelling

/-- A marker as it is written, as a piece. -/
def plain (m : Marker) : Piece := ⟨[], m, m.text, nofun, m.spells_text⟩

theorem eq_plain_iff {p : Piece} :
    p = plain p.marker ↔ p.blanks = [] ∧ p.spelling = p.marker.text := by
  obtain ⟨blanks, m, spelling, _, _⟩ := p
  simp [plain]

/-- Without its blanks, a piece in front of a text is its spelling. -/
theorem trimStart_text_append (p : Piece) (rest : Text) :
    (p.text ++ rest).trimStart = p.spelling ++ rest := by
  rw [text, List.append_assoc]
  exact Text.trimStart_append p.isBlank (p.spells.startsClean_append rest)

/-- No blank stands at the end of a piece. -/
theorem endsClean_text (p : Piece) : Text.endsClean p.text := by
  intro c hc
  have hlast := List.getLast?_eq_some_getLast p.spells.ne_nil
  rw [text, List.getLast?_append, hlast, Option.some_or, ← hlast] at hc
  exact p.spells.endsClean c hc

/-- What a text begins with is one piece only. -/
theorem text_append_inj {p q : Piece} {rest rest' : Text}
    (h : p.text ++ rest = q.text ++ rest') : p = q ∧ rest = rest' := by
  have hspelling : p.spelling ++ rest = q.spelling ++ rest' := by
    rw [← p.trimStart_text_append, ← q.trimStart_text_append, h]
  have hread : some (p.marker, rest) = some (q.marker, rest') := by
    rw [← Marker.read?_eq_some_iff.2 ⟨p.spelling, p.spells, rfl⟩,
      ← Marker.read?_eq_some_iff.2 ⟨q.spelling, q.spells, rfl⟩, hspelling]
  obtain ⟨hmarker, rfl⟩ := Prod.mk.inj (Option.some.inj hread)
  have hspelling' : p.spelling = q.spelling := List.append_cancel_right hspelling
  have hblanks : p.blanks = q.blanks := by
    have htext := List.append_cancel_right h
    rw [text, text, hspelling'] at htext
    exact List.append_cancel_right htext
  obtain ⟨blanks, m, spelling, _, _⟩ := p
  obtain ⟨blanks', m', spelling', _, _⟩ := q
  subst hmarker hspelling' hblanks
  exact ⟨rfl, rfl⟩

end Piece

namespace Leaf

/-- A leaf is written as the text it was read from. -/
theorem text_ofText (s : Text) : (ofText s).text = s := by
  unfold ofText
  split
  · next leaf hq =>
    obtain ⟨package, name, rfl, rfl, -⟩ := qualified?_eq_some_iff.1 hq
    rfl
  · split
    · next kind hk => exact (Primitive.ofName?_eq_some_iff.1 hk).symm
    · rfl

end Leaf

/-! ## The longest row of pieces -/

/-- No piece stands at the front of the text. -/
def Unmarked (s : Text) : Prop := ¬∃ (p : Piece) (rest : Text), s = p.text ++ rest

/-- A text is a row of pieces in front of one that no piece begins. -/
theorem exists_pieces (s : Text) :
    ∃ (pieces : List Piece) (leaf : Text), s = pieces.flatMap Piece.text ++ leaf ∧ Unmarked leaf := by
  by_cases h : ∃ (p : Piece) (rest : Text), s = p.text ++ rest
  · obtain ⟨p, rest, hs⟩ := h
    have hshorter : rest.length < s.length := by
      have := List.length_pos_iff.2 p.spells.ne_nil
      rw [hs, Piece.text, List.length_append, List.length_append]
      omega
    obtain ⟨pieces, leaf, hrest, hleaf⟩ := exists_pieces rest
    exact ⟨p :: pieces, leaf, by rw [hs, hrest, List.flatMap_cons, List.append_assoc], hleaf⟩
  · exact ⟨[], s, rfl, h⟩
termination_by s.length

/-- Any other row of pieces that the text begins with is a start of that row. -/
theorem isPrefix_pieces {pieces others : List Piece} {leaf rest : Text} (hleaf : Unmarked leaf)
    (h : others.flatMap Piece.text ++ rest = pieces.flatMap Piece.text ++ leaf) :
    others <+: pieces := by
  induction others generalizing pieces with
  | nil => exact List.nil_prefix
  | cons q others ih =>
      rw [List.flatMap_cons, List.append_assoc] at h
      cases pieces with
      | nil => exact absurd ⟨q, _, h.symm⟩ hleaf
      | cons p pieces =>
          rw [List.flatMap_cons, List.append_assoc] at h
          obtain ⟨rfl, hrest⟩ := Piece.text_append_inj h
          exact List.cons_prefix_cons.2 ⟨rfl, ih hrest⟩

namespace Signature

/-! ## Reading a row of pieces -/

/-- A piece in front of a text is taken off. -/
theorem ofText_piece (p : Piece) (rest : Text) :
    ofText (p.text ++ rest) = (ofText rest).under p.marker := by
  rw [ofText, Text.trimEnd_append p.endsClean_text]
  apply ofTrimmed_of_read?
  rw [p.trimStart_text_append]
  exact Marker.read?_eq_some_iff.2 ⟨p.spelling, p.spells, rfl⟩

/-- A text that no piece begins is a leaf between blanks. -/
theorem ofText_unmarked {s : Text} (h : Unmarked s) : ofText s = ⟨[], Leaf.ofText s.trim⟩ := by
  apply ofTrimmed_of_none
  rw [Option.eq_none_iff_forall_ne_some]
  rintro ⟨m, rest⟩ hread
  obtain ⟨spelling, hspells, htrim⟩ := Marker.read?_eq_some_iff.1 hread
  obtain ⟨before, behind, hblank, hs⟩ := Text.exists_append_trim s
  refine h ⟨⟨before, m, spelling, fun c hc => hblank c (List.mem_append_left _ hc), hspells⟩,
    rest ++ behind, ?_⟩
  rw [hs, show s.trim = spelling ++ rest from htrim, Piece.text]
  simp

theorem text_ofText_pieces (pieces : List Piece) {leaf : Text} (h : Unmarked leaf) :
    (ofText (pieces.flatMap Piece.text ++ leaf)).text
      = pieces.flatMap (·.marker.text) ++ leaf.trim := by
  induction pieces with
  | nil =>
      rw [List.flatMap_nil, List.nil_append, ofText_unmarked h]
      exact Leaf.text_ofText leaf.trim
  | cons p pieces ih =>
      rw [List.flatMap_cons, List.append_assoc, ofText_piece, text_under, ih, List.flatMap_cons,
        List.append_assoc]

/-! ## What is kept -/

/-- A row of pieces is written as it stands when every piece is plain, and what
stands behind it is the same. -/
theorem plain_of_text_eq {pieces : List Piece} {core leaf : Text} :
    pieces.flatMap (·.marker.text) ++ core = pieces.flatMap Piece.text ++ leaf ↔
      (∀ p ∈ pieces, p.blanks = [] ∧ p.spelling = p.marker.text) ∧ core = leaf := by
  induction pieces with
  | nil => simp
  | cons p pieces ih =>
      rw [List.flatMap_cons, List.flatMap_cons, List.append_assoc, List.append_assoc,
        List.forall_mem_cons, and_assoc, ← ih, ← Piece.eq_plain_iff]
      constructor
      · intro h
        obtain ⟨hp, hrest⟩ := Piece.text_append_inj (p := .plain p.marker) h
        exact ⟨hp.symm, hrest⟩
      · rintro ⟨hp, hrest⟩
        rw [hrest, hp]
        rfl

/-- **What a signature keeps of its source.**  A text begins with a longest row
of pieces, and behind it stands the leaf, perhaps between blanks.  The signature
read from the text is written as this row in its plain form and the leaf without
those blanks; so it is written as the text itself exactly when there are no
blanks in either place and every piece is spelled as it is written. -/
theorem text_ofText_source (s : Text) :
    ∃ (pieces : List Piece) (before leaf behind : Text),
      s = pieces.flatMap Piece.text ++ (before ++ (leaf ++ behind)) ∧
      (∀ others rest, s = others.flatMap Piece.text ++ rest → others <+: pieces) ∧
      (∀ c ∈ before ++ behind, Text.isBlank c = true) ∧
      Text.startsClean leaf ∧ Text.endsClean leaf ∧
      (ofText s).text = pieces.flatMap (·.marker.text) ++ leaf ∧
      ((ofText s).text = s ↔
        (∀ p ∈ pieces, p.blanks = [] ∧ p.spelling = p.marker.text) ∧
          before = [] ∧ behind = []) := by
  obtain ⟨pieces, source, hs, hunmarked⟩ := exists_pieces s
  obtain ⟨before, behind, hblank, hsource⟩ := Text.exists_append_trim source
  have htext : (ofText s).text = pieces.flatMap (·.marker.text) ++ source.trim := by
    rw [hs]
    exact text_ofText_pieces pieces hunmarked
  have htrim : source.trim = source ↔ before = [] ∧ behind = [] := Text.trim_eq_self_iff hsource
  refine ⟨pieces, before, source.trim, behind, by rw [← hsource]; exact hs, ?_, hblank,
    Text.startsClean_trim source, Text.endsClean_trim source, htext, ?_⟩
  · intro others rest hothers
    exact isPrefix_pieces hunmarked (hothers.symm.trans hs)
  · rw [htext, ← htrim, ← plain_of_text_eq, ← hs]

/-- The last bracket holds no length, and so belongs to the leaf. -/
example : (ofText " [+007] * [] [1 ]int ").text = "[7]*[][1 ]int" := by
  decide +kernel

end Signature

end Typescribe
