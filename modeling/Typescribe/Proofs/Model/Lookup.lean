/-
What a search for pairs finds, on any text.

The search takes pairs where it meets them and knows no word boundaries, so
that after a pair, or after a character where no pair starts, it may go on in
the middle of anything.  It never takes the end of an identifier for a key,
though.  An identifier that ends where the key starts would make one longer
identifier with it, in front of the same colon, and the search would have met a
pair at its first character.  It cannot have passed that character with another
pair either, since pairs end in a quote, and no quote stands in an identifier.

That is what the search keeps up while it goes on; see `mem_pairs`.
-/
import Typescribe.Proofs.Model.Item
import Typescribe.Proofs.Text.Ident

namespace Typescribe.Tag

/-- No identifier stands at the end of the text. -/
def EndsNoIdent (s : Text) : Prop := ∀ word, word <:+ s → Text.isIdent word = false

/-- A pair stands somewhere in a text, its key behind no end of an identifier. -/
def StandsIn (s key written : Text) : Prop :=
  ∃ before behind, s = before ++ (key ++ ':' :: '"' :: (written ++ '"' :: behind)) ∧
    EndsNoIdent before

theorem endsNoIdent_nil : EndsNoIdent [] := by
  intro word hword
  rw [List.suffix_nil.1 hword]
  rfl

/-- What stands in front of a quote does not count. -/
theorem EndsNoIdent.append_quote {s : Text} (h : EndsNoIdent s) (front : Text) :
    EndsNoIdent (front ++ '"' :: s) := by
  intro word hword
  rcases List.suffix_or_suffix_of_suffix hword (List.suffix_append front ('"' :: s)) with hs | hs
  · rcases List.suffix_cons_iff.1 hs with rfl | hs
    · rfl
    · exact h word hs
  · -- a word that reaches behind the quote has the quote in it
    rw [← Bool.not_eq_true]
    intro hident
    have hquote := Text.isIdentRest_of_isIdent hident '"' (hs.subset List.mem_cons_self)
    exact absurd hquote (by decide)

/-- Where no pair starts, no identifier ends in front of the key of a pair. -/
theorem EndsNoIdent.cons {c : Char} {before key behind : Text} {items : List Item}
    (h : EndsNoIdent before) (hkey : Text.isIdent key = true)
    (hnone : pair? (c :: (before ++ (key ++ ':' :: '"' ::
      (items.flatMap Item.text ++ '"' :: behind)))) = none) : EndsNoIdent (c :: before) := by
  intro word hword
  rcases List.suffix_cons_iff.1 hword with rfl | hword
  · rw [← Bool.not_eq_true]
    intro hident
    have hlonger : Text.isIdent (c :: before ++ key) = true :=
      Text.isIdent_append hident (Text.isIdentRest_of_isIdent hkey)
    have hpair : pair? (c :: before ++ key ++ ':' :: '"' ::
        (items.flatMap Item.text ++ '"' :: behind)) = some (_, behind) :=
      pair?_eq_some_iff.2 ⟨hlonger, items, rfl, rfl⟩
    rw [List.append_assoc, List.cons_append, hnone] at hpair
    cases hpair
  · exact h word hword

/-- What the search finds stands in the text. -/
theorem mem_pairs {s key written : Text} (h : (key, written) ∈ pairs s) :
    (Text.isIdent key = true ∧ ∃ items : List Item, written = items.flatMap Item.text) ∧
      StandsIn s key written := by
  induction s using pairs.induct with
  | case1 s pair behind hpair ih =>
      obtain ⟨first, firstWritten⟩ := pair
      obtain ⟨hfirst, items, hwritten, rfl⟩ := pair?_eq_some_iff.1 hpair
      rw [pairs_of_pair? hpair, List.mem_cons] at h
      rcases h with h | h
      · cases h
        exact ⟨⟨hfirst, items, hwritten⟩, [], behind, rfl, endsNoIdent_nil⟩
      · obtain ⟨hform, before, more, rfl, hbefore⟩ := ih h
        refine ⟨hform, first ++ ':' :: '"' :: (firstWritten ++ '"' :: before), more, by simp, ?_⟩
        have hfront := hbefore.append_quote (first ++ ':' :: '"' :: firstWritten)
        simpa using hfront
  | case2 =>
      rw [pairs_nil] at h
      cases h
  | case3 c rest hnone ih =>
      rw [pairs_of_none hnone] at h
      obtain ⟨⟨hkey, items, rfl⟩, before, behind, rfl, hbefore⟩ := ih h
      exact ⟨⟨hkey, items, rfl⟩, c :: before, behind, rfl, hbefore.cons hkey hnone⟩

/-- **A value that is looked up stands in the tag, under the whole of its
key.**  Whatever the tag looks like, the key stands in it, then a colon and a
row of items in quotes, with no identifier in front that would make the key
longer; and the value is what these items stand for, each by itself. -/
theorem lookup_stands {raw key value : Text} (h : lookup ⟨raw⟩ key = some value) :
    ∃ (before : Text) (items : List Item) (behind : Text),
      raw = before ++ (key ++ ':' :: '"' :: (items.flatMap Item.text ++ '"' :: behind)) ∧
      value = items.flatMap Item.meaning ∧
      ∀ word, word <:+ before → Text.isIdent word = false := by
  obtain ⟨⟨found, written⟩, hfind, hvalue⟩ := Option.map_eq_some_iff.1 h
  have hfound := List.find?_some hfind
  obtain rfl : found = key := of_decide_eq_true hfound
  obtain ⟨⟨-, items, rfl⟩, before, behind, hraw, hbefore⟩ :=
    mem_pairs (List.mem_of_find?_eq_some hfind)
  refine ⟨before, items, behind, hraw, ?_, hbefore⟩
  rw [← hvalue]
  show unescape (items.flatMap Item.text) = _
  rw [unescape, dropEscape_quote, dropEscape_backslash]

/-- In a broken tag, neither the longer key in front nor the entry at the end,
which no quote ends, is taken for the key; a digit in front of it does not
belong to it. -/
theorem lookup_stands_broken :
    let raw : Text := "xjson:\"-\" 9json:\"a\\\\\\\"\\q\" json:\"-"
    lookup ⟨raw⟩ "json" = some "a\\\"\\q" ∧
      ∃ (before : Text) (items : List Item) (behind : Text),
        raw = before ++ ("json" ++ ':' :: '"' :: (items.flatMap Item.text ++ '"' :: behind)) ∧
        "a\\\"\\q" = items.flatMap Item.meaning ∧
        ∀ word, word <:+ before → Text.isIdent word = false := by
  intro raw
  have hlookup : lookup ⟨raw⟩ "json" = some "a\\\"\\q" := by decide +kernel
  exact ⟨hlookup, lookup_stands hlookup⟩

end Typescribe.Tag
