/-
The items that a value is made of.

Between its quotes a value is a row of items: a character other than the quote
and the backslash, or a backslash and the character that it escapes.  A value
is read when whole items stand in front of a quote, and a pair when an
identifier, a colon and a quote stand in front of those.

Decoding knows nothing of items.  It goes over the whole row twice, first for
the escaped quotes and then for the escaped backslashes, and neither turn looks
where an item begins.  Still, every item is decoded by itself: no item starts
with a quote, so a backslash that the first turn finds in front of a quote
escapes it; and what the first turn makes of the items are items again, but for
quotes that stand alone, so the second turn finds two backslashes only where
one escapes the other.  The two turns therefore do what one turn does that takes
a backslash and the character behind it together (`decode`), however many
backslashes stand in a row.
-/
import Typescribe.Model.Tag

namespace Typescribe.Tag

/-! ## Items -/

/-- A character of a value, or a backslash with the character it escapes. -/
inductive Item where
  | plain (c : Char) (quote : c ≠ '"') (backslash : c ≠ '\\')
  | escaped (c : Char) (line : c ≠ '\n')

namespace Item

/-- An item as it is written. -/
def text : Item → Text
  | plain c _ _ => [c]
  | escaped c _ => ['\\', c]

/-- What an item stands for: an escaped quote and an escaped backslash stand
for the quote and the backslash, any other item stands for itself. -/
def meaning : Item → Text
  | plain c _ _ => [c]
  | escaped c _ => if c = '"' ∨ c = '\\' then [c] else ['\\', c]

end Item

/-! ## Reading a value -/

/-- The reader takes an item whole. -/
theorem value?_item (item : Item) (s : Text) :
    value? (item.text ++ s)
      = (value? s).map fun (items, behind) => (item.text ++ items, behind) := by
  cases item with
  | plain c hquote hbackslash =>
      rw [Item.text, List.singleton_append, value?]
      · rw [if_neg hbackslash]
        rfl
      · exact hquote
      · intro d more h
        exact absurd h hbackslash
  | escaped c hline =>
      show value? ('\\' :: c :: s) = _
      rw [value?, if_neg hline]
      rfl

/-- A value is read when items stand in front of a quote. -/
theorem value?_eq_some_iff {s written behind : Text} :
    value? s = some (written, behind) ↔
      ∃ items : List Item, written = items.flatMap Item.text ∧ s = written ++ '"' :: behind := by
  constructor
  · intro h
    fun_induction value? s generalizing written behind with
    | case1 => cases h
    | case2 rest =>
        cases h
        exact ⟨[], rfl, rfl⟩
    | case3 => cases h
    | case4 c rest hline ih =>
        obtain ⟨⟨more, rest'⟩, hv, he⟩ := Option.map_eq_some_iff.1 h
        cases he
        obtain ⟨items, rfl, rfl⟩ := ih hv
        exact ⟨.escaped c hline :: items, rfl, rfl⟩
    | case5 => cases h
    | case6 c rest hquote _ hbackslash ih =>
        obtain ⟨⟨more, rest'⟩, hv, he⟩ := Option.map_eq_some_iff.1 h
        cases he
        obtain ⟨items, rfl, rfl⟩ := ih hv
        exact ⟨.plain c hquote hbackslash :: items, rfl, rfl⟩
  · rintro ⟨items, rfl, rfl⟩
    induction items with
    | nil => rfl
    | cons item items ih =>
        rw [List.flatMap_cons, List.append_assoc, value?_item, ih]
        rfl

/-! ## Decoding a value -/

/-- A character stays, unless it is a backslash in front of the character
whose escape is dropped. -/
theorem dropEscape_cons {c d : Char} {s : Text} (h : d = '\\' → s.head? ≠ some c) :
    dropEscape c (d :: s) = d :: dropEscape c s := by
  cases s with
  | nil => rfl
  | cons e rest =>
      have hkeep : ¬(d = '\\' ∧ e = c) := by
        rintro ⟨hd, rfl⟩
        exact h hd rfl
      rw [dropEscape, if_neg hkeep]

theorem dropEscape_escape (c : Char) (s : Text) :
    dropEscape c ('\\' :: c :: s) = c :: dropEscape c s := by
  rw [dropEscape, if_pos ⟨rfl, rfl⟩]

/-- No item starts with a quote. -/
theorem head?_items_ne (items : List Item) : (items.flatMap Item.text).head? ≠ some '"' := by
  cases items with
  | nil => exact nofun
  | cons item more =>
      cases item with
      | plain c hquote _ =>
          intro h
          exact hquote (Option.some.inj h)
      | escaped c _ => exact nofun

/-- An item between the two turns: an escaped quote has lost its backslash. -/
def Item.unquoted : Item → Text
  | plain c _ _ => [c]
  | escaped c _ => if c = '"' then [c] else ['\\', c]

/-- The first turn takes the backslash off every escaped quote. -/
theorem dropEscape_quote (items : List Item) :
    dropEscape '"' (items.flatMap Item.text) = items.flatMap Item.unquoted := by
  induction items with
  | nil => rfl
  | cons item more ih =>
      rw [List.flatMap_cons, List.flatMap_cons, ← ih]
      cases item with
      | plain c _ hbackslash => exact dropEscape_cons fun h => absurd h hbackslash
      | escaped c _ =>
          show dropEscape '"' ('\\' :: c :: more.flatMap Item.text) = _
          by_cases hc : c = '"'
          · subst hc
            exact dropEscape_escape '"' _
          · -- the escaped character is no quote, and no quote follows it
            have hescaped : (c :: more.flatMap Item.text).head? ≠ some '"' :=
              fun h => hc (Option.some.inj h)
            rw [dropEscape_cons fun _ => hescaped,
              dropEscape_cons fun _ => head?_items_ne more, Item.unquoted, if_neg hc]
            rfl

/-- The second turn takes the backslash off every escaped backslash. -/
theorem dropEscape_backslash (items : List Item) :
    dropEscape '\\' (items.flatMap Item.unquoted) = items.flatMap Item.meaning := by
  induction items with
  | nil => rfl
  | cons item more ih =>
      rw [List.flatMap_cons, List.flatMap_cons, ← ih]
      cases item with
      | plain c _ hbackslash => exact dropEscape_cons fun h => absurd h hbackslash
      | escaped c _ =>
          by_cases hquote : c = '"'
          · subst hquote
            exact dropEscape_cons fun h => absurd h (by decide)
          · rw [Item.unquoted, if_neg hquote, Item.meaning]
            by_cases hbackslash : c = '\\'
            · subst hbackslash
              exact dropEscape_escape '\\' _
            · have hescaped : (c :: more.flatMap Item.unquoted).head? ≠ some '\\' :=
                fun h => hbackslash (Option.some.inj h)
              show dropEscape '\\' ('\\' :: c :: more.flatMap Item.unquoted) = _
              rw [dropEscape_cons fun _ => hescaped, dropEscape_cons fun h => absurd h hbackslash,
                if_neg (not_or.2 ⟨hquote, hbackslash⟩)]
              rfl

/-! ## One turn instead of two -/

/-- A row decoded in one turn from the left, each backslash together with the
character behind it. -/
def decode : Text → Text
  | [] => []
  | '\\' :: c :: rest => (if c = '"' ∨ c = '\\' then [c] else ['\\', c]) ++ decode rest
  | c :: rest => c :: decode rest

/-- The one turn decodes an item by itself. -/
theorem decode_item (item : Item) (s : Text) : decode (item.text ++ s) = item.meaning ++ decode s := by
  cases item with
  | plain c _ hbackslash =>
      show decode (c :: s) = c :: decode s
      rw [decode]
      intro d more h
      exact absurd h hbackslash
  | escaped c _ =>
      show decode ('\\' :: c :: s) = _
      rw [decode]
      rfl

theorem decode_items (items : List Item) :
    decode (items.flatMap Item.text) = items.flatMap Item.meaning := by
  induction items with
  | nil => rfl
  | cons item more ih => rw [List.flatMap_cons, List.flatMap_cons, decode_item, ih]

/-- What stands at the start of a text is one item at most. -/
theorem Item.text_append_inj {item other : Item} {s t : Text}
    (h : item.text ++ s = other.text ++ t) : item = other ∧ s = t := by
  cases item with
  | plain c _ hbackslash =>
      cases other with
      | plain d _ _ =>
          obtain ⟨rfl, hrest⟩ := List.cons.inj h
          exact ⟨rfl, hrest⟩
      | escaped d _ => exact absurd (List.cons.inj h).1 hbackslash
  | escaped c _ =>
      cases other with
      | plain d _ hbackslash => exact absurd (List.cons.inj h).1.symm hbackslash
      | escaped d _ =>
          obtain ⟨-, hbehind⟩ := List.cons.inj h
          obtain ⟨rfl, hrest⟩ := List.cons.inj hbehind
          exact ⟨rfl, hrest⟩

/-- A row is made of items in one way only. -/
theorem items_injective : ∀ {items others : List Item},
    items.flatMap Item.text = others.flatMap Item.text → items = others := by
  have hne : ∀ (item : Item) (more : List Item), (item :: more).flatMap Item.text ≠ [] := by
    intro item more
    cases item with
    | plain c _ _ => exact nofun
    | escaped c _ => exact nofun
  intro items
  induction items with
  | nil =>
      intro others h
      cases others with
      | nil => rfl
      | cons other more => exact absurd h.symm (hne other more)
  | cons item more ih =>
      intro others h
      cases others with
      | nil => exact absurd h (hne item more)
      | cons other rest =>
          rw [List.flatMap_cons, List.flatMap_cons] at h
          obtain ⟨rfl, hrest⟩ := Item.text_append_inj h
          rw [ih hrest]

/-- **Two turns decode what one turn decodes.**  A row of items, which is what
is read as a value in front of a quote and is made of items in one way only,
is decoded by the two turns as it is by the one turn from the left: item by
item, an escaped quote to the quote, an escaped backslash to the backslash, and
every other item to itself. -/
theorem unescape_item_by_item (items : List Item) :
    let written := items.flatMap Item.text
    unescape written = decode written ∧
      decode written = items.flatMap Item.meaning ∧
      (∀ behind, value? (written ++ '"' :: behind) = some (written, behind)) ∧
      ∀ others : List Item, others.flatMap Item.text = written ↔ others = items := by
  intro written
  refine ⟨?_, decode_items items, fun behind => ?_, fun others => ?_⟩
  · show dropEscape '\\' (dropEscape '"' written) = _
    rw [decode_items, dropEscape_quote, dropEscape_backslash]
  · exact value?_eq_some_iff.2 ⟨items, rfl, rfl⟩
  · constructor
    · exact items_injective
    · rintro rfl
      rfl

/-- Five backslashes in front of a quote are two items and a half. -/
example : unescape "\\\\\\\\\\\"\\n\\\\n" = "\\\\\"\\n\\n" := by
  decide +kernel

/-! ## Reading pairs -/

/-- A pair is read when an identifier, a colon and a value in quotes stand at
the start of the text. -/
theorem pair?_eq_some_iff {s key written behind : Text} :
    pair? s = some ((key, written), behind) ↔
      Text.isIdent key = true ∧
        ∃ items : List Item, written = items.flatMap Item.text ∧
          s = key ++ ':' :: '"' :: (written ++ '"' :: behind) := by
  constructor
  · intro h
    unfold pair? at h
    split at h
    · cases h
    · next c rest =>
      split at h
      · next hstart =>
        split at h
        · next more hmore =>
          obtain ⟨⟨written', behind'⟩, hv, he⟩ := Option.map_eq_some_iff.1 h
          cases he
          obtain ⟨items, hwritten, rfl⟩ := value?_eq_some_iff.1 hv
          refine ⟨?_, items, hwritten, ?_⟩
          · rw [Text.isIdent, hstart, List.all_takeWhile]
            rfl
          · rw [← hmore, List.cons_append, List.takeWhile_append_dropWhile]
        · cases h
      · cases h
  · rintro ⟨hkey, items, hwritten, rfl⟩
    cases key with
    | nil => cases hkey
    | cons c more =>
        rw [Text.isIdent, Bool.and_eq_true, List.all_eq_true] at hkey
        have hvalue : value? (written ++ '"' :: behind) = some (written, behind) :=
          value?_eq_some_iff.2 ⟨items, hwritten, rfl⟩
        -- the colon ends the key
        rw [List.cons_append, pair?, if_pos hkey.1, List.dropWhile_append_of_pos hkey.2,
          List.takeWhile_append_of_pos hkey.2, List.dropWhile_cons_of_neg (by decide),
          List.takeWhile_cons_of_neg (by decide), List.append_nil]
        simp only [hvalue, Option.map_some]

/-- A pair at the start is found, and the search goes on behind it. -/
theorem pairs_of_pair? {s behind : Text} {pair : Text × Text} (h : pair? s = some (pair, behind)) :
    pairs s = pair :: pairs behind := by
  rw [pairs]
  split
  · next h' =>
    rw [h] at h'
    cases h'
    rfl
  · next h' =>
    rw [h] at h'
    cases h'

/-- Where no pair starts, the search goes on behind one character. -/
theorem pairs_of_none {c : Char} {rest : Text} (h : pair? (c :: rest) = none) :
    pairs (c :: rest) = pairs rest := by
  rw [pairs]
  split
  · next h' =>
    rw [h] at h'
    cases h'
  · rfl

theorem pairs_nil : pairs [] = [] := by
  rw [pairs]
  rfl

end Typescribe.Tag
