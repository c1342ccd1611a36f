/-
Tags read back as they were written.

A tag is written as a row of entries.  In a value, a backslash goes before
every quote and every backslash, so that each character is written as one item
and the reader stops at the quote behind the value, whatever the value holds.
An entry is therefore read as one pair wherever it stands, and reading goes on
right behind it: no search starts inside a value, and no value runs into the
next entry.  Decoding then undoes writing item by item.
-/
import Typescribe.Proofs.Model.Item

namespace Typescribe.Tag

/-! ## Written values -/

/-- A character of a value as it is written. -/
def escapeChar (c : Char) : Text := if c = '\\' ∨ c = '"' then ['\\', c] else [c]

/-- A value as it is written between its quotes. -/
def escape (value : Text) : Text := value.flatMap escapeChar

/-- The item that a character is written as. -/
def Item.ofChar (c : Char) : Item :=
  if h : c = '\\' ∨ c = '"' then .escaped c (by rintro rfl; revert h; decide)
  else .plain c (not_or.1 h).2 (not_or.1 h).1

theorem Item.text_ofChar (c : Char) : (ofChar c).text = escapeChar c := by
  rw [ofChar, escapeChar]
  split <;> rfl

theorem Item.meaning_ofChar (c : Char) : (ofChar c).meaning = [c] := by
  rw [ofChar]
  split
  · next h => exact if_pos h.symm
  · rfl

/-- A written value is a row of items. -/
theorem escape_eq_items (value : Text) :
    escape value = (value.map Item.ofChar).flatMap Item.text := by
  rw [List.flatMap_map, escape]
  congr 1
  funext c
  exact (Item.text_ofChar c).symm

/-- Decoding undoes writing. -/
theorem unescape_escape (value : Text) : unescape (escape value) = value := by
  have hmeaning : Item.meaning ∘ Item.ofChar = fun c => [c] := funext Item.meaning_ofChar
  rw [unescape, escape_eq_items, dropEscape_quote, dropEscape_backslash, List.flatMap_map]
  show value.flatMap (Item.meaning ∘ Item.ofChar) = value
  rw [hmeaning, List.flatMap_singleton']

/-! ## Written entries -/

/-- A key and the value that is to be found under it. -/
structure Entry where
  key : Text
  value : Text
  /-- Only identifiers are read as keys. -/
  isIdent : Text.isIdent key = true

namespace Entry

/-- An entry as it is written. -/
def text (e : Entry) : Text := e.key ++ ':' :: '"' :: (escape e.value ++ ['"'])

/-- The pair that an entry is read as. -/
def pair (e : Entry) : Text × Text := (e.key, escape e.value)

/-- An entry is read as its pair, whatever follows it. -/
theorem pair?_text_append (e : Entry) (rest : Text) :
    pair? (e.text ++ rest) = some (e.pair, rest) := by
  refine pair?_eq_some_iff.2 ⟨e.isIdent, _, escape_eq_items e.value, ?_⟩
  simp [text]

end Entry

/-! ## Written tags -/

/-- Entries one after the other, each behind a number of spaces. -/
def row (entries : List (Nat × Entry)) : Text :=
  entries.flatMap fun (gap, e) => List.replicate gap ' ' ++ e.text

theorem row_cons (gap : Nat) (e : Entry) (more : List (Nat × Entry)) :
    row ((gap, e) :: more) = List.replicate gap ' ' ++ (e.text ++ row more) := by
  simp [row]

theorem pairs_space (s : Text) : pairs (' ' :: s) = pairs s :=
  pairs_of_none (by rw [pair?, if_neg (by decide)])

theorem pairs_spaces (gap : Nat) (s : Text) : pairs (List.replicate gap ' ' ++ s) = pairs s := by
  induction gap with
  | zero => rfl
  | succ n ih => rw [List.replicate_succ, List.cons_append, pairs_space, ih]

theorem pairs_row (entries : List (Nat × Entry)) :
    pairs (row entries) = entries.map fun (_, e) => e.pair := by
  induction entries with
  | nil => exact pairs_nil
  | cons head more ih =>
      obtain ⟨gap, e⟩ := head
      rw [row_cons, pairs_spaces, pairs_of_pair? (e.pair?_text_append (row more)), ih]
      rfl

/-- By its key, a search meets the pair of the first entry for it. -/
theorem find?_pairs_row (entries : List (Nat × Entry)) (key : Text) :
    ((pairs (row entries)).find? fun (k, _) => k = key)
      = (entries.find? fun (_, e) => e.key = key).map fun (_, e) => e.pair := by
  rw [pairs_row, List.find?_map]
  rfl

/-- **A tag reads back as it was written.**  In a row of entries, whatever
their values hold and however they are spaced, a key has the value of the
first entry for it, and a key without an entry has none. -/
theorem lookup_row (entries : List (Nat × Entry)) (key : Text) :
    lookup ⟨row entries⟩ key
      = (entries.find? fun (_, e) => e.key = key).map fun (_, e) => e.value := by
  rw [lookup, find?_pairs_row, Option.map_map]
  cases entries.find? fun (_, e) => e.key = key with
  | none => rfl
  | some found => exact congrArg some (unescape_escape found.2.value)

/-- A value may look like an entry for another key. -/
example : row [(0, ⟨"xml", "json:\"-\"", rfl⟩), (0, ⟨"json", "a\\", rfl⟩)]
      = "xml:\"json:\\\"-\\\"\"json:\"a\\\\\"" ∧
    lookup ⟨"xml:\"json:\\\"-\\\"\"json:\"a\\\\\""⟩ "json" = some "a\\" := by
  decide +kernel

end Typescribe.Tag
