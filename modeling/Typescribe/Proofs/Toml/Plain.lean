/-
Plainly written TOML reads as it is written.

A document is plainly written when each of its lines is a header with one name,
or a name, an equals sign and a value, and each value is a text in double quotes
or a row of such texts in brackets.  A text may stand in double quotes as itself
when it has no quote, no backslash and no control character but the tab;
brackets, commas, equals signs and the mark of a comment mean nothing there.

Every reader is followed through what the writer put down, with any text behind
it: a reader for quotes stops at the closing quote, one for a name at the first
character that belongs to no name, one for brackets at the closing bracket.  The
row of texts and the row of lines are inductions on these rows, and what is left
of the text in each step is what the step before left.
-/
import Typescribe.Text.Quoted
import Typescribe.Toml.Reader

namespace Typescribe.Toml

/-! ## Texts in quotes -/

/-- The text may stand in double quotes as itself. -/
def IsPlain (s : Text) : Prop := ∀ c ∈ s, c ≠ '"' ∧ c ≠ '\\' ∧ isVisible c = true

-- the instance is named, lest a test of all characters there are is found
instance (s : Text) : Decidable (IsPlain s) := List.decidableBAll _ s

theorem IsPlain.append {s t : Text} (hs : IsPlain s) (ht : IsPlain t) : IsPlain (s ++ t) := by
  intro c hc
  rcases List.mem_append.1 hc with hc | hc
  · exact hs c hc
  · exact ht c hc

/-- A text in double quotes. -/
def inQuotes (s : Text) : Text := '"' :: (s ++ ['"'])

theorem inQuotes_append (s rest : Text) : inQuotes s ++ rest = '"' :: (s ++ '"' :: rest) := by
  simp [inQuotes]

/-- The closing quote ends a string. -/
theorem basic_body?_quote (rest : Text) : Style.basic.body? ('"' :: rest) = some ([], rest) := by
  rw [Style.body?]
  rfl

/-- A character that may stand in a string as itself is read as itself. -/
theorem basic_body?_cons {c : Char} (hquote : c ≠ '"') (hbackslash : c ≠ '\\')
    (hvisible : isVisible c = true) (s : Text) :
    Style.basic.body? (c :: s)
      = (Style.basic.body? s).map fun (more, behind) => (c :: more, behind) := by
  have hopen : Style.basic.closing? (c :: s) = none := by
    simp [Style.closing?, Style.basic, hquote]
  have hpiece : Style.basic.piece? (c :: s) = some ([c], s) := by
    simp [Style.piece?, hbackslash, hvisible]
  rw [Style.body?]
  simp only [hopen]
  split
  · next h =>
    rw [hpiece] at h
    cases h
  · next t rest h =>
    rw [hpiece] at h
    cases h
    rfl

theorem basic_body?_plain {s : Text} (h : IsPlain s) (rest : Text) :
    Style.basic.body? (s ++ '"' :: rest) = some (s, rest) := by
  induction s with
  | nil => exact basic_body?_quote rest
  | cons c more ih =>
      obtain ⟨hquote, hbackslash, hvisible⟩ := h c List.mem_cons_self
      rw [List.cons_append, basic_body?_cons hquote hbackslash hvisible,
        ih fun d hd => h d (List.mem_cons_of_mem c hd)]
      rfl

/-- A text in quotes is read, unless a quote behind it makes them look like
three. -/
theorem string?_plain {s rest : Text} (h : IsPlain s) (hrest : rest.head? ≠ some '"') :
    string? (inQuotes s ++ rest) = some (s, rest) := by
  rw [inQuotes_append]
  have hline : lineString? ('"' :: (s ++ '"' :: rest)) = some (s, rest) := basic_body?_plain h rest
  cases s with
  | nil =>
      cases rest with
      | nil => exact hline
      | cons d behind =>
          have hd : d ≠ '"' := fun hd => hrest (congrArg some hd)
          unfold string?
          split
          · next he =>
            obtain ⟨-, he⟩ := List.cons.inj he
            obtain ⟨-, he⟩ := List.cons.inj he
            exact absurd (List.cons.inj he).1 hd
          · next he => exact absurd (List.cons.inj he).1 (by decide)
          · exact hline
  | cons c more =>
      have hc : c ≠ '"' := (h c List.mem_cons_self).1
      unfold string?
      split
      · next he =>
        obtain ⟨-, he⟩ := List.cons.inj he
        exact absurd (List.cons.inj he).1 hc
      · next he => exact absurd (List.cons.inj he).1 (by decide)
      · exact hline

/-- As a value, at any depth. -/
theorem value?_inQuotes {s rest : Text} (h : IsPlain s) (hrest : rest.head? ≠ some '"')
    (depth : Nat) : value? depth (inQuotes s ++ rest) = some (.text s, rest) := by
  have hscalar : scalar? (inQuotes s ++ rest) = some (.text s, rest) := by
    rw [scalar?, string?_plain h hrest]
  cases depth with
  | zero => exact hscalar
  | succ depth => exact hscalar

/-! ## Gaps -/

theorem gap?_space (s : Text) : gap? (' ' :: s) = gap? s := rfl

theorem gap?_newline (s : Text) : gap? ('\n' :: s) = gap? s := rfl

theorem gap?_newlines (count : Nat) (s : Text) :
    gap? (List.replicate count '\n' ++ s) = gap? s := by
  induction count with
  | zero => rfl
  | succ n ih => rw [List.replicate_succ, List.cons_append, gap?_newline, ih]

/-- Where a character stands that no gap starts with, there is no gap. -/
theorem gap?_of_none {c : Char} (hspace : isSpace c = false) (hnewline : c ≠ '\n')
    (hreturn : c ≠ '\r') (hcomment : c ≠ '#') (s : Text) : gap? (c :: s) = some (c :: s) := by
  rw [gap?, gapFrom]
  · simp [hspace, hcomment]
  · exact hnewline
  · intro rest hc
    exact absurd hc hreturn

theorem gap?_quote (s : Text) : gap? ('"' :: s) = some ('"' :: s) :=
  gap?_of_none (by decide) (by decide) (by decide) (by decide) s

/-! ## Texts in brackets -/

/-- Texts in double quotes, with commas between them. -/
def inRow (items : List Text) : Text := Text.joined ", " (items.map inQuotes)

theorem items?_closing (item : Text → Option (Value × Text)) (rest : Text) :
    items? ']' item (']' :: rest) = some ([], rest) := by
  rw [items?]
  rfl

/-- The last item of a row; `indent` is a space or nothing. -/
theorem items?_last {item : Text → Option (Value × Text)} {indent s rest : Text} {v : Value}
    (hgap : gap? (indent ++ '"' :: s) = some ('"' :: s))
    (hitem : item ('"' :: s) = some (v, ']' :: rest)) :
    items? ']' item (indent ++ '"' :: s) = some ([v], rest) := by
  have hbehind : gap? (']' :: rest) = some (']' :: rest) := rfl
  rw [items?]
  simp only [hgap]
  rw [if_neg (by decide)]
  simp only [hitem, hbehind]
  exact if_pos trivial

/-- An item of a row before another. -/
theorem items?_next {item : Text → Option (Value × Text)} {indent s rest : Text} {v : Value}
    (hgap : gap? (indent ++ '"' :: s) = some ('"' :: s))
    (hitem : item ('"' :: s) = some (v, ',' :: rest)) (hlength : rest.length < s.length) :
    items? ']' item (indent ++ '"' :: s)
      = (items? ']' item rest).map fun (more, behind) => (v :: more, behind) := by
  have hbehind : gap? (',' :: rest) = some (',' :: rest) := rfl
  have hshorter : rest.length < (indent ++ '"' :: s).length := by
    simp
    omega
  rw [items?]
  simp only [hgap]
  rw [if_neg (by decide)]
  simp only [hitem, hbehind]
  rw [if_neg (by decide), if_pos ⟨trivial, hshorter⟩]

theorem inRow_cons (s t : Text) (more : List Text) :
    inRow (s :: t :: more) = inQuotes s ++ ',' :: ' ' :: inRow (t :: more) := by
  show inQuotes s ++ ", ".toList ++ Text.joined ", " ((t :: more).map inQuotes) = _
  rw [List.append_assoc]
  rfl

/-- A row of texts in brackets is read item by item; in front of it there may be
a space, as there is behind a comma. -/
theorem items?_inRow (depth : Nat) (rest : Text) : ∀ (items : List Text) (indent : Text),
    (∀ s ∈ items, IsPlain s) → indent = [] ∨ indent = [' '] →
      items? ']' (value? depth) (indent ++ (inRow items ++ ']' :: rest))
        = some (items.map Value.text, rest) := by
  intro items
  induction items with
  | nil =>
      intro indent _ hindent
      rcases hindent with rfl | rfl
      · exact items?_closing _ rest
      · rw [items?]
        rfl
  | cons s more ih =>
      intro indent hplain hindent
      obtain ⟨hs, hmore⟩ := List.forall_mem_cons.1 hplain
      have hgap : ∀ t : Text, gap? (indent ++ '"' :: t) = some ('"' :: t) := by
        intro t
        rcases hindent with rfl | rfl
        · exact gap?_quote t
        · exact (gap?_space _).trans (gap?_quote t)
      cases more with
      | nil =>
          have hbracket : (']' :: rest).head? ≠ some '"' := nofun
          have hitem := value?_inQuotes hs hbracket depth
          rw [inQuotes_append] at hitem
          show items? ']' (value? depth) (indent ++ (inQuotes s ++ ']' :: rest)) = _
          rw [inQuotes_append]
          exact items?_last (hgap _) hitem
      | cons t more =>
          have hcomma : (',' :: ' ' :: (inRow (t :: more) ++ ']' :: rest)).head? ≠ some '"' := nofun
          have hitem := value?_inQuotes hs hcomma depth
          rw [inQuotes_append] at hitem
          have hlength : (' ' :: (inRow (t :: more) ++ ']' :: rest)).length
              < (s ++ '"' :: ',' :: ' ' :: (inRow (t :: more) ++ ']' :: rest)).length := by
            simp
            omega
          rw [inRow_cons, List.append_assoc, inQuotes_append, List.cons_append, List.cons_append,
            items?_next (hgap _) hitem hlength]
          have hbehind := ih [' '] hmore (.inr rfl)
          rw [List.singleton_append] at hbehind
          rw [hbehind]
          rfl

/-! ## Values -/

/-- A value that is written plainly: a text, or a row of texts. -/
inductive Plain where
  | text (s : Text)
  | texts (items : List Text)

namespace Plain

/-- The value as it is written. -/
def written : Plain → Text
  | text s => inQuotes s
  | texts items => '[' :: (inRow items ++ [']'])

/-- The value that is meant. -/
def value : Plain → Value
  | text s => .text s
  | texts items => .array (items.map Value.text)

/-- Every text in the value may stand in double quotes as itself. -/
def IsReadable : Plain → Prop
  | text s => IsPlain s
  | texts items => ∀ s ∈ items, IsPlain s

/-- The value is read up to the end of its line. -/
theorem value?_written {p : Plain} (h : p.IsReadable) (depth : Nat) (rest : Text) :
    value? (depth + 1) (p.written ++ '\n' :: rest) = some (p.value, '\n' :: rest) := by
  cases p with
  | text s =>
      have hnewline : ('\n' :: rest).head? ≠ some '"' := nofun
      exact value?_inQuotes h hnewline (depth + 1)
  | texts items =>
      have hitems := items?_inRow depth ('\n' :: rest) items [] h (.inl rfl)
      have hwritten : (texts items).written ++ '\n' :: rest
          = '[' :: (inRow items ++ ']' :: '\n' :: rest) := by
        simp [written]
      rw [hwritten, value?]
      rw [List.nil_append] at hitems
      rw [hitems]
      rfl

end Plain

/-! ## Keys -/

/-- The name may stand as a key without quotes. -/
def IsBare (name : Text) : Prop := name ≠ [] ∧ ∀ c ∈ name, isBareChar c = true

instance (name : Text) : Decidable (IsBare name) :=
  have := List.decidableBAll (fun c => isBareChar c = true) name
  instDecidableAnd

/-- A name starts with no character that belongs to no name. -/
theorem IsBare.exists_cons {name : Text} (h : IsBare name) :
    ∃ c more, name = c :: more ∧ ∀ d, isBareChar d = false → c ≠ d := by
  obtain ⟨hne, hbare⟩ := h
  cases name with
  | nil => exact absurd rfl hne
  | cons c more =>
      refine ⟨c, more, rfl, ?_⟩
      rintro d hd rfl
      rw [hbare c List.mem_cons_self] at hd
      cases hd

/-- Space and tab belong to no name. -/
theorem isSpace_of_ne {c : Char} (h : ∀ d, isBareChar d = false → c ≠ d) : isSpace c = false := by
  rw [isSpace, Bool.or_eq_false_iff, decide_eq_false_iff_not, decide_eq_false_iff_not]
  exact ⟨h ' ' (by decide), h '\t' (by decide)⟩

/-- A name without quotes ends at the first character that belongs to no such
name. -/
theorem name?_bare {name : Text} (h : IsBare name) {c : Char} (hc : isBareChar c = false)
    (rest : Text) : name? (name ++ c :: rest) = some (name, c :: rest) := by
  have hquotes : lineString? (name ++ c :: rest) = none := by
    obtain ⟨d, more, rfl, hd⟩ := h.exists_cons
    unfold lineString?
    split
    · next he => exact absurd (List.cons.inj he).1 (hd '"' (by decide))
    · next he => exact absurd (List.cons.inj he).1 (hd '\'' (by decide))
    · rfl
  obtain ⟨hne, hbare⟩ := h
  have htake : (name ++ c :: rest).takeWhile isBareChar = name := by
    rw [List.takeWhile_append_of_pos hbare, List.takeWhile_cons_of_neg (by simp [hc]),
      List.append_nil]
  have hdrop : (name ++ c :: rest).dropWhile isBareChar = c :: rest := by
    rw [List.dropWhile_append_of_pos hbare, List.dropWhile_cons_of_neg (by simp [hc])]
  rw [name?, hquotes]
  simp only [htake, hdrop]
  rw [if_neg (by simpa using hne)]

theorem dropSpaces_bare {name : Text} (h : IsBare name) (rest : Text) :
    dropSpaces (name ++ rest) = name ++ rest := by
  obtain ⟨c, more, rfl, hc⟩ := h.exists_cons
  have hspace : isSpace c = false := isSpace_of_ne hc
  exact List.dropWhile_cons_of_neg (by simp [hspace])

/-- One name is a key, where no dot follows it and its spaces. -/
theorem key?_bare {name : Text} (h : IsBare name) {c : Char} (hc : isBareChar c = false)
    {rest : Text} (hdot : (dropSpaces (c :: rest)).head? ≠ some '.') :
    key? (name ++ c :: rest) = some (⟨[], name⟩, dropSpaces (c :: rest)) := by
  have hdotted : dotted? (name ++ c :: rest) = some (⟨[], name⟩, dropSpaces (c :: rest)) := by
    rw [dotted?, dropSpaces_bare h, name?_bare h hc]
    simp only
    split
    · next he =>
      rw [he] at hdot
      exact absurd rfl hdot
    · rfl
  rw [key?, hdotted]
  rfl

/-! ## Lines -/

/-- A line that is written plainly. -/
inductive Row where
  | header (name : Text)
  | entry (name : Text) (value : Plain)

namespace Row

/-- The line as it is written, up to its end. -/
def written : Row → Text
  | header name => '[' :: (name ++ "]\n")
  | entry name value => name ++ (" = " ++ (value.written ++ "\n"))

/-- The line that is meant. -/
def line : Row → Line
  | header name => .header false ⟨[], name⟩
  | entry name value => .entry ⟨[], name⟩ value.value

/-- The name may stand without quotes, and the value is readable. -/
def IsReadable : Row → Prop
  | header name => IsBare name
  | entry name value => IsBare name ∧ value.IsReadable

/-- No gap starts with the first character of a line, nor does a byte order
mark. -/
theorem exists_written {r : Row} (h : r.IsReadable) : ∃ c more, r.written = c :: more ∧
    c ≠ '\uFEFF' ∧ ∀ s, gap? (c :: s) = some (c :: s) := by
  cases r with
  | header name =>
      exact ⟨'[', name ++ "]\n", rfl, by decide, fun s =>
        gap?_of_none (by decide) (by decide) (by decide) (by decide) s⟩
  | entry name value =>
      obtain ⟨c, more, rfl, hc⟩ := h.1.exists_cons
      exact ⟨c, _, rfl, hc _ (by decide), fun s =>
        gap?_of_none (isSpace_of_ne hc) (hc _ (by decide)) (hc _ (by decide)) (hc _ (by decide)) s⟩

/-- A header is read up to the end of its line. -/
theorem header?_written {name : Text} (h : IsBare name) (rest : Text) :
    header? ((header name).written ++ rest) = some ((header name).line, '\n' :: rest) := by
  have hwritten : (header name).written ++ rest = '[' :: (name ++ ']' :: '\n' :: rest) := by
    simp [written]
  have hkey : key? (name ++ ']' :: '\n' :: rest) = some (⟨[], name⟩, ']' :: '\n' :: rest) :=
    key?_bare h (by decide) nofun
  rw [hwritten]
  unfold header?
  split
  · next he =>
    -- a second bracket would belong to the name
    obtain ⟨c, more, rfl, hc⟩ := h.exists_cons
    obtain ⟨-, he⟩ := List.cons.inj he
    exact absurd (List.cons.inj he).1 (hc '[' (by decide))
  · next he =>
    obtain ⟨-, rfl⟩ := List.cons.inj he
    simp only [hkey]
    rfl
  · next hno => exact absurd rfl (hno _)

/-- So is an entry. -/
theorem keyValue?_written {name : Text} {value : Plain} (hname : IsBare name)
    (hvalue : value.IsReadable) (depth : Nat) (rest : Text) :
    keyValue? (fun t => some (dropSpaces t)) (value? (depth + 1))
        ((entry name value).written ++ rest)
      = some ((⟨[], name⟩, value.value), '\n' :: rest) := by
  have hwritten : (entry name value).written ++ rest
      = name ++ ' ' :: '=' :: ' ' :: (value.written ++ '\n' :: rest) := by
    simp [written]
  have hkey : key? (name ++ ' ' :: '=' :: ' ' :: (value.written ++ '\n' :: rest))
      = some (⟨[], name⟩, '=' :: ' ' :: (value.written ++ '\n' :: rest)) :=
    key?_bare hname (by decide) nofun
  have hequals : dropSpaces ('=' :: ' ' :: (value.written ++ '\n' :: rest))
      = '=' :: ' ' :: (value.written ++ '\n' :: rest) := rfl
  have hspace : dropSpaces (' ' :: (value.written ++ '\n' :: rest))
      = value.written ++ '\n' :: rest := by
    cases value with
    | text s => rfl
    | texts items => rfl
  rw [hwritten, keyValue?, hkey]
  simp only [hequals, hspace, Option.bind_some, Plain.value?_written hvalue]
  rfl

/-- A line is read whole. -/
theorem line?_written {r : Row} (h : r.IsReadable) (rest : Text) :
    line? (r.written ++ rest) = some (r.line, rest) := by
  have hend : lineEnd? ('\n' :: rest) = some rest := rfl
  cases r with
  | header name =>
      have hhead : ((header name).written ++ rest).head? = some '[' := rfl
      rw [line?]
      simp only [if_pos hhead, header?_written h, hend]
      rfl
  | entry name value =>
      obtain ⟨hname, hvalue⟩ := h
      have hhead : ((entry name value).written ++ rest).head? ≠ some '[' := by
        obtain ⟨c, more, rfl, hc⟩ := hname.exists_cons
        exact fun hbracket => hc '[' (by decide) (Option.some.inj hbracket)
      rw [line?]
      simp only [if_neg hhead, depthLimit, keyValue?_written hname hvalue, Option.map_some, hend]
      rfl

end Row

/-! ## Documents -/

/-- Lines one after the other, each behind a number of blank lines. -/
def document (rows : List (Nat × Row)) : Text :=
  rows.flatMap fun (gap, r) => List.replicate gap '\n' ++ r.written

theorem document_cons (gap : Nat) (r : Row) (more : List (Nat × Row)) :
    document ((gap, r) :: more) = List.replicate gap '\n' ++ (r.written ++ document more) := by
  simp [document]

/-- A document is read line by line. -/
theorem lines?_document : ∀ {rows : List (Nat × Row)}, (∀ r ∈ rows, r.2.IsReadable) →
    lines? (document rows) = some (rows.map fun r => r.2.line) := by
  intro rows
  induction rows with
  | nil =>
      intro _
      rw [lines?]
      rfl
  | cons head more ih =>
      intro h
      obtain ⟨gap, r⟩ := head
      obtain ⟨hr, hmore⟩ := List.forall_mem_cons.1 h
      obtain ⟨c, written, hwritten, -, hgap⟩ := r.exists_written hr
      have hbody : gap? (List.replicate gap '\n' ++ (r.written ++ document more))
          = some (r.written ++ document more) := by
        rw [gap?_newlines, hwritten]
        exact hgap _
      have hlength : (document more).length
          < (List.replicate gap '\n' ++ (r.written ++ document more)).length := by
        simp [hwritten]
        omega
      rw [document_cons, lines?]
      simp only [hbody]
      split
      · next hnone => cases hnone
      · next hempty =>
        rw [hwritten] at hempty
        cases hempty
      · next body hsome =>
        cases hsome
        rw [Row.line?_written hr]
        simp only [if_pos hlength, ih hmore]
        rfl

/-- Neither does a document start with a byte order mark. -/
theorem head?_document_ne {rows : List (Nat × Row)} (h : ∀ r ∈ rows, r.2.IsReadable) :
    (document rows).head? ≠ some '\uFEFF' := by
  cases rows with
  | nil => exact nofun
  | cons head more =>
      obtain ⟨gap, r⟩ := head
      obtain ⟨c, written, hwritten, hmark, -⟩ := r.exists_written (h _ List.mem_cons_self)
      rw [document_cons]
      cases gap with
      | zero =>
          rw [hwritten]
          exact fun hc => hmark (Option.some.inj hc)
      | succ n => exact fun hc => absurd (Option.some.inj hc) (by decide)

/-- **A plainly written document reads as it is written**: it stands for the
table that its lines make. -/
theorem ofText?_document {rows : List (Nat × Row)} (h : ∀ r ∈ rows, r.2.IsReadable) :
    Entries.ofText? (document rows) = (Document.ofLines (rows.map fun r => r.2.line)).table? := by
  rw [Entries.ofText?]
  simp only [if_neg (head?_document_ne h), lines?_document h, Option.bind_some]

end Typescribe.Toml
