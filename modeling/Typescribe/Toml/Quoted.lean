/-
TOML strings.

There are four kinds: between double or single quotes, and on one line or,
with the quotes tripled, over several.  Between double quotes a backslash
escapes; in a string over several lines a newline directly after the opening
quotes is dropped, other newlines are kept as they are written, and one or
two quotes may stand directly before the closing ones.  No control character
but the tab may stand in a string as itself.

A string is read piece by piece; a piece is a character, an escape or a
newline, and what it stands for is a text, since a backslash at the end of a
line stands for nothing.
-/
import Typescribe.Text.Hex

namespace Typescribe.Toml

/-- Characters that may stand in a string or a comment as themselves. -/
def isVisible (c : Char) : Bool := c = '\t' || (0x20 ≤ c.toNat && c.toNat ≠ 0x7F)

/-- Space and tab. -/
def isSpace (c : Char) : Bool := c = ' ' || c = '\t'

/-! ## Escapes -/

/-- The character with a code point of so many hexadecimal digits, and what
follows them. -/
def codePoint? (width : Nat) (s : Text) : Option (Text × Text) :=
  let code := s.take width
  if code.length = width ∧ code.all Text.isHexDigit then
    (Text.ofCodePoint? (Text.ofDigits 16 code)).map fun c => ([c], s.drop width)
  else none

/-- The escapes of one character each. -/
def shortEscapes : List (Char × Char) :=
  [('b', '\x08'), ('t', '\t'), ('n', '\n'), ('f', '\x0c'), ('r', '\r'), ('e', '\x1b'),
    ('"', '"'), ('\\', '\\')]

/-- The escapes that give a code point, and the number of its digits. -/
def codeEscapes : List (Char × Nat) := [('x', 2), ('u', 4), ('U', 8)]

/-- What an escape stands for, read from behind its backslash, and what
follows it. -/
def escaped? : Text → Option (Text × Text)
  | [] => none
  | c :: rest =>
    match shortEscapes.lookup c with
    | some d => some ([d], rest)
    | none => (codeEscapes.lookup c).bind fun width => codePoint? width rest

theorem length_of_codePoint? {width : Nat} {s t rest : Text}
    (h : codePoint? width s = some (t, rest)) : rest.length ≤ s.length := by
  simp only [codePoint?] at h
  split at h
  · obtain ⟨c, _, hc⟩ := Option.map_eq_some_iff.1 h
    simp only [Prod.mk.injEq] at hc
    simp [← hc.2]
  · simp at h

theorem length_of_escaped? {s t rest : Text} (h : escaped? s = some (t, rest)) :
    rest.length < s.length := by
  cases s with
  | nil => simp [escaped?] at h
  | cons c more =>
    rw [escaped?] at h
    split at h
    · simp only [Option.some.injEq, Prod.mk.injEq] at h
      simp [h.2]
    · obtain ⟨width, _, hw⟩ := Option.bind_eq_some_iff.1 h
      have := length_of_codePoint? hw
      simp
      omega

/-! ## Newlines -/

/-- What follows the newline that a text starts with. -/
def newline? : Text → Option Text
  | '\n' :: rest => some rest
  | '\r' :: '\n' :: rest => some rest
  | _ => none

/-- The text without the spaces and newlines at its start. -/
def dropSpaceLines : Text → Text
  | '\r' :: '\n' :: rest => dropSpaceLines rest
  | c :: rest => if isSpace c || c = '\n' then dropSpaceLines rest else c :: rest
  | [] => []

theorem length_dropSpaceLines_le (s : Text) : (dropSpaceLines s).length ≤ s.length := by
  fun_induction dropSpaceLines s <;> simp_all <;> omega

/-- What follows a backslash at the end of a line: spaces to the end of that
line, and then all spaces and newlines. -/
def joined? (s : Text) : Option (Text × Text) :=
  (newline? (s.dropWhile isSpace)).map fun rest => ([], dropSpaceLines rest)

theorem length_of_newline? {s rest : Text} (h : newline? s = some rest) :
    rest.length < s.length := by
  unfold newline? at h
  split at h
  · obtain rfl := Option.some.inj h
    exact Nat.lt_succ_self _
  · obtain rfl := Option.some.inj h
    exact Nat.lt_of_lt_of_le (Nat.lt_succ_self _) (Nat.le_succ _)
  · simp at h

theorem length_of_joined? {s t rest : Text} (h : joined? s = some (t, rest)) :
    rest.length < s.length := by
  obtain ⟨r, hr, he⟩ := Option.map_eq_some_iff.1 h
  simp only [Prod.mk.injEq] at he
  have h1 := length_of_newline? hr
  have h2 := length_dropSpaceLines_le r
  have h3 := (List.dropWhile_sublist (l := s) isSpace).length_le
  rw [← he.2]
  omega

/-! ## Strings -/

/-- A kind of string. -/
structure Style where
  quote : Char
  /-- A backslash escapes. -/
  escapes : Bool
  /-- The quotes are tripled and newlines may stand inside. -/
  lines : Bool

/-- The end of a string: the quotes before it that belong to the string, and
what follows it. -/
def Style.closing? (style : Style) (s : Text) : Option (Text × Text) :=
  if style.lines then
    let quotes := s.takeWhile (· = style.quote)
    if quotes.length < 3 then none
    else
      let kept := min (quotes.length - 3) 2
      some (List.replicate kept style.quote, s.drop (kept + 3))
  else if s.head? = some style.quote then some ([], s.tail)
  else none

/-- The piece that a text starts with, and what follows it. -/
def Style.piece? (style : Style) : Text → Option (Text × Text)
  | [] => none
  | c :: rest =>
    if c = '\\' ∧ style.escapes then
      match if style.lines then joined? rest else none with
      | some found => some found
      | none => escaped? rest
    else if isVisible c then some ([c], rest)
    else if style.lines then
      (newline? (c :: rest)).map fun behind => (if c = '\n' then ['\n'] else ['\r', '\n'], behind)
    else none

theorem Style.length_of_piece? {style : Style} {s t rest : Text}
    (h : style.piece? s = some (t, rest)) : rest.length < s.length := by
  unfold Style.piece? at h
  split at h
  · simp at h
  · next c more =>
    split at h
    · split at h
      · next found hf =>
        split at hf
        · have := length_of_joined? (hf.trans h)
          simp
          omega
        · simp at hf
      · have := length_of_escaped? h
        simp
        omega
    · split at h
      · simp only [Option.some.injEq, Prod.mk.injEq] at h
        simp [h.2]
      · split at h
        · obtain ⟨r, hr, he⟩ := Option.map_eq_some_iff.1 h
          simp only [Prod.mk.injEq] at he
          rw [← he.2]
          exact length_of_newline? hr
        · simp at h

/-- What a string stands for, read from behind its opening quotes, and what
follows its closing ones. -/
def Style.body? (style : Style) (s : Text) : Option (Text × Text) :=
  match style.closing? s with
  | some found => some found
  | none =>
    match _h : style.piece? s with
    | none => none
    | some (t, rest) => (body? style rest).map fun (more, behind) => (t ++ more, behind)
termination_by s.length
decreasing_by exact Style.length_of_piece? _h

/-- Between double quotes, on one line. -/
def Style.basic : Style := ⟨'"', true, false⟩

/-- Between single quotes, on one line. -/
def Style.literal : Style := ⟨'\'', false, false⟩

/-- Between tripled double quotes. -/
def Style.basicLines : Style := ⟨'"', true, true⟩

/-- Between tripled single quotes. -/
def Style.literalLines : Style := ⟨'\'', false, true⟩

/-- The string on one line that a text starts with, and what follows it. -/
def lineString? : Text → Option (Text × Text)
  | '"' :: rest => Style.basic.body? rest
  | '\'' :: rest => Style.literal.body? rest
  | _ => none

/-- The string of any kind that a text starts with, and what follows it. -/
def string? : Text → Option (Text × Text)
  | '"' :: '"' :: '"' :: rest => Style.basicLines.body? ((newline? rest).getD rest)
  | '\'' :: '\'' :: '\'' :: rest => Style.literalLines.body? ((newline? rest).getD rest)
  | other => lineString? other

end Typescribe.Toml
