/-
A configuration that is written plainly loads as it is written.

Placeholders are filled in the text as a whole, before anything of it is read
as TOML.  The texts in a file may hold what means something to either pass:
brackets, commas, equals signs, marks of comments, and dollar signs and braces
that stand apart.  None of it disturbs a pass: a scan for placeholders stops only
where a dollar sign and a brace stand together, and nowhere in the file but in
its output path do they; and in double quotes nothing means anything to TOML but
the quote, the backslash and control characters.

So the first pass makes of the file the same file with another path
(`substitute_plainSource`), and the second reads any such file, whatever the
first has put there (`ofText?_plainSource`).
-/
import Typescribe.Config.Reader
import Typescribe.Proofs.Text.Ident
import Typescribe.Proofs.Text.Placeholder
import Typescribe.Proofs.Toml.Plain

namespace Typescribe.Config

open Toml (Entries Value)

/-- A file with an allow-list and an output path, its texts written as they
are. -/
def plainSource (names : List Text) (path : Text) : Text :=
  "[models]\nallow_list = [" ++ (Text.joined ", " (names.map Toml.inQuotes) ++
    ("]\n\n[output]\npath = \"" ++ (path ++ "\"\n")))

/-- A text that both passes leave as it is: it has no quote, no backslash and no
control character but the tab, and it opens no placeholder. -/
structure IsLiteral (s : Text) : Prop where
  plain : Toml.IsPlain s
  unopened : ¬Placeholder.Opens s

/-! ## Reading -/

section Reading

variable (names : List Text) (path : Text)

/-- The lines of the file. -/
def plainRows : List (Nat × Toml.Row) :=
  [(0, .header "models"), (0, .entry "allow_list" (.texts names)),
    (1, .header "output"), (0, .entry "path" (.text path))]

/-- The table that the file stands for. -/
def plainTable : Entries :=
  [("models", .table .header [("allow_list", .array (names.map .text))]),
    ("output", .table .header [("path", .text path)])]

theorem plainSource_eq_document : plainSource names path = Toml.document (plainRows names path) := by
  -- what stands between the texts, cut where lines and values begin
  have hmodels : "[models]\nallow_list = [".toList
      = (Toml.Row.header "models").written ++ ("allow_list".toList ++ (" = ".toList ++ ['['])) := by
    decide
  have houtput : "]\n\n[output]\npath = \"".toList
      = [']'] ++ ("\n".toList ++ ('\n' :: ((Toml.Row.header "output").written ++
          ("path".toList ++ (" = ".toList ++ ['"']))))) := by
    decide
  have hclose : "\"\n".toList = ['"'] ++ "\n".toList := by decide
  unfold plainSource plainRows
  rw [Toml.document_cons, Toml.document_cons, Toml.document_cons, Toml.document_cons, hmodels,
    houtput, hclose]
  simp only [Toml.document, Toml.Row.written, Toml.Plain.written, Toml.inRow, Toml.inQuotes,
    List.replicate_zero, List.replicate_succ, List.flatMap_nil, List.append_assoc,
    List.cons_append, List.nil_append, List.append_nil]

theorem texts?_map : texts? (names.map Value.text) = some names := by
  induction names with
  | nil => rfl
  | cons name more ih =>
      rw [List.map_cons, texts?, ih]
      rfl

theorem ofEntries?_plainTable : ofEntries? (plainTable names path) = some ⟨names, some path⟩ := by
  have hmodels : models? (.table .header [("allow_list", .array (names.map Value.text))])
      = some names := texts?_map names
  have houtput : output? (.table .header [("path", .text path)]) = some (some path) := rfl
  have hfirst : Entries.get? (plainTable names path) "models"
      = some (.table .header [("allow_list", .array (names.map Value.text))]) := rfl
  have hsecond : Entries.get? (plainTable names path) "output"
      = some (.table .header [("path", .text path)]) := rfl
  have hother : Entries.without (Entries.without (plainTable names path) "models") "output" = [] :=
    rfl
  have hrange : Toml.entriesInRange [] = true := rfl
  rw [ofEntries?, hother, if_pos hrange, hfirst, hsecond]
  simp only [hmodels, houtput]
  rfl

variable {names path}

/-- The file stands for its table. -/
theorem ofText?_plainSource (hnames : ∀ n ∈ names, Toml.IsPlain n) (hpath : Toml.IsPlain path) :
    Entries.ofText? (plainSource names path) = some (plainTable names path) := by
  have hreadable : ∀ r ∈ plainRows names path, r.2.IsReadable := by
    intro r hr
    simp only [plainRows, List.mem_cons, List.not_mem_nil, or_false] at hr
    have hmodels : Toml.IsBare "models" := by decide
    have hlist : Toml.IsBare "allow_list" := by decide
    have houtput : Toml.IsBare "output" := by decide
    have hkey : Toml.IsBare "path" := by decide
    rcases hr with rfl | rfl | rfl | rfl
    · exact hmodels
    · exact ⟨hlist, hnames⟩
    · exact houtput
    · exact ⟨hkey, hpath⟩
  rw [plainSource_eq_document, Toml.ofText?_document hreadable]
  rfl

end Reading

/-! ## Placeholders -/

section Unopened

variable {names : List Text}

theorem unopened_inQuotes {s : Text} (h : ¬Placeholder.Opens s) :
    ¬Placeholder.Opens (Toml.inQuotes s) := by
  have hquote : ¬Placeholder.Opens ['"'] := Placeholder.no_open_of_no_dollar (by decide)
  have hclose : ¬Placeholder.Opens (s ++ ['"']) :=
    Placeholder.no_open_append h hquote fun _ => nofun
  exact Placeholder.no_open_append hquote hclose nofun

theorem unopened_row (h : ∀ n ∈ names, ¬Placeholder.Opens n) :
    ¬Placeholder.Opens (Text.joined ", " (names.map Toml.inQuotes)) := by
  induction names with
  | nil => exact Placeholder.no_open_of_no_dollar List.not_mem_nil
  | cons name more ih =>
      obtain ⟨hname, hmore⟩ := List.forall_mem_cons.1 h
      cases more with
      | nil => exact unopened_inQuotes hname
      | cons other more =>
          have hcomma : ¬Placeholder.Opens [',', ' '] :=
            Placeholder.no_open_of_no_dollar (by decide)
          have hitem : ¬Placeholder.Opens (Toml.inQuotes name ++ [',', ' ']) :=
            Placeholder.no_open_append (unopened_inQuotes hname) hcomma fun _ => nofun
          refine Placeholder.no_open_append hitem (ih hmore) fun hlast => ?_
          rw [List.getLast?_append] at hlast
          cases hlast

/-- The file up to a place in its path opens nothing. -/
theorem unopened_start {before : Text} (hnames : ∀ n ∈ names, ¬Placeholder.Opens n)
    (hbefore : ¬Placeholder.Opens before) :
    ¬Placeholder.Opens ("[models]\nallow_list = [".toList ++
      (Text.joined ", " (names.map Toml.inQuotes) ++
        ("]\n\n[output]\npath = \"".toList ++ before))) := by
  have hmodels : '$' ∉ "[models]\nallow_list = [".toList := by decide
  have houtput : '$' ∉ "]\n\n[output]\npath = \"".toList := by decide
  have hpath := Placeholder.no_open_append (Placeholder.no_open_of_no_dollar houtput) hbefore
    fun hlast => absurd (List.mem_of_getLast? hlast) houtput
  have hrow := Placeholder.no_open_append (unopened_row hnames) hpath fun _ => nofun
  exact Placeholder.no_open_append (Placeholder.no_open_of_no_dollar hmodels) hrow
    fun hlast => absurd (List.mem_of_getLast? hlast) hmodels

/-- The one placeholder of the file is filled, and nothing else changes. -/
theorem substitute_plainSource (env : Environment) {before name behind : Text}
    (hnames : ∀ n ∈ names, ¬Placeholder.Opens n) (hbefore : ¬Placeholder.Opens before)
    (hname : Placeholder.IsName name) (hbehind : ¬Placeholder.Opens behind) :
    Placeholder.substitute env
        (plainSource names (before ++ ((Placeholder.Piece.hole name).source ++ behind)))
      = plainSource names (before ++ ((Placeholder.Piece.hole name).fill env ++ behind)) := by
  have hstart := unopened_start hnames hbefore
  have hend : ¬Placeholder.Opens (behind ++ "\"\n".toList) :=
    Placeholder.no_open_append hbehind (Placeholder.no_open_of_no_dollar (by decide))
      fun _ => nofun
  have hcut : ∀ t : Text, plainSource names (before ++ (t ++ behind))
      = ("[models]\nallow_list = [".toList ++ (Text.joined ", " (names.map Toml.inQuotes) ++
          ("]\n\n[output]\npath = \"".toList ++ before))) ++ (t ++ (behind ++ "\"\n".toList)) := by
    intro t
    unfold plainSource
    simp only [List.append_assoc]
  have hdollar : ((Placeholder.Piece.hole name).source ++ (behind ++ "\"\n".toList)).head?
      ≠ some '\x7b' := by
    intro hbrace
    exact absurd (Option.some.inj hbrace) (by decide)
  have hlead : Placeholder.leading?
      ((Placeholder.Piece.hole name).source ++ (behind ++ "\"\n".toList))
      = some (name, behind ++ "\"\n".toList) := by
    rw [Placeholder.leading?_eq_some_iff]
    exact ⟨hname, by simp [Placeholder.Piece.source]⟩
  rw [hcut, hcut,
    Placeholder.substitute_append env (Placeholder.noneAcross_of_isClosed
      (Placeholder.isClosed_of_no_open hstart) hdollar),
    Placeholder.substitute_of_no_open env hstart, Placeholder.substitute_of_leading? env hlead,
    Placeholder.substitute_of_no_open env hend]

end Unopened

/-! ## Loading -/

/-- The file with one placeholder in its path loads with what the placeholder
is filled with, if that may stand in double quotes. -/
theorem ofToml_plainSource (env : Environment) {names : List Text} {before name behind : Text}
    (hnames : ∀ n ∈ names, IsLiteral n) (hbefore : IsLiteral before)
    (hname : Placeholder.IsName name) (hbehind : IsLiteral behind)
    (hfill : Toml.IsPlain ((Placeholder.Piece.hole name).fill env)) :
    ofToml env (plainSource names (before ++ ((Placeholder.Piece.hole name).source ++ behind)))
      = .ok ⟨names, some (before ++ ((Placeholder.Piece.hole name).fill env ++ behind))⟩ := by
  have hsubstitute := substitute_plainSource env (fun n hn => (hnames n hn).unopened)
    hbefore.unopened hname hbehind.unopened
  have hpath := hbefore.plain.append (hfill.append hbehind.plain)
  have htable := ofText?_plainSource (fun n hn => (hnames n hn).plain) hpath
  rw [ofToml, hsubstitute, htable, Option.bind_some, ofEntries?_plainTable]

/-- An identifier may stand between the braces of a placeholder. -/
theorem isName_of_isIdent {name : Text} (h : Text.isIdent name = true) : Placeholder.IsName name := by
  refine ⟨?_, fun hbrace => ?_⟩
  · rintro rfl
    cases h
  · exact absurd (Text.isIdentRest_of_isIdent h _ hbrace) (by decide)

/-- A placeholder that is not filled may stand in double quotes. -/
theorem isPlain_hole {name : Text} (h : Text.isIdent name = true) :
    Toml.IsPlain (Placeholder.Piece.hole name).source := by
  have hname : Toml.IsPlain name := by
    intro c hc
    have hident := Text.isIdentRest_of_isIdent h c hc
    have hbounds := Text.toNat_of_isIdentRest hident
    refine ⟨?_, ?_, ?_⟩
    · rintro rfl
      exact absurd hident (by decide)
    · rintro rfl
      exact absurd hident (by decide)
    · simp only [Toml.isVisible, Bool.or_eq_true, Bool.and_eq_true, decide_eq_true_eq]
      omega
  have hopen : Toml.IsPlain ['$', '\x7b'] := by decide
  have hclose : Toml.IsPlain ['\x7d'] := by decide
  exact hopen.append (hname.append hclose)

/-- **A plainly written configuration loads as it is written.**  The allow-list
is the names of the file, in order, and the output path is the text before the
placeholder, the value of its name, and the text behind it; a name without a
value leaves the placeholder as it stood.  The value is not searched for
placeholders.  Texts and value may hold anything that may stand in double quotes
as itself, and no text but the placeholder opens one. -/
theorem plainSource_loads {names : List Text} {before name behind : Text}
    (hnames : ∀ n ∈ names, IsLiteral n) (hbefore : IsLiteral before)
    (hname : Text.isIdent name = true) (hbehind : IsLiteral behind) (env : Environment) :
    let hole : Text := '$' :: '\x7b' :: (name ++ ['\x7d'])
    let source := plainSource names (before ++ (hole ++ behind))
    (∀ value, env name = some value → Toml.IsPlain value →
      ofToml env source = .ok ⟨names, some (before ++ (value ++ behind))⟩) ∧
    (env name = none → ofToml env source = .ok ⟨names, some (before ++ (hole ++ behind))⟩) := by
  intro hole source
  have hload := ofToml_plainSource env hnames hbefore (isName_of_isIdent hname) hbehind
  constructor
  · intro value hvalue hplain
    have hfill : (Placeholder.Piece.hole name).fill env = value := by
      rw [Placeholder.Piece.fill, hvalue, Option.getD_some]
    rw [hfill] at hload
    exact hload hplain
  · intro hnone
    have hfill : (Placeholder.Piece.hole name).fill env = hole := by
      rw [Placeholder.Piece.fill, hnone, Option.getD_none]
      rfl
    rw [hfill] at hload
    exact hload (isPlain_hole hname)

/-- Brackets, commas and marks of comments in the names, dollar signs and braces
around the placeholder, and a value that looks like the placeholder. -/
theorem plainSource_loads_marks :
    let names : List Text := ["Point2f", "a = [1, #2]", "", "\x7b$"]
    let set : Environment := fun name => if name = "OUT" then some "$\x7bOUT\x7d # " else none
    let unset : Environment := fun _ => none
    let source := plainSource names ("\x7b./$" ++ ("$\x7bOUT\x7d" ++ "\x7d\x7b/$.ts".toList))
    (∀ n ∈ names, IsLiteral n) ∧ IsLiteral "\x7b./$" ∧ Text.isIdent "OUT" = true ∧
      IsLiteral "\x7d\x7b/$.ts" ∧ set "OUT" = some "$\x7bOUT\x7d # " ∧
      Toml.IsPlain "$\x7bOUT\x7d # " ∧ unset "OUT" = none ∧
      ofToml set source = .ok ⟨names, some ("\x7b./$" ++ ("$\x7bOUT\x7d # " ++ "\x7d\x7b/$.ts".toList))⟩ ∧
      ofToml unset source = .ok ⟨names, some ("\x7b./$" ++ ("$\x7bOUT\x7d" ++ "\x7d\x7b/$.ts".toList))⟩ := by
  intro names set unset source
  have hnames : ∀ n ∈ names, IsLiteral n := by
    intro n hn
    refine ⟨?_, ?_⟩
    · revert n
      decide +kernel
    · revert n
      decide +kernel
  have hbefore : IsLiteral "\x7b./$" := ⟨by decide +kernel, by decide +kernel⟩
  have hbehind : IsLiteral "\x7d\x7b/$.ts" := ⟨by decide +kernel, by decide +kernel⟩
  have hname : Text.isIdent "OUT" = true := by decide
  have hset : set "OUT" = some "$\x7bOUT\x7d # " := by decide
  have hvalue : Toml.IsPlain "$\x7bOUT\x7d # " := by decide +kernel
  exact ⟨hnames, hbefore, hname, hbehind, hset, hvalue, rfl,
    (plainSource_loads hnames hbefore hname hbehind set).1 _ hset hvalue,
    (plainSource_loads hnames hbefore hname hbehind unset).2 rfl⟩

end Typescribe.Config
