/-
Building TOML tables: which definitions may stand together.

A document is a row of entries and then of sections, each a header with the
entries under it.  A key is a name and the names of the tables above it.  Of
two definitions of one thing none is allowed to hide the other, and a table
may only be added to by the kind of key that opened it:

* an entry whose key is a bare name goes into the table at hand; one with a
  dotted key goes into a table that dotted keys made, through such tables or
  through tables that headers only passed;
* a header names a new table, or one that headers only passed so far;
* a double-bracketed header adds a table to an array of such tables, and
  every key that passes the array goes on in its last table.
-/
import Typescribe.Toml.Value

namespace Typescribe.Toml

/-- A name, and the names of the tables above it. -/
structure Key where
  above : List Text
  name : Text
deriving DecidableEq, Repr

/-- A header and the entries under it. -/
structure Section where
  /-- The header stands in double brackets. -/
  repeated : Bool
  key : Key
  entries : List (Key × Value)

/-- A document: entries before the first header, and sections. -/
structure Document where
  entries : List (Key × Value)
  sections : List Section

namespace Entries

/-- The value of a name. -/
def get? (entries : Entries) (name : Text) : Option Value :=
  (List.find? (fun e => e.1 = name) entries).map (·.2)

/-- Gives a name a value, in the place of the one it had, else at the end. -/
def set (name : Text) (value : Value) : Entries → Entries
  | [] => [(name, value)]
  | e :: more => if e.1 = name then (name, value) :: more else e :: set name value more

/-- Everything but what stands under a name. -/
def without (entries : Entries) (name : Text) : Entries :=
  List.filter (fun e => e.1 ≠ name) entries

/-- Changes the table that names lead to, making the tables on the way where
there are none.  `dotted` says that the names belong to a dotted key: it then
passes no table that is complete in itself. -/
def changeAt (dotted : Bool) (change : Form → Entries → Option Entries) :
    List Text → Form → Entries → Option Entries
  | [], form, entries => change form entries
  | name :: path, _, entries =>
    match get? entries name with
    | none =>
      let form := if dotted then .dotted else .passed
      (changeAt dotted change path form []).map fun child => set name (.table form child) entries
    | some (.table form child) =>
      if form = .inline || (dotted && form = .header) then none
      else
        (changeAt dotted change path form child).map fun child =>
          set name (.table form child) entries
    | some (.tables items) =>
      match items.getLast? with
      | some (.table form child) =>
        (changeAt dotted change path form child).map fun child =>
          set name (.tables (items.dropLast ++ [.table form child])) entries
      | _ => none
    | some _ => none

/-- Adds an entry to a table. -/
def insert (form : Form) (entries : Entries) (key : Key) (value : Value) : Option Entries :=
  let dotted := !key.above.isEmpty
  changeAt dotted (fun form entries =>
    if decide (form = .dotted) = dotted && (get? entries key.name).isNone then
      some (entries ++ [(key.name, value)])
    else none) key.above form entries

/-- Adds entries to a table, one after the other. -/
def insertAll (form : Form) (entries : Entries) : List (Key × Value) → Option Entries
  | [] => some entries
  | (key, value) :: more =>
    match insert form entries key value with
    | none => none
    | some entries => insertAll form entries more

/-- Adds a section to the table that is the whole document. -/
def insertSection (root : Entries) (s : Section) : Option Entries :=
  changeAt false (fun _ entries =>
    match get? entries s.key.name with
    | none =>
      (insertAll .header [] s.entries).map fun child =>
        let table := .table .header child
        entries ++ [(s.key.name, if s.repeated then .tables [table] else table)]
    | some (.table .passed child) =>
      if s.repeated then none
      else
        (insertAll .header child s.entries).map fun child =>
          set s.key.name (.table .header child) entries
    | some (.tables items) =>
      if s.repeated then
        (insertAll .header [] s.entries).map fun child =>
          set s.key.name (.tables (items ++ [.table .header child])) entries
      else none
    | some _ => none) s.key.above .header root

/-- Adds sections, one after the other. -/
def insertSections (root : Entries) : List Section → Option Entries
  | [] => some root
  | s :: more =>
    match insertSection root s with
    | none => none
    | some root => insertSections root more

end Entries

/-- The table that a document stands for, if its definitions may stand
together. -/
def Document.table? (d : Document) : Option Entries :=
  (Entries.insertAll .header [] d.entries).bind fun root => Entries.insertSections root d.sections

end Typescribe.Toml
