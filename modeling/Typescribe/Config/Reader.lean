/-
Reading a configuration from TOML.

Placeholders are given their values first, in the text as a whole.  Of the
table that the text stands for, `models` and `output` matter.  Each is a table
with a key for every part, or an array with the parts in order, of which
further items are not looked at.  Everything else in a table is ignored, but
numbers in it must still be such as can be held.
-/
import Typescribe.Config.Basic
import Typescribe.Disk
import Typescribe.Text.Placeholder
import Typescribe.Toml.Reader

namespace Typescribe.Config

open Toml (Entries Value)

/-- A list of texts. -/
def texts? : List Value → Option (List Text)
  | [] => some []
  | .text s :: more => (texts? more).map (s :: ·)
  | _ :: _ => none

/-- The allow-list: an array of texts. -/
def allowList? : Value → Option (List Text)
  | .array items => texts? items
  | _ => none

/-- The output path: a text. -/
def path? : Value → Option Text
  | .text s => some s
  | _ => none

/-- The allow-list in the part `models`. -/
def models? : Value → Option (List Text)
  | .table _ entries =>
    if Toml.entriesInRange (Entries.without entries "allow_list") then
      (Entries.get? entries "allow_list").bind allowList?
    else none
  | .array (first :: _) => allowList? first
  | _ => none

/-- The output path in the part `output`, which need not be there.  A date
counts as a table without any key that matters. -/
def output? : Value → Option (Option Text)
  | .table _ entries =>
    if Toml.entriesInRange (Entries.without entries "path") then
      match Entries.get? entries "path" with
      | none => some none
      | some value => (path? value).map some
    else none
  | .array (first :: _) => (path? first).map some
  | .moment _ => some none
  | _ => none

/-- The configuration in a table; parts that are missing have their default. -/
def ofEntries? (root : Entries) : Option Config :=
  if Toml.entriesInRange (Entries.without (Entries.without root "models") "output") then do
    let allowList ← match Entries.get? root "models" with
      | none => some default.allowList
      | some value => models? value
    let outputPath ← match Entries.get? root "output" with
      | none => some default.outputPath
      | some value => output? value
    some ⟨allowList, outputPath⟩
  else none

/-- The configuration that a text stands for once its placeholders have their
values. -/
def ofToml (env : Environment) (s : Text) : Except Fault Config :=
  match (Entries.ofText? (Placeholder.substitute env s)).bind ofEntries? with
  | some config => .ok config
  | none => .error (.malformedConfig "toml_parsing" "TOML parsing error")

/-- The configuration in a file. -/
def ofFile (env : Environment) (disk : Disk) (path : Text) : Except Fault Config :=
  match (disk.read? path).bind Utf8.decode? with
  | some s => ofToml env s
  | none => .error (.io none)

end Typescribe.Config
