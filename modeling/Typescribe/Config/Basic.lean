/-
Configurations: which models to generate and where the declarations go.
-/
import Typescribe.AllowList
import Typescribe.Catalog.Indoor
import Typescribe.Text.Quoted

namespace Typescribe

/-- What to generate and where to write it. -/
structure Config where
  /-- Names of models, in the order of output. -/
  allowList : List Text
  /-- The file to write; without one, declarations go to the output stream. -/
  outputPath : Option Text
deriving DecidableEq, Repr

namespace Config

/-- The indoor-map models, to the output stream. -/
def default : Config := ⟨Indoor.allowList, none⟩

/-- The configuration with another file to write. -/
def withOutput (c : Config) (path : Text) : Config := { c with outputPath := some path }

/-- The place of the output path in a configuration. -/
def pathField : Text := "output.path"

/-- The allow-list must pass, and then the path. -/
def check (c : Config) : Except Fault Unit :=
  match AllowList.check c.allowList with
  | .error fault => .error fault
  | .ok () =>
    match c.outputPath with
    | none => .ok ()
    | some path => requirePath pathField path

/-- The configuration on one line. -/
def line (c : Config) : Text :=
  let path := match c.outputPath with
    | none => "None"
    | some path => "Some(" ++ path.quoted ++ ")"
  "TypegenConfig \x7b models: ModelsConfig \x7b allow_list: [" ++
    Text.joined ", " (c.allowList.map Text.quoted) ++
    "] \x7d, output: OutputConfig \x7b path: " ++ path ++ " \x7d \x7d"

end Config

end Typescribe
