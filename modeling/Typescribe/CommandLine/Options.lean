/-
Command-line options.

Arguments are read from left to right and the first problem wins.  A flag
takes no value; a setting takes one, attached to it or as the argument behind
it.  A flag and an attached value count at once.  A value in an argument of
its own is only remembered, and settled when the next flag or setting is
recognised or when the arguments end: only then is it checked, and only then
is it seen that it is missing or that the setting was given before.
-/
import Typescribe.Text.Basic

namespace Typescribe.CommandLine

/-- How log lines are written. -/
inductive LogFormat where
  | compact
  | json
deriving DecidableEq, Repr

namespace LogFormat

def name : LogFormat → Text
  | compact => "compact"
  | json => "json"

def ofName? (s : Text) : Option LogFormat := [compact, json].find? fun f => f.name = s

end LogFormat

/-- What a command line asks for. -/
structure Options where
  /-- The configuration file to read. -/
  config : Option Text
  /-- The file to write, before what the configuration says. -/
  output : Option Text
  listModels : Bool
  dryRun : Bool
  verbose : Bool
  logFormat : LogFormat
deriving DecidableEq, Repr

/-- Why a command line is not run. -/
inductive UsageError where
  /-- An unknown option, or an argument that belongs to none. -/
  | unknownArgument
  /-- A value that is missing or not one of the choices. -/
  | invalidValue
  /-- An option is given twice. -/
  | argumentConflict
  /-- A flag is given a value. -/
  | tooManyValues
  /-- Help was asked for. -/
  | displayHelp
deriving DecidableEq, Repr

/-- Options without a value. -/
inductive Flag where
  | listModels
  | dryRun
  | verbose
  | help
deriving DecidableEq, Repr

/-- Options with a value. -/
inductive Setting where
  | config
  | output
  | logFormat
deriving DecidableEq, Repr

/-- An option of either kind. -/
inductive Opt where
  | flag (f : Flag)
  | setting (s : Setting)
deriving DecidableEq, Repr

/-- Options by their long names. -/
def longNames : List (Text × Opt) := [
  ("config", .setting .config), ("output", .setting .output), ("list-models", .flag .listModels),
  ("dry-run", .flag .dryRun), ("verbose", .flag .verbose), ("log-format", .setting .logFormat),
  ("help", .flag .help)]

/-- Options by their short names. -/
def shortNames : List (Char × Opt) := [
  ('c', .setting .config), ('o', .setting .output), ('v', .flag .verbose), ('h', .flag .help)]

/-! ## Reading -/

/-- What is known after some arguments. -/
structure Draft where
  config : Option Text
  output : Option Text
  logFormat : Option LogFormat
  flags : List Flag
  /-- The setting that is not settled yet, and its value if there was one. -/
  pending : Option (Setting × Option Text)

namespace Draft

/-- Nothing is known yet. -/
def empty : Draft := ⟨none, none, none, [], none⟩

/-- Gives a setting its value. -/
def assign (d : Draft) (setting : Setting) (value : Text) : Except UsageError Draft :=
  match setting with
  | .config =>
    if d.config.isSome then .error .argumentConflict else .ok { d with config := some value }
  | .output =>
    if d.output.isSome then .error .argumentConflict else .ok { d with output := some value }
  | .logFormat =>
    if d.logFormat.isSome then .error .argumentConflict
    else
      match LogFormat.ofName? value with
      | some format => .ok { d with logFormat := some format }
      | none => .error .invalidValue

/-- Settles what is pending. -/
def settle (d : Draft) : Except UsageError Draft :=
  match d.pending with
  | none => .ok d
  | some (_, none) => .error .invalidValue
  | some (setting, some value) => assign { d with pending := none } setting value

/-- Takes a flag. -/
def takeFlag (d : Draft) (flag : Flag) : Except UsageError Draft :=
  match d.settle with
  | .error e => .error e
  | .ok d =>
    if flag = .help then .error .displayHelp
    else if flag ∈ d.flags then .error .argumentConflict
    else .ok { d with flags := flag :: d.flags }

/-- Takes a setting, with its value if that is attached. -/
def takeSetting (d : Draft) (setting : Setting) (attached : Option Text) :
    Except UsageError Draft :=
  match d.settle with
  | .error e => .error e
  | .ok d =>
    match attached with
    | some value => d.assign setting value
    | none => .ok { d with pending := some (setting, none) }

/-- Takes a long option: its name, and perhaps an equals sign and a value. -/
def takeLong (d : Draft) (body : Text) : Except UsageError Draft :=
  let (name, attached) := match Text.cutAt '=' body with
    | some (name, value) => (name, some value)
    | none => (body, none)
  match longNames.lookup name with
  | none => .error .unknownArgument
  | some (.setting setting) => d.takeSetting setting attached
  | some (.flag flag) => if attached.isSome then .error .tooManyValues else d.takeFlag flag

/-- Takes short options written together; what follows a setting is its
value, after an equals sign or directly. -/
def takeShort (d : Draft) : Text → Except UsageError Draft
  | [] => .ok d
  | c :: rest =>
    match shortNames.lookup c with
    | none => .error .unknownArgument
    | some (.flag flag) =>
      match d.takeFlag flag with
      | .error e => .error e
      | .ok d => takeShort d rest
    | some (.setting setting) =>
      let attached := match rest with
        | [] => none
        | '=' :: value => some value
        | value => some value
      d.takeSetting setting attached

/-- Takes an argument that is no option: the value that is waited for, or
nothing that belongs here. -/
def takePlain (d : Draft) (arg : Text) : Except UsageError Draft :=
  match d.pending with
  | some (setting, none) => .ok { d with pending := some (setting, some arg) }
  | _ => .error .unknownArgument

/-- Takes one argument.  A single dash is no option. -/
def take (d : Draft) : Text → Except UsageError Draft
  | '-' :: '-' :: body => d.takeLong body
  | '-' :: c :: rest => d.takeShort (c :: rest)
  | arg => d.takePlain arg

/-- Takes all arguments.  Two dashes end the options, and no argument may
follow them. -/
def takeAll (d : Draft) : List Text → Except UsageError Draft
  | [] => d.settle
  | arg :: more =>
    if arg = "--" then (if more.isEmpty then d.settle else .error .unknownArgument)
    else
      match d.take arg with
      | .error e => .error e
      | .ok d => takeAll d more

end Draft

/-- Reads a command line, without the name of the program. -/
def Options.ofArgs (args : List Text) : Except UsageError Options :=
  (Draft.empty.takeAll args).map fun d =>
    { config := d.config
      output := d.output
      listModels := d.flags.contains .listModels
      dryRun := d.flags.contains .dryRun
      verbose := d.flags.contains .verbose
      logFormat := d.logFormat.getD .compact }

end Typescribe.CommandLine
