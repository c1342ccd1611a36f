/-
The command line as a function of its arguments, its environment and the
disk.

A run lists the models of the catalog, or loads a configuration and executes
it; an output path among the options goes before that of the configuration.
After a fault two events and a line for the user tell what happened, and the
exit code follows the fault's severity.  A run whose log directives cannot even
be cut into parts stops before it begins.
-/
import Typescribe.CommandLine.LogFilter
import Typescribe.CommandLine.Options
import Typescribe.Config.Reader
import Typescribe.Execution

namespace Typescribe.CommandLine

/-- What a run leaves behind. -/
structure Result where
  exitCode : UInt8
  /-- The bytes on the output stream. -/
  output : List UInt8
  /-- The last line for the user, after a fault. -/
  complaint : Option Text
  /-- The events that are shown. -/
  events : List Event
  disk : Disk

/-- One line for every model, with the number of its fields. -/
def modelList (catalog : Catalog) : Text :=
  List.flatMap (fun m => m.name ++ " (" ++ Text.decimal m.fields.length ++ " fields)\n") catalog

/-- The event that tells which file is loaded. -/
def loadingEvent (path : Text) : Event :=
  ⟨.info, .commandLine, "📁 Loading configuration from: " ++ path⟩

/-- The events that follow a fault. -/
def faultEvents (fault : Fault) : List Event := [
  ⟨.error, .commandLine, "❌ Type generation failed: " ++ fault.message ++ " (Category: " ++
    fault.category.name ++ ", Severity: " ++ fault.severity.name ++ ")"⟩,
  ⟨.error, .commandLine, "💡 Recovery suggestion: " ++ fault.suggestion⟩]

/-- The configuration that the options ask for. -/
def load (options : Options) (env : Environment) (disk : Disk) : Except Fault Config :=
  match options.config with
  | none => .ok .default
  | some path => Config.ofFile env disk path

/-- The events of loading the configuration. -/
def loadEvents (options : Options) : List Event :=
  match options.config with
  | none => []
  | some path => [loadingEvent path]

/-- Generates as the options say. -/
def generate (options : Options) (env : Environment) (disk : Disk) : Execution :=
  match load options env disk with
  | .error fault => ⟨.error fault, .unbounded, disk, loadEvents options⟩
  | .ok config =>
    let config := match options.output with
      | none => config
      | some path => config.withOutput path
    let done := execute Indoor.catalog config options.dryRun .unbounded disk
    { done with events := loadEvents options ++ done.events }

/-- The exit code of a run that stops before it begins. -/
def stoppedCode : UInt8 := 101

/-- Runs options that were understood. -/
def runOptions (options : Options) (env : Environment) (disk : Disk) : Result :=
  match LogFilter.directives? (env LogFilter.variableName) options.verbose with
  | none => ⟨stoppedCode, [], none, [], disk⟩
  | some directives =>
    if options.listModels then ⟨0, Utf8.encode (modelList Indoor.catalog), none, [], disk⟩
    else
      let done := generate options env disk
      let visible := List.filter (LogFilter.shows directives)
      match done.outcome with
      | .ok _ => ⟨0, done.sink.accepted, none, visible done.events, done.disk⟩
      | .error fault =>
        { exitCode := fault.severity.exitCode
          output := done.sink.accepted
          complaint := some ("❌ " ++ fault.friendly)
          events := visible (done.events ++ faultEvents fault)
          disk := done.disk }

/-- Runs a command line, without the name of the program; arguments that are
not understood leave everything as it is. -/
def run (args : List Text) (env : Environment) (disk : Disk) : Result :=
  match Options.ofArgs args with
  | .ok options => runOptions options env disk
  | .error .displayHelp => ⟨0, [], none, [], disk⟩
  | .error _ => ⟨2, [], none, [], disk⟩

end Typescribe.CommandLine
