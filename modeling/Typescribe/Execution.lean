/-
Execution: one pass as a configuration wants it.

The configuration is checked and its names are resolved before anything else.
A dry run then writes the plan as JSON and leaves it at that.  Without an
output path the declarations are streamed to the sink.  With one, they are
generated in full first and only then written to the file, so that a model
without a TypeScript type leaves no file behind; the sink is not touched.
-/
import Typescribe.Catalog.Basic
import Typescribe.Config.Basic
import Typescribe.Disk
import Typescribe.Generation
import Typescribe.Plan.Json

namespace Typescribe

/-- An execution: how it ended, with a report unless it was dry; the sink and
the disk afterwards; the events told. -/
structure Execution where
  outcome : Except Fault (Option Report)
  sink : Sink
  disk : Disk
  events : List Event

namespace Execution

/-- The event that tells the configuration. -/
def configEvent (c : Config) : Event := ⟨.debug, .execution, "Config: " ++ c.line⟩

/-- The event that announces a dry run. -/
def dryRunEvent : Event :=
  ⟨.info, .execution, "🔍 DRY RUN MODE - No declarations will be written"⟩

/-- The event for a file that was written. -/
def savedEvent (path : Text) : Event := ⟨.info, .execution, "📁 Output saved to: " ++ path⟩

/-- Writes the plan for models, then a newline; a sink that refuses the plan
and one that refuses the newline are told apart. -/
def writePlan (models : List Model) (sink : Sink) : Except Fault Unit × Sink :=
  match sink.write (Utf8.encode (Json.plan (models.map Model.plan))) with
  | (false, sink) => (.error (.serialization none), sink)
  | (true, sink) =>
    match sink.write (Utf8.encode "\n") with
    | (false, sink) => (.error (.io none), sink)
    | (true, sink) => (.ok (), sink)

/-- Writes a file at a path that was cut into directory and name. -/
def saveAt (path : Text) (content : List UInt8) (disk : Disk) : Except Fault Unit × Disk :=
  match Path.fileName? path with
  | none => (.error (.invalidValue Config.pathField path "Path has no file name"), disk)
  | some name =>
    match disk.save (Path.join (Path.parent path) name) content with
    | (false, disk) => (.error (.io none), disk)
    | (true, disk) => (.ok (), disk)

/-- Generates models to a file. -/
def toFile (models : List Model) (path : Text) (sink : Sink) (disk : Disk) : Execution :=
  let done := Generation.run models .unbounded
  match done.outcome with
  | .error fault => ⟨.error fault, sink, disk, done.events⟩
  | .ok report =>
    match saveAt path done.sink.accepted disk with
    | (.error fault, disk) => ⟨.error fault, sink, disk, done.events⟩
    | (.ok (), disk) => ⟨.ok (some report), sink, disk, done.events ++ [savedEvent path]⟩

/-- What becomes of the models once the configuration is settled. -/
def ofModels (models : List Model) (outputPath : Option Text) (dryRun : Bool)
    (sink : Sink) (disk : Disk) : Execution :=
  if dryRun then
    let (outcome, sink) := writePlan models sink
    ⟨outcome.map fun _ => none, sink, disk, dryRunEvent :: models.flatMap Model.skipEvents⟩
  else
    match outputPath with
    | some path => toFile models path sink disk
    | none =>
      let done := Generation.run models sink
      ⟨done.outcome.map some, done.sink, disk, done.events⟩

end Execution

/-- Runs one pass over a catalog as a configuration wants it. -/
def execute (catalog : Catalog) (config : Config) (dryRun : Bool) (sink : Sink) (disk : Disk) :
    Execution :=
  match config.check with
  | .error fault => ⟨.error fault, sink, disk, []⟩
  | .ok () =>
    match catalog.resolve config.allowList with
    | .error fault => ⟨.error fault, sink, disk, [Execution.configEvent config]⟩
    | .ok models =>
      let rest := Execution.ofModels models config.outputPath dryRun sink disk
      { rest with events := Execution.configEvent config :: rest.events }

/-- Generates the indoor-map models of the standard allow-list to a sink. -/
def generateDefault (sink : Sink) : Run :=
  match Indoor.catalog.resolve Indoor.allowList with
  | .error fault => ⟨.error fault, sink, 0, []⟩
  | .ok models => Generation.run models sink

end Typescribe
