/-
The program: runs the command line on the real disk.

The run itself is a pure function.  Here its arguments are gathered, the
configuration file that they name among them, and what it leaves behind is
carried out: new directories and files, output, log lines and exit code.
-/
import Typescribe.CommandLine.LogLine
import Typescribe.CommandLine.Run

namespace Typescribe.Main

open CommandLine

/-- Text as the system has it. -/
def native (s : Text) : String := String.ofList s

/-- The variables that are set, of those that a run may ask for. -/
def environment (names : List Text) : IO Environment := do
  let bound ← names.filterMapM fun name => do
    return (← IO.getEnv (native name)).map fun value => (name, value.toList)
  return fun name => bound.lookup name

/-- The disk as far as a run has to see it: the working directory and the
configuration file. -/
def diskWith (config : Option Text) : IO Disk := do
  let here := (← IO.currentDir).toString.toList
  let empty := Disk.emptyAt (Path.components here).reverse
  match config with
  | none => return empty
  | some path =>
    try
      let bytes ← IO.FS.readBinFile (native path)
      return (empty.save path bytes.toList).2
    catch _ => return empty

/-- Writes a log line. -/
def tell (format : LogFormat) (e : Event) : IO Unit :=
  IO.eprintln (native (LogLine.ofEvent format e))

/-- What a run added to a disk, in the order in which it did. -/
def additions (before after : Disk) : List (Place × Entry) :=
  after.entries.reverse.filter fun e => !before.entries.contains e

/-- Carries out on the real disk what a run added to its own. -/
def carryOut (added : List (Place × Entry)) : IO Unit := do
  for (place, entry) in added do
    let path := native (Disk.pathOf place)
    match entry with
    | .directory => IO.FS.createDirAll path
    | .file bytes => IO.FS.writeBinFile path ⟨bytes.toArray⟩

/-- Runs the command line.  Where the real disk refuses what the run did, the
run is repeated on a disk that refuses it too. -/
def perform (args : List Text) (env : Environment) (disk : Disk) : IO Result := do
  let result := run args env disk
  let added := additions disk result.disk
  try
    carryOut added
    return result
  catch _ =>
    return run args env { disk with refuses := (added.map (·.1)).contains }

/-- Runs the program and returns its exit code. -/
def start (args : List String) : IO UInt32 := do
  let args := args.map String.toList
  let options := (Options.ofArgs args).toOption
  let config := options.bind fun o => o.config
  let disk ← diskWith config
  let source := ((config.bind disk.read?).bind Utf8.decode?).getD []
  let env ← environment (LogFilter.variableName :: Placeholder.names source)
  let result ← perform args env disk
  (← IO.getStdout).write ⟨result.output.toArray⟩
  let format := (options.map fun o => o.logFormat).getD .compact
  for e in result.events do
    tell format e
  if let some line := result.complaint then
    IO.eprintln (native line)
  return result.exitCode.toUInt32

end Typescribe.Main

/-- Runs the command line. -/
def main (args : List String) : IO UInt32 := Typescribe.Main.start args
