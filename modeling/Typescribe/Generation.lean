/-
Generation: writing the declarations of some models to a sink.

A run checks the names of its models first and then takes one model after
the other: it finds the TypeScript types of the properties, notes the
references that lead out of the run, and writes the declaration.  It stops at
the first property that has no such type, before anything of that model is
written, or at the first write that fails; what was written before stays
written.  At the end the sink is flushed, once.

A run has four results: how it ended, what the sink holds, how often it was
flushed, and the events told on the way.
-/
import Typescribe.AllowList
import Typescribe.Declaration
import Typescribe.Model.Extraction
import Typescribe.Signature.TypeScript
import Typescribe.Sink

namespace Typescribe

/-! ## One model -/

/-- What comes of a model: its declaration or the fault that stopped it, and
the events told. -/
structure Rendering where
  outcome : Except Fault Declaration
  events : List Event

namespace Model

/-- The event for a property whose TypeScript type was found. -/
def memberEvent (model : Text) (p : Property) (typeName : Text) : Event :=
  ⟨.debug, .generation, memberName model p.declared ++ ": " ++ p.signature.text ++ " -> " ++ typeName⟩

/-- The event for a property that has no TypeScript type. -/
def rejectionEvent (model : Text) (p : Property) (fault : Fault) : Event :=
  ⟨.error, .generation, "❌ " ++ memberName model p.declared ++ " (" ++ p.signature.text ++ "): " ++
    fault.message⟩

/-- The members for properties in order, up to the first property that has no
TypeScript type. -/
def members (model : Text) : List Property → Except Fault (List Member) × List Event
  | [] => (.ok [], [])
  | p :: more =>
    match p.signature.typeScript with
    | .error fault => (.error fault, [rejectionEvent model p fault])
    | .ok typeName =>
      let (rest, events) := members model more
      (rest.map (⟨p.emitted, typeName⟩ :: ·), memberEvent model p typeName :: events)

/-- The declaration of a model.  All fields left out are told of before the
first property is looked at. -/
def render (m : Model) : Rendering :=
  let (properties, skips) := m.extract
  let (result, events) := members m.name properties
  ⟨result.map (⟨m.name, ·⟩), skips ++ events⟩

/-- The event for a reference that leads out of the run. -/
def strangerEvent (model field target : Text) : Event :=
  ⟨.warn, .generation, "⚠️ " ++ memberName model field ++ " references '" ++ target ++
    "', which is not in the allow-list"⟩

end Model

/-! ## All models -/

/-- What a successful run counted. -/
structure Report where
  declarations : Nat
  skippedFields : Nat
  /-- References that lead out of the run, in the order of their first
  occurrence. -/
  foreignReferences : List Text
deriving DecidableEq, Repr

/-- The report before the first model. -/
def Report.empty : Report := ⟨0, 0, []⟩

/-- A field of a model is counted when it is left out.  Otherwise the name it
refers to is noted and told of, unless it is among the names `known` or was
noted before. -/
def Report.addField (known : List Text) (model : Text) (r : Report) (f : Field) :
    Report × List Event :=
  if f.isSkipped then ({ r with skippedFields := r.skippedFields + 1 }, [])
  else
    match f.signature.target? with
    | none => (r, [])
    | some target =>
      if known.contains target || r.foreignReferences.contains target then (r, [])
      else ({ r with foreignReferences := r.foreignReferences ++ [target] },
        [Model.strangerEvent model f.name target])

/-- The fields of a model one after the other. -/
def Report.addFields (known : List Text) (model : Text) : Report → List Field → Report × List Event
  | r, [] => (r, [])
  | r, f :: more =>
    let (r, told) := r.addField known model f
    let (r, events) := r.addFields known model more
    (r, told ++ events)

/-- A run: how it ended, the sink afterwards and how often it was flushed, the
events told. -/
structure Run where
  outcome : Except Fault Report
  sink : Sink
  /-- How often the sink was asked to pass on what it holds. -/
  flushes : Nat
  events : List Event

namespace Generation

/-- The event that opens a run. -/
def openingEvent (count : Nat) : Event :=
  ⟨.info, .generation, "Generating " ++ Text.decimal count ++ " declarations"⟩

/-- The event that closes a run. -/
def closingEvent (r : Report) : Event :=
  ⟨.info, .generation, "✅ Wrote " ++ Text.decimal r.declarations ++ " declarations (" ++
    Text.decimal r.skippedFields ++ " fields skipped)"⟩

/-- Writes the declarations of models; `known` are the names of all models of
the run and `report` tells what came before. -/
def writeAll (known : List Text) (report : Report) (sink : Sink) : List Model → Run
  | [] =>
    if sink.flush then ⟨.ok report, sink, 1, [closingEvent report]⟩
    else ⟨.error (.io none), sink, 1, []⟩
  | m :: more =>
    let rendering := m.render
    match rendering.outcome with
    | .error fault => ⟨.error fault, sink, 0, rendering.events⟩
    | .ok declaration =>
      let (report, warnings) := report.addFields known m.name m.fields
      let events := rendering.events ++ warnings
      let (complete, sink) := sink.write (Utf8.encode declaration.block)
      if complete then
        let report := { report with declarations := report.declarations + 1 }
        let rest := writeAll known report sink more
        { rest with events := events ++ rest.events }
      else ⟨.error (.io none), sink, 0, events⟩

/-- Whether models may be generated together: their names must pass as an
allow-list. -/
def check (models : List Model) : Except Fault Unit := AllowList.check (models.map (·.name))

/-- Writes the declarations of models to a sink, if they may be generated
together. -/
def run (models : List Model) (sink : Sink) : Run :=
  match check models with
  | .error fault => ⟨.error fault, sink, 0, []⟩
  | .ok () =>
    let rest := writeAll (models.map (·.name)) .empty sink models
    { rest with events := openingEvent models.length :: rest.events }

/-- What the run of models writes, if it succeeds on a sink that takes
everything. -/
def text? (models : List Model) : Except Fault Text :=
  let done := run models .unbounded
  done.outcome.map fun _ => Utf8.decodeLossy done.sink.accepted

end Generation

end Typescribe
