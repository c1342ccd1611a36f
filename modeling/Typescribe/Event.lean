/-
Events: what a run tells about itself while it works, and which part of the
program tells it.
-/
import Typescribe.Text.Basic

namespace Typescribe

/-- How much an event matters. -/
inductive Level where
  | error
  | warn
  | info
  | debug
deriving DecidableEq, Repr

namespace Level

def name : Level → Text
  | error => "ERROR"
  | warn => "WARN"
  | info => "INFO"
  | debug => "DEBUG"

/-- Place in the order of detail, the weightiest first. -/
def rank : Level → Nat
  | error => 1
  | warn => 2
  | info => 3
  | debug => 4

end Level

/-- The parts of the program that tell something. -/
inductive Origin where
  | commandLine
  | execution
  | generation
  | extraction
deriving DecidableEq, Repr

/-- The name of a part, under the name of the program. -/
def Origin.path : Origin → Text
  | commandLine => "map_typegen"
  | execution => "map_typegen::core::runner"
  | generation => "map_typegen::core::generator"
  | extraction => "map_typegen::core::extract"

/-- One thing told. -/
structure Event where
  level : Level
  origin : Origin
  message : Text
deriving DecidableEq, Repr

end Typescribe
