/-
What can go wrong, and how it is told.

A fault is a cause.  Its category is a function of the cause and its severity
a function of the category; the wording of a fault, of the advice that comes
with it and of the line shown to the user is here and nowhere else.
-/
import Typescribe.Text.Basic

namespace Typescribe

/-- Why nothing, or not everything, was generated. -/
inductive Fault where
  /-- A field's signature has no counterpart. -/
  | unsupportedType (signature : Text)
  /-- A name stands twice in the allow-list. -/
  | duplicateModel (name : Text)
  /-- A name of the allow-list is not in the catalog. -/
  | unknownModel (name : Text)
  /-- There is nothing to generate. -/
  | emptyAllowList
  /-- A stream or a file refused; the system may say more. -/
  | io (detail : Option Text)
  /-- The plan could not be written down; the writer may say more. -/
  | serialization (detail : Option Text)
  /-- The configuration is not well-formed. -/
  | malformedConfig (field message : Text)
  /-- A value of the configuration is of no use. -/
  | invalidValue (field value reason : Text)
deriving DecidableEq, Repr

/-- Whose business a fault is. -/
inductive Category where
  | schema
  | configuration
  | system
deriving DecidableEq, Repr

/-- How bad a fault is. -/
inductive Severity where
  | medium
  | high
  | critical
deriving DecidableEq, Repr

namespace Category

def name : Category → Text
  | schema => "Schema"
  | configuration => "Configuration"
  | system => "System"

/-- Faults of the configuration are the mildest, faults of the system the
gravest. -/
def severity : Category → Severity
  | configuration => .medium
  | schema => .high
  | system => .critical

end Category

namespace Severity

def name : Severity → Text
  | medium => "Medium"
  | high => "High"
  | critical => "Critical"

/-- Place in the order of gravity. -/
def rank : Severity → Nat
  | medium => 0
  | high => 1
  | critical => 2

/-- The graver of two. -/
def worse (a b : Severity) : Severity := if a.rank ≤ b.rank then b else a

/-- The gravest of some severities, if there is one. -/
def worst? : List Severity → Option Severity
  | [] => none
  | s :: more => some (more.foldl worse s)

/-- The exit code a process ends with after a fault. -/
def exitCode : Severity → UInt8
  | medium => 2
  | high => 1
  | critical => 3

end Severity

namespace Fault

def category : Fault → Category
  | unsupportedType _ | duplicateModel _ => .schema
  | unknownModel _ | emptyAllowList | malformedConfig .. | invalidValue .. => .configuration
  | io _ | serialization _ => .system

def severity (f : Fault) : Severity := f.category.severity

/-- A detail, set off by a colon where there is one. -/
def detailText : Option Text → Text
  | none => []
  | some detail => ": " ++ detail

/-- What happened. -/
def message : Fault → Text
  | unsupportedType signature => "No translation for type: " ++ signature
  | duplicateModel name => "Model '" ++ name ++ "' appears more than once in the allow-list"
  | unknownModel name => "Model '" ++ name ++ "' is not defined in the model catalog"
  | emptyAllowList => "Allow-list is empty, nothing to generate"
  | io detail => "IO error" ++ detailText detail
  | serialization detail => "Serialization error" ++ detailText detail
  | malformedConfig field message =>
    "Configuration validation failed for '" ++ field ++ "': " ++ message
  | invalidValue field value reason =>
    "Invalid value '" ++ value ++ "' for '" ++ field ++ "': " ++ reason

/-- What to do about it. -/
def suggestion : Fault → Text
  | unsupportedType signature =>
    "Add a mapping for '" ++ signature ++
      "' to the translator, change the field type, or mark the field with json:\"-\""
  | duplicateModel name => "Remove the repeated '" ++ name ++ "' entry from the allow-list"
  | unknownModel name =>
    "Check the spelling of '" ++ name ++ "' or run with --list-models to see the catalog"
  | emptyAllowList => "List at least one model under [models] allow_list"
  | io _ => "Check that the output path is writable and the config file exists"
  | serialization _ => "Re-run with --verbose for details"
  | malformedConfig .. => "Make sure the configuration file is valid TOML"
  | invalidValue field .. => "Fix the value of '" ++ field ++ "' in the configuration"

/-- The line for the user: the message, except that a type without a
counterpart is said in terms of the whole run. -/
def friendly : Fault → Text
  | unsupportedType signature =>
    "Type generation aborted: no TypeScript type for '" ++ signature ++ "'"
  | other => other.message

end Fault

end Typescribe
