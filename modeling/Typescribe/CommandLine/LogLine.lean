/-
Events as log lines.

A line is compact, the level and the message, or a JSON object.  In a compact
line the characters that could steer a terminal are written as codes: the bell,
backspace, form feed, escape and delete, and the controls above ASCII.
-/
import Typescribe.CommandLine.Options
import Typescribe.Event
import Typescribe.Plan.Json

namespace Typescribe.CommandLine.LogLine

/-- The characters below U+0080 that could steer a terminal, with their
codes. -/
def steering : List (Char × Text) := [
  ('\x07', "\\x07"), ('\x08', "\\x08"), ('\x0c', "\\x0c"), ('\x1b', "\\x1b"),
  ('\x7f', "\\x7f")]

/-- A character in a compact line. -/
def escape (c : Char) : Text :=
  match steering.lookup c with
  | some code => code
  | none =>
    if 0x80 ≤ c.toNat && c.toNat ≤ 0x9F then "\\u\x7b" ++ Nat.toDigits 16 c.toNat ++ "\x7d"
    else [c]

/-- An event as a compact line. -/
def compact (e : Event) : Text := e.level.name ++ ' ' :: e.message.flatMap escape

/-- An event as a JSON object on one line. -/
def json (e : Event) : Text :=
  "\x7b\"level\":" ++ Json.quoted e.level.name ++ ",\"fields\":\x7b\"message\":" ++
    Json.quoted e.message ++ "\x7d\x7d"

/-- An event as a line of a format. -/
def ofEvent (format : LogFormat) (e : Event) : Text :=
  match format with
  | .compact => compact e
  | .json => json e

end Typescribe.CommandLine.LogLine
