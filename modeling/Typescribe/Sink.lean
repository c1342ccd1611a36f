/-
Output streams that may refuse.

A sink takes bytes until its capacity, if it has one, is used up.  A write
that does not fit leaves what did fit behind and fails; so the accepted bytes
are always the start of all bytes offered, and a row of bytes that fits
exactly is no failure.
-/
import Typescribe.Text.Utf8

namespace Typescribe

/-- An output stream and what it has accepted. -/
structure Sink where
  /-- How many bytes it takes in all; `none` for no bound. -/
  capacity : Option Nat
  /-- Flushing fails. -/
  flushFails : Bool
  accepted : List UInt8
deriving DecidableEq, Repr

namespace Sink

/-- A sink that takes everything. -/
def unbounded : Sink := ⟨none, false, []⟩

/-- How many of some bytes still fit. -/
def room (s : Sink) (size : Nat) : Nat :=
  match s.capacity with
  | none => size
  | some capacity => min size (capacity - s.accepted.length)

/-- Offers bytes: whether all of them were taken, and the sink afterwards. -/
def write (s : Sink) (bytes : List UInt8) : Bool × Sink :=
  let fitting := s.room bytes.length
  (fitting = bytes.length, { s with accepted := s.accepted ++ bytes.take fitting })

/-- Whether everything accepted could be passed on. -/
def flush (s : Sink) : Bool := !s.flushFails

end Sink

end Typescribe
