/-
TOML values and tables.

A table remembers how it came about, since that decides who may add to it
later: a table in braces is closed, a table under a header has that one
header, and a table that is only passed through, by a header or by a dotted
key, may be added to in the way it was passed.  Arrays in brackets are
closed; arrays of tables grow by one table for every double-bracketed header.

Numbers are kept exactly as they are written; whether a number is one that
can be held is a question of its own (`inRange`), asked only of values that
matter.  The same question catches integers that are written like a number
but have digits of another base, or none.
-/
import Typescribe.Text.Basic

namespace Typescribe.Toml

/-- How a table came about. -/
inductive Form where
  /-- Written in braces. -/
  | inline
  /-- Passed through by the key of a header. -/
  | passed
  /-- Passed through by a dotted key. -/
  | dotted
  /-- Under a header of its own, or the whole document. -/
  | header
deriving DecidableEq, Repr

/-- A floating-point number as it is written. -/
inductive Real where
  | infinite
  | notANumber
  /-- `digits` times ten to the power of `exponent`, whatever its sign. -/
  | finite (digits : Nat) (exponent : Int)
deriving DecidableEq, Repr

/-- A TOML value. -/
inductive Value where
  | text (s : Text)
  /-- An integer, or `none` where the digits stand for no number. -/
  | integer (n : Option Int)
  | real (r : Real)
  | boolean (b : Bool)
  /-- A date, a time, or both, as it is written. -/
  | moment (written : Text)
  | array (items : List Value)
  /-- An array of tables, each of them under a header. -/
  | tables (items : List Value)
  | table (form : Form) (entries : List (Text × Value))
deriving Repr

/-- The entries of a table, in the order of their keys' first occurrence. -/
abbrev Entries := List (Text × Value)

/-! ## Range -/

/-- Finite magnitudes from here on round to infinity: the point halfway
between the largest number of 64 bits and the next power of two. -/
def Real.limit : Nat := Nat.pow 2 1024 - Nat.pow 2 970

/-- Whether the magnitude is finite as written but not as a number of 64
bits.  Decimal orders of magnitude settle all but the values near the
limit. -/
def Real.overflows : Real → Bool
  | finite digits exponent =>
    let order : Int := (Text.decimal digits).length + exponent
    if digits = 0 || order < 300 then false
    else if order > 320 then true
    else if 0 ≤ exponent then limit ≤ digits * Nat.pow 10 exponent.toNat
    else limit * Nat.pow 10 (-exponent).toNat ≤ digits
  | _ => false

/-- An integer that 128 bits hold, with a sign or without. -/
def integerInRange (n : Int) : Bool := -(Nat.pow 2 127 : Nat) ≤ n && n < (Nat.pow 2 128 : Nat)

mutual

/-- Whether every number in a value can be held. -/
def Value.inRange : Value → Bool
  | .integer n => n.any integerInRange
  | .real r => !r.overflows
  | .array items => itemsInRange items
  | .tables items => itemsInRange items
  | .table _ entries => entriesInRange entries
  | _ => true

/-- Whether every number in a row of values can be held. -/
def itemsInRange : List Value → Bool
  | [] => true
  | v :: more => v.inRange && itemsInRange more

/-- Whether every number in a table can be held. -/
def entriesInRange : List (Text × Value) → Bool
  | [] => true
  | (_, v) :: more => v.inRange && entriesInRange more

end

end Typescribe.Toml
