/-
Dates and times in TOML.

A date is `year-month-day` with four and two and two digits, a time
`hour:minute` with seconds and a fraction where they are wanted; both may
stand together, with `T` or a space between them, and then an offset may
follow.  Days are counted by the Gregorian calendar, and a minute may have a
leap second.
-/
import Typescribe.Text.Basic

namespace Typescribe.Toml.Moment

/-- The number of a row of digits of the given width that a text starts with,
and what follows; the row must end there. -/
def digits? (width : Nat) (s : Text) : Option (Nat × Text) :=
  let row := s.takeWhile Char.isDigit
  if row.length = width then some (Nat.ofDigitChars 10 row 0, s.drop width) else none

/-- What follows a character that a text must start with. -/
def after? (c : Char) (s : Text) : Option Text := if s.head? = some c then some s.tail else none

/-- A year with a 29th of February. -/
def isLeap (year : Nat) : Bool := year % 4 = 0 && (year % 100 ≠ 0 || year % 400 = 0)

/-- The number of days in a month. -/
def daysIn (year month : Nat) : Nat :=
  if month = 2 then (if isLeap year then 29 else 28)
  else if month = 4 || month = 6 || month = 9 || month = 11 then 30
  else 31

/-- What follows a date. -/
def afterDate? (s : Text) : Option Text := do
  let (year, s) ← digits? 4 s
  let s ← after? '-' s
  let (month, s) ← digits? 2 s
  let s ← after? '-' s
  let (day, s) ← digits? 2 s
  if 1 ≤ month ∧ month ≤ 12 ∧ 1 ≤ day ∧ day ≤ daysIn year month then some s else none

/-- What follows the fraction of a second, if there is one. -/
def afterFraction? (s : Text) : Option Text :=
  match after? '.' s with
  | none => some s
  | some s => if (s.takeWhile Char.isDigit).isEmpty then none else some (s.dropWhile Char.isDigit)

/-- What follows the seconds, if there are any. -/
def afterSeconds? (s : Text) : Option Text :=
  match after? ':' s with
  | none => some s
  | some s => do
    let (second, s) ← digits? 2 s
    if second ≤ 60 then afterFraction? s else none

/-- What follows an hour and a minute. -/
def afterClock? (s : Text) : Option Text := do
  let (hour, s) ← digits? 2 s
  let s ← after? ':' s
  let (minute, s) ← digits? 2 s
  if hour ≤ 23 ∧ minute ≤ 59 then some s else none

/-- What follows a time. -/
def afterTime? (s : Text) : Option Text := (afterClock? s).bind afterSeconds?

/-- Whether a text is an offset, or nothing. -/
def isOffset : Text → Bool
  | [] | ['Z'] | ['z'] => true
  | '+' :: rest | '-' :: rest => afterClock? rest = some []
  | _ => false

/-- Whether a text is a date, a time, or both. -/
def isMoment (s : Text) : Bool :=
  match afterDate? s with
  | none => afterTime? s = some []
  | some [] => true
  | some (c :: rest) =>
    if c = 'T' || c = 't' || c = ' ' then ((afterTime? rest).map isOffset).getD false else false

end Typescribe.Toml.Moment
