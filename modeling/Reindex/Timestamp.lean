/-!
# Timestamps

An instant in universal time to the second, written as `2024-02-29T12:30:45Z`.
Months have their lengths and February the leap day of the calendar; a minute may
have a sixty-first second.
-/

namespace Reindex

/-- An instant in universal time. -/
structure Timestamp where
  year : Nat
  month : Nat
  day : Nat
  hour : Nat
  minute : Nat
  second : Nat
  deriving DecidableEq, Repr, Inhabited

namespace Timestamp

/-- Whether a year has a leap day. -/
def isLeap (year : Nat) : Bool := year % 4 = 0 && (year % 100 ≠ 0 || year % 400 = 0)

/-- The number of days of a month. -/
def daysIn (year month : Nat) : Nat :=
  if month = 2 then if isLeap year then 29 else 28
  else if month = 4 ∨ month = 6 ∨ month = 9 ∨ month = 11 then 30
  else 31

/-- Whether an instant is in the calendar and on the clock. -/
def isValid (t : Timestamp) : Bool :=
  1 ≤ t.month && t.month ≤ 12 && 1 ≤ t.day && t.day ≤ daysIn t.year t.month &&
    t.hour ≤ 23 && t.minute ≤ 59 && t.second ≤ 60

/-- The number that a run of decimal digits spells. -/
def number? (digits : List Char) : Option Nat :=
  if digits.all Char.isDigit then
    some (digits.foldl (fun n c => n * 10 + (c.toNat - '0'.toNat)) 0)
  else none

/-- The instant that a text spells. -/
def read? (text : String) : Option Timestamp :=
  match text.toList with
  | [y₁, y₂, y₃, y₄, '-', o₁, o₂, '-', d₁, d₂, 'T', h₁, h₂, ':', m₁, m₂, ':', s₁, s₂, 'Z'] => do
    let instant : Timestamp := {
      year := ← number? [y₁, y₂, y₃, y₄]
      month := ← number? [o₁, o₂]
      day := ← number? [d₁, d₂]
      hour := ← number? [h₁, h₂]
      minute := ← number? [m₁, m₂]
      second := ← number? [s₁, s₂] }
    if instant.isValid then pure instant else none
  | _ => none

/-- A number with leading zeros. -/
def padded (width n : Nat) : String :=
  let digits := toString n
  String.ofList (List.replicate (width - digits.length) '0') ++ digits

/-- The text of an instant. -/
def render (t : Timestamp) : String :=
  padded 4 t.year ++ "-" ++ padded 2 t.month ++ "-" ++ padded 2 t.day ++ "T" ++
    padded 2 t.hour ++ ":" ++ padded 2 t.minute ++ ":" ++ padded 2 t.second ++ "Z"

end Timestamp

end Reindex
