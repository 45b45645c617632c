/-
# Dates and times

A moment is a date, a time of day, or a date with a time of day, in that case possibly
with its distance from universal time.  Its canonical text has `T` between date and
time and no zeros at the end of the fraction of a second.
-/

import QueryTemplate.Toml.Number

namespace QueryTemplate
namespace Toml
namespace Moment

open Reader

/-! ## Fields -/

/-- Exactly `n` digits. -/
def digits : Nat → Reader (List Char)
  | 0 => pure []
  | n + 1 => do
    let x ← one Char.isDigit
    return x :: (← digits n)

/-- Exactly `n` digits; if there are fewer, the fault stands in front of them. -/
def exactly (n : Nat) : Reader Nat := fun c =>
  match digits n c with
  | .error _ => fail c
  | .ok (xs, c') => .ok (Decimal.ofDigits xs, c')

/-- Two digits of a number between bounds. -/
def field (low high : Nat) : Reader Nat :=
  checked (exactly 2) fun n => if low ≤ n ∧ n ≤ high then .ok n else .error .outOfRange

/-- A number in at least `width` digits. -/
def padded (width n : Nat) : String :=
  let xs := (toString n).toList
  String.ofList (List.replicate (width - xs.length) '0' ++ xs)

/-! ## Dates -/

/-- The number of days of a month. -/
def daysIn (year month : Nat) : Nat :=
  let leap := year % 4 == 0 && (year % 100 != 0 || year % 400 == 0)
  match month with
  | 2 => if leap then 29 else 28
  | 4 | 6 | 9 | 11 => 30
  | _ => 31

/-- A date. -/
def date : Reader String := do
  let year ← exactly 4
  char '-'
  let month ← commit (field 1 12)
  commit (char '-')
  let day ← commit <| checked (field 1 31) fun n =>
    if n ≤ daysIn year month then .ok n else .error .outOfRange
  return padded 4 year ++ "-" ++ padded 2 month ++ "-" ++ padded 2 day

/-! ## Times -/

/-- A point and digits, of which nine count. -/
def secondFraction : Reader (List Char) := do
  char '.'
  let x ← one Char.isDigit
  let xs := (x :: (← takeWhile Char.isDigit)).take 9
  return (xs.reverse.dropWhile (· == '0')).reverse

/-- A time of day. -/
def time : Reader String := do
  let hour ← field 0 23
  char ':'
  commit do
    let minute ← field 0 59
    char ':'
    let second ← field 0 60
    let fraction := (← secondFraction.option).getD []
    return padded 2 hour ++ ":" ++ padded 2 minute ++ ":" ++ padded 2 second ++
      (if fraction.isEmpty then "" else "." ++ String.ofList fraction)

/-- The distance from universal time. -/
def distance : Reader String :=
  labelled "time offset" <| either
    (do
      let _ ← one fun x => x == 'Z' || x == 'z'
      return "Z")
    (do
      let s ← one fun x => x == '+' || x == '-'
      commit do
        let hour ← field 0 23
        char ':'
        let minute ← field 0 59
        let sign := if hour = 0 ∧ minute = 0 then '+' else s
        return sign.toString ++ padded 2 hour ++ ":" ++ padded 2 minute)

/-- A time behind a date. -/
def timeAfterDate : Reader String := do
  let _ ← one fun x => x == 'T' || x == 't' || x == ' '
  let t ← time
  return "T" ++ t ++ (← distance.option).getD ""

/-- A moment. -/
def moment : Reader String :=
  either
    (labelled "date-time" do
      let d ← date
      return d ++ (← timeAfterDate.option).getD "")
    (labelled "time" time)

end Moment
end Toml
end QueryTemplate
