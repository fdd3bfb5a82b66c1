import ServiceHarness.Text.Numeral
import ServiceHarness.Scan

/-!
# Dates and times of TOML

`moment` takes a date, a time of day, or both with or without an offset, and tells it as it
is written in full: with a `T` before the time, with a `Z` for no offset, and without zeros at
the end of a fraction.  How far the numbers may go is told by `Bounds`.
-/

namespace ServiceHarness.Toml.Grammar

open Scan

/-- What some numbers of a moment may be at most. -/
structure Bounds where
  /-- The hour of a time of day. -/
  hour : Nat
  /-- The hours of an offset. -/
  offsetHours : Nat
  /-- The minutes of an offset beside its hours. -/
  offsetMinutes : Nat
  /-- The minutes of an offset altogether. -/
  offset : Nat

/-- The bounds of a moment that is a value of its own. -/
def Bounds.ofValue : Bounds := ⟨23, 23, 59, 1439⟩

/-- The bounds of a moment that a text holds. -/
def Bounds.ofText : Bounds := ⟨24, 99, 99, 1440⟩

/-- The number of just so many digits, from `low` to `high`. -/
def digits (count low high : Nat) : Scan Nat := do
  let n ← StateT.lift (Text.natural? 10 (← exactlyMany count Char.isDigit))
  guard (low ≤ n ∧ n ≤ high)
  return n

/-- A number with zeros before it up to a width. -/
def padded (width n : Nat) : String :=
  let cs := Nat.toDigits 10 n
  String.ofList (List.replicate (width - cs.length) '0' ++ cs)

/-- Whether a year has a day more. -/
def isLeap (year : Nat) : Bool :=
  year % 4 == 0 && (year % 100 != 0 || year % 400 == 0)

/-- The number of days of a month. -/
def daysOf (year month : Nat) : Nat :=
  if month = 2 then if isLeap year then 29 else 28
  else if month = 4 ∨ month = 6 ∨ month = 9 ∨ month = 11 then 30
  else 31

/-- A date. -/
def date : Scan String := do
  let year ← digits 4 0 9999
  char '-'
  let month ← digits 2 1 12
  char '-'
  let day ← digits 2 1 (daysOf year month)
  return padded 4 year ++ "-" ++ padded 2 month ++ "-" ++ padded 2 day

/-- The text of a fraction of a second.  Nine digits count. -/
def fractionText (ds : List Char) : String :=
  let ds := ((ds.take 9).reverse.dropWhile (· == '0')).reverse
  if ds.isEmpty then "" else String.ofList ('.' :: ds)

/-- A time of day. -/
def time (bounds : Bounds) : Scan String := do
  let hour ← digits 2 0 bounds.hour
  char ':'
  let minute ← digits 2 0 59
  char ':'
  let second ← digits 2 0 60
  let fraction ← opt do
    char '.'
    let ds ← span Char.isDigit
    guard !ds.isEmpty
    return ds
  return padded 2 hour ++ ":" ++ padded 2 minute ++ ":" ++ padded 2 second
    ++ fractionText (fraction.getD [])

/-- An offset.  That of no minutes is positive. -/
def offset (bounds : Bounds) : Scan String :=
  (do let _ ← one fun c => c == 'Z' || c == 'z'; return "Z") <|> do
    let sign ← one fun c => c == '+' || c == '-'
    let hours ← digits 2 0 bounds.offsetHours
    char ':'
    let minutes ← digits 2 0 bounds.offsetMinutes
    let minutes := 60 * hours + minutes
    guard (minutes ≤ bounds.offset)
    let sign := if minutes = 0 then '+' else sign
    return sign.toString ++ padded 2 (minutes / 60) ++ ":" ++ padded 2 (minutes % 60)

/-- A date with the time and the offset that may follow it. -/
def dateAndTime (bounds : Bounds) : Scan String := do
  let day ← date
  let rest ← opt do
    let _ ← one fun c => c == 'T' || c == 't' || c == ' '
    let t ← time bounds
    return "T" ++ t ++ (← opt (offset bounds)).getD ""
  return day ++ rest.getD ""

/-- A date, a time or both. -/
def moment (bounds : Bounds) : Scan String :=
  dateAndTime bounds <|> time bounds

/-- The moment that a text holds, as it is written in full. -/
def momentOf? (s : String) : Option String :=
  ((do let m ← moment .ofText; atEnd; return m : Scan String).run s.toList).map (·.1)

end ServiceHarness.Toml.Grammar
