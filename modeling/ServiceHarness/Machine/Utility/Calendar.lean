import ServiceHarness.Machine.Utility.Lines

/-!
# Dates

`date` puts out an instant in a format.  Instants are seconds since the beginning of the year 1970,
and all of them are told in universal time.
-/

namespace ServiceHarness.Utility

/-- An instant by the calendar. -/
structure Moment where
  /-- The seconds since the beginning of the year 1970. -/
  seconds : Int
  /-- The year. -/
  year : Int
  /-- The month. -/
  month : Nat
  /-- The day of the month. -/
  day : Nat

/-- The moment of an instant.  Years are counted from March, so that the day more of a leap year is
the last. -/
def Moment.ofSeconds (seconds : Int) : Moment :=
  let days := Int.fdiv seconds 86400 + 719468
  let era := Int.fdiv days 146097
  let dayOfEra := (days - era * 146097).toNat
  let yearOfEra :=
    (dayOfEra - dayOfEra / 1460 + dayOfEra / 36524 - dayOfEra / 146096) / 365
  let dayOfYear := dayOfEra - (365 * yearOfEra + yearOfEra / 4 - yearOfEra / 100)
  let index := (5 * dayOfYear + 2) / 153
  let month := if index < 10 then index + 3 else index - 9
  let year : Int := yearOfEra + era * 400
  ⟨seconds, if month ≤ 2 then year + 1 else year, month, dayOfYear - (153 * index + 2) / 5 + 1⟩

/-- The seconds since the day began. -/
def Moment.inDay (t : Moment) : Nat :=
  (Int.fmod t.seconds 86400).toNat

/-- The day of the week, zero for Sunday. -/
def Moment.weekday (t : Moment) : Nat :=
  (Int.fmod (Int.fdiv t.seconds 86400 + 4) 7).toNat

/-- The number of days of the months before one. -/
def daysBefore (year : Int) (month : Nat) : Nat :=
  let isLeap := year % 4 = 0 && (year % 100 ≠ 0 || year % 400 = 0)
  let lengths := [31, if isLeap then 29 else 28, 31, 30, 31, 30, 31, 31, 30, 31, 30, 31]
  (lengths.take (month - 1)).foldl (· + ·) 0

/-- The names of the days. -/
def dayNames : List String :=
  ["Sunday", "Monday", "Tuesday", "Wednesday", "Thursday", "Friday", "Saturday"]

/-- The names of the months. -/
def monthNames : List String :=
  ["January", "February", "March", "April", "May", "June", "July", "August", "September",
    "October", "November", "December"]

/-- What a letter of a format asks for. -/
def Moment.part (t : Moment) (letter : Char) : String :=
  let two (n : Nat) : String := padded 2 '0' n
  let (hour, minute, second) := (t.inDay / 3600, t.inDay / 60 % 60, t.inDay % 60)
  let twelve := if hour % 12 = 0 then 12 else hour % 12
  let dayName := dayNames.getD t.weekday ""
  let monthName := monthNames.getD (t.month - 1) ""
  let date := padded 4 '0' t.year ++ "-" ++ two t.month ++ "-" ++ two t.day
  let time := two hour ++ ":" ++ two minute ++ ":" ++ two second
  match letter with
  | 'Y' => padded 4 '0' t.year
  | 'y' => padded 2 '0' (t.year % 100)
  | 'C' => padded 2 '0' (t.year / 100)
  | 'm' => two t.month
  | 'd' => two t.day
  | 'e' => padded 2 ' ' t.day
  | 'H' => two hour
  | 'k' => padded 2 ' ' hour
  | 'I' => two twelve
  | 'l' => padded 2 ' ' twelve
  | 'M' => two minute
  | 'S' => two second
  | 'N' => "000000000"
  | 'p' => if hour < 12 then "AM" else "PM"
  | 'P' => if hour < 12 then "am" else "pm"
  | 'j' => padded 3 '0' (daysBefore t.year t.month + t.day : Nat)
  | 'q' => toString ((t.month + 2) / 3)
  | 'u' => toString (if t.weekday = 0 then 7 else t.weekday)
  | 'w' => toString t.weekday
  | 'a' => (dayName.take 3).toString
  | 'A' => dayName
  | 'b' | 'h' => (monthName.take 3).toString
  | 'B' => monthName
  | 's' => toString t.seconds
  | 'F' => date
  | 'T' | 'X' => time
  | 'R' => two hour ++ ":" ++ two minute
  | 'D' | 'x' => two t.month ++ "/" ++ two t.day ++ "/" ++ padded 2 '0' (t.year % 100)
  | 'r' => two twelve ++ ":" ++ two minute ++ ":" ++ two second ++ if hour < 12 then " AM" else " PM"
  | 'c' =>
    (dayName.take 3).toString ++ " " ++ (monthName.take 3).toString ++ " " ++ padded 2 ' ' t.day
      ++ " " ++ time ++ " " ++ padded 4 '0' t.year
  | 'z' => "+0000"
  | 'Z' => "UTC"
  | 'n' => "\n"
  | 't' => "\t"
  | '%' => "%"
  | c => "%" ++ String.ofList [c]

/-- A format with what it asks for. -/
def Moment.fill (t : Moment) : List Char → String
  | '%' :: '-' :: c :: rest =>
    let text := (t.part c).toList
    let cut := text.dropWhile fun c => c == '0' || c == ' '
    String.ofList (if cut.isEmpty then ['0'] else cut) ++ t.fill rest
  | '%' :: c :: rest => t.part c ++ t.fill rest
  | c :: rest => String.ofList [c] ++ t.fill rest
  | [] => ""

/-- The format in which an instant is told where nothing else is said. -/
def dateFormat : String :=
  "%a %b %e %H:%M:%S %Z %Y"

/-- The instant at which the time of a machine begins. -/
def clockStart : Nat :=
  1704067200

/-- The instant that a text means. -/
def instant? (now : Int) (text : String) : Option Int :=
  match text.toList with
  | '@' :: '-' :: ds => (Text.natural? 10 ds).map fun n => -(n : Int)
  | '@' :: ds => (Text.natural? 10 ds).map Int.ofNat
  | _ => if ["now", "today", ""].contains text then some now else none

/-- Puts out an instant. -/
def date : Utility := Task.utility fun args => do
  let o ← Task.options
    [.plain 'u' "utc", .long "universal", .valued 'd' "date", .valued 's' "set",
      .plain 'R' "rfc-email", ⟨some 'I', "iso-8601", .optional⟩, .valued 'r' "reference",
      .long "rfc-3339" .required, .long "debug"] args
  let now ← Task.look fun _ m => ((clockStart + m.now / 1000000 : Nat) : Int)
  let seconds ← match o.value? "date" with
    | none => pure now
    | some text =>
      match instant? now text with
      | some n => pure n
      | none => do
        let shown := Name.quoted text
        Task.fail s!"invalid date {shown}"
  let format ← match o.operands with
    | [] =>
      pure (if o.has "rfc-email" then "%a, %d %b %Y %H:%M:%S %z"
        else if o.has "iso-8601" then "%F" else dateFormat)
    | text :: _ =>
      if text.startsWith "+" then pure (text.drop 1).toString
      else do
        let shown := Name.quoted text
        Task.fail s!"invalid date {shown}"
  Task.say ((Moment.ofSeconds seconds).fill format.toList ++ "\n")

end ServiceHarness.Utility
