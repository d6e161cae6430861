import ModelCheck.Text.Number

/-!
# Moments

A moment is a second of a day in the Gregorian calendar, in UTC. The second 60 of
a minute is kept: it is held as second 59 with a thousand million nanoseconds or
more. Moments are read from the clock text of tool output, which is in some zone,
and from RFC 3339, and printed in both forms.
-/

namespace ModelCheck

/-- A point in time: days since 1970-01-01, the second of that day, and nanoseconds, which reach
`10 ^ 9` during a leap second only. -/
structure Moment where
  day : Int
  second : Nat
  nano : Nat
deriving DecidableEq, Repr, Inhabited

/-- A zone whose clocks tell the time. What they show, given as the moment at which UTC shows it, stands
for one moment, or for none where the zone skips it or shows it twice. -/
structure Zone where
  moment? : Moment → Option Moment

namespace Zone

/-- UTC itself. -/
def utc : Zone := ⟨some⟩

end Zone

namespace Moment

/-- Nanoseconds in a second. -/
def nanosPerSecond : Nat := 1000000000

/-! ### The calendar -/

/-- Whether a year has 366 days. -/
def isLeapYear (year : Int) : Bool :=
  year % 4 = 0 && (year % 100 ≠ 0 || year % 400 = 0)

/-- The number of days in a month. -/
def daysInMonth (year : Int) (month : Nat) : Nat :=
  if month = 2 then (if isLeapYear year then 29 else 28)
  else if month = 4 || month = 6 || month = 9 || month = 11 then 30
  else 31

/-- Days from 1970-01-01 to a date. Years are counted from March, so that the leap day comes last
and the months before a date have `(153 m + 2) / 5` days. -/
def dayNumber (year : Int) (month day : Nat) : Int :=
  let y := if month ≤ 2 then year - 1 else year
  let m : Int := (month + 9) % 12
  365 * y + y / 4 - y / 100 + y / 400 + (153 * m + 2) / 5 + day - 1 - 719468

/-- The date of a day number: year, month and day. -/
def date (number : Int) : Int × Nat × Nat :=
  let z := number + 719468
  let era := z / 146097
  let doe := z % 146097
  let yoe := (doe - doe / 1460 + doe / 36524 - doe / 146096) / 365
  let doy := doe - (365 * yoe + yoe / 4 - yoe / 100)
  let m := (5 * doy + 2) / 153
  let day := doy - (153 * m + 2) / 5 + 1
  let month := if m < 10 then m + 3 else m - 9
  let year := yoe + era * 400 + (if month ≤ 2 then 1 else 0)
  (year, month.toNat, day.toNat)

/-! ### Reading -/

/-- The moment of a date and a time of day, if both exist. Second 60 stands in any minute. -/
def ofFields? (year month day hour minute second nano : Nat) : Option Moment :=
  if 1 ≤ month ∧ month ≤ 12 ∧ 1 ≤ day ∧ day ≤ daysInMonth year month
      ∧ hour < 24 ∧ minute < 60 ∧ second ≤ 60 then
    let base := 3600 * hour + 60 * minute
    if second = 60 then
      some ⟨dayNumber year month day, base + 59, nanosPerSecond + nano⟩
    else some ⟨dayNumber year month day, base + second, nano⟩
  else none

/-- Reads a number of exactly `width` ASCII digits from the front of a text. -/
def fixed? (width : Nat) (s : List Char) : Option (Nat × List Char) :=
  if s.length < width then none
  else (Text.readDigits (s.take width) 0).map (·, s.drop width)

/-- Drops a character that must stand at the front of a text. -/
def expect? (c : Char) : List Char → Option (List Char)
  | [] => none
  | d :: rest => if d = c then some rest else none

/-- Reads `YYYY-MM-DD`, a separator and `HH:MM:SS`. -/
def fields? (isSeparator : Char → Bool) (s : List Char) :
    Option ((Nat × Nat × Nat × Nat × Nat × Nat) × List Char) := do
  let (year, s) ← fixed? 4 s
  let s ← expect? '-' s
  let (month, s) ← fixed? 2 s
  let s ← expect? '-' s
  let (day, s) ← fixed? 2 s
  let s ← match s with
    | c :: rest => if isSeparator c then some rest else none
    | [] => none
  let (hour, s) ← fixed? 2 s
  let s ← expect? ':' s
  let (minute, s) ← fixed? 2 s
  let s ← expect? ':' s
  let (second, s) ← fixed? 2 s
  pure ((year, month, day, hour, minute, second), s)

/-- Reads the clock text of tool output, `YYYY-MM-DD HH:MM:SS`, as UTC would show it. -/
def ofClockText? (s : List Char) : Option Moment := do
  let ((year, month, day, hour, minute, second), rest) ← fields? (· = ' ') s
  if rest.isEmpty then ofFields? year month day hour minute second 0 else none

/-- Moves a local time to UTC by the offset of its zone in seconds. -/
def fromOffset (m : Moment) (offset : Int) : Moment :=
  let total := (m.second : Int) - offset
  ⟨m.day + total / 86400, (total % 86400).toNat, m.nano⟩

/-- The nanoseconds that a text of fraction digits stands for. Digits after the ninth do not
count. -/
def fraction (digits : List Char) : Nat :=
  ((Text.readDigits ((digits ++ List.replicate 9 '0').take 9) 0)).getD 0

/-- Reads a moment in RFC 3339, with any offset. -/
def ofRfc3339? (text : String) : Option Moment := do
  let ((year, month, day, hour, minute, second), s) ←
    fields? (fun c => c = 'T' || c = 't' || c = ' ') text.toList
  let (nano, s) ← match s with
    | '.' :: rest =>
      let digits := rest.takeWhile Text.isAsciiDigit
      if digits.isEmpty then none else some (fraction digits, rest.dropWhile Text.isAsciiDigit)
    | _ => some (0, s)
  let offset ← match s with
    | ['Z'] => some 0
    | ['z'] => some 0
    | sign :: rest => do
      let factor : Int ← if sign = '+' then some 1 else if sign = '-' then some (-1) else none
      let (hours, rest) ← fixed? 2 rest
      let rest ← expect? ':' rest
      let (minutes, rest) ← fixed? 2 rest
      if rest.isEmpty && hours < 24 && minutes < 60 then
        some (factor * (3600 * hours + 60 * minutes : Nat))
      else none
    | [] => none
  let localTime ← ofFields? year month day hour minute second nano
  pure (localTime.fromOffset offset)

/-! ### Printing -/

/-- A year in four digits, with a sign if it needs more or lies before year 0. -/
def yearText (year : Int) : String :=
  if year < 0 then "-" ++ Text.padded 4 year.natAbs
  else if year ≤ 9999 then Text.padded 4 year.toNat
  else "+" ++ Text.padded 4 year.toNat

/-- The date of a moment, `YYYY-MM-DD`. -/
def dateText (m : Moment) : String :=
  let (year, month, day) := date m.day
  yearText year ++ "-" ++ Text.padded 2 month ++ "-" ++ Text.padded 2 day

/-- The time of day of a moment, `HH:MM:SS`. A leap second is printed as second 60. -/
def timeText (m : Moment) : String :=
  let second := m.second % 60 + m.nano / nanosPerSecond
  Text.padded 2 (m.second / 3600) ++ ":" ++ Text.padded 2 (m.second / 60 % 60) ++ ":"
    ++ Text.padded 2 second

/-- The fraction of a second, in three, six or nine digits, whichever is enough. -/
def fractionText (m : Moment) : String :=
  let nano := m.nano % nanosPerSecond
  if nano = 0 then ""
  else if nano % 1000000 = 0 then "." ++ Text.padded 3 (nano / 1000000)
  else if nano % 1000 = 0 then "." ++ Text.padded 6 (nano / 1000)
  else "." ++ Text.padded 9 nano

/-- A moment in RFC 3339. -/
def rfc3339 (m : Moment) : String := m.dateText ++ "T" ++ m.timeText ++ m.fractionText ++ "Z"

/-- A moment as it is shown to the user, to the second. -/
def display (m : Moment) : String := m.dateText ++ " " ++ m.timeText ++ " UTC"

/-! ### Elapsed time -/

/-- The nanoseconds from one moment to another. A leap second that lies between the two times of
day counts once. -/
def nanosBetween (first last : Moment) : Int :=
  let leap : Int :=
    if first.second < last.second ∧ nanosPerSecond ≤ first.nano then 1
    else if last.second < first.second ∧ nanosPerSecond ≤ last.nano then -1
    else 0
  ((last.day - first.day) * 86400 + (last.second : Int) - first.second + leap)
    * nanosPerSecond + last.nano - first.nano

/-- The whole seconds from one moment to another, none if the second one is earlier. -/
def secondsBetween (first last : Moment) : Nat :=
  (nanosBetween first last).toNat / nanosPerSecond

end Moment

end ModelCheck
