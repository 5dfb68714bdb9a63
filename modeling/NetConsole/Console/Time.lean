/-!
# Points in time and spans of time

Seconds since the beginning of 1970 as a date and a time of day in the Gregorian calendar, and
spans of seconds as days, hours and minutes.
-/

set_option autoImplicit false

namespace NetConsole.Console

/-! ## The calendar -/

/-- A date; months and days count from one. -/
structure Date where
  year : Int
  month : Nat
  day : Nat
  deriving DecidableEq, Repr, Inhabited

namespace Date

/-- The number of days in four hundred years. -/
def eraDays : Int := 146097

/-- The number of days from the first of March of the year 0 to the beginning of 1970. -/
def epochShift : Int := 719468

/-- The year within four hundred, counted from March, to which a day within them belongs. -/
def yearOfEra (day : Nat) : Nat := (day - day / 1460 + day / 36524 - day / 146096) / 365

/-- The number of days before a year within four hundred. -/
def daysBeforeYear (year : Nat) : Nat := 365 * year + year / 4 - year / 100

/-- The month, counted from March, to which a day of a year belongs. -/
def monthOfYear (day : Nat) : Nat := (5 * day + 2) / 153

/-- The number of days before a month, counted from March, of a year. -/
def daysBeforeMonth (month : Nat) : Nat := (153 * month + 2) / 5

/-- The date of a day, counted from the beginning of 1970. -/
def ofDays (days : Int) : Date :=
  let shifted := days + epochShift
  let era := shifted / eraDays
  let dayOfEra := (shifted % eraDays).toNat
  let yearOfEra := yearOfEra dayOfEra
  let dayOfYear := dayOfEra - daysBeforeYear yearOfEra
  let march := monthOfYear dayOfYear
  let month := if march < 10 then march + 3 else march - 9
  { year := era * 400 + yearOfEra + (if month ≤ 2 then 1 else 0)
    month
    day := dayOfYear - daysBeforeMonth march + 1 }

end Date

/-! ## Points in time -/

def daySeconds : Int := 86400

/-- The first second that has a text: the beginning of the year -262143. -/
def firstSecond : Int := -8334601228800

/-- The last second that has a text: the end of the year 262142. -/
def lastSecond : Int := 8210266876799

/-- The first millisecond of the first second. -/
def firstMillisecond : Int := -8334601228800000

/-- The last millisecond of the last second. -/
def lastMillisecond : Int := 8210266876799999

/-- A point in time: a second since the beginning of 1970, and the milliseconds of it that have
passed. -/
structure Moment where
  second : Int
  part : Nat
  deriving DecidableEq, Repr, Inhabited

def Moment.ofSeconds? (time : Int) : Option Moment :=
  if firstSecond ≤ time ∧ time ≤ lastSecond then some ⟨time, 0⟩ else none

/-- The point in time of a count of milliseconds. Before 1970 as after it, what has passed of a
second counts from the beginning of the second. -/
def Moment.ofMilliseconds? (time : Int) : Option Moment :=
  if firstMillisecond ≤ time ∧ time ≤ lastMillisecond then
    some ⟨time / 1000, (time % 1000).toNat⟩
  else none

/-- The decimal digits of a number, with zeros before them up to a count. -/
def digits (count n : Nat) : String :=
  let text := toString n
  String.ofList (List.replicate (count - text.length) '0') ++ text

def yearText (year : Int) : String :=
  if 0 ≤ year ∧ year ≤ 9999 then digits 4 year.toNat
  else (if year < 0 then "-" else "+") ++ digits 4 year.natAbs

/-- A second as a date and a time of day. -/
def secondText (second : Int) : String :=
  let date := Date.ofDays (second / daySeconds)
  let inDay := (second % daySeconds).toNat
  yearText date.year ++ "-" ++ digits 2 date.month ++ "-" ++ digits 2 date.day ++ " " ++
    digits 2 (inDay / 3600) ++ ":" ++ digits 2 (inDay / 60 % 60) ++ ":" ++ digits 2 (inDay % 60)

/-- What stands for a value that is missing or has no text. -/
def dash : String := "-"

/-- The text of a point in time, if there is one; parts of a second are left out. -/
def momentText (moment : Option Moment) : String :=
  (moment.map (secondText ·.second)).getD dash

/-- Seconds since 1970 as a date and a time of day. -/
def seconds (time : Option Int) : String := momentText (time.bind Moment.ofSeconds?)

/-- Milliseconds since 1970 as a date and a time of day. -/
def milliseconds (time : Option Int) : String := momentText (time.bind Moment.ofMilliseconds?)

/-! ## Spans of time -/

/-- A span of seconds as days, hours and minutes; days are left out if there are none, and hours
if there are no days either. -/
def span : Option Int → String
  | none => dash
  | some length =>
      if length < 0 then dash
      else
        let total := length.toNat
        let days := total / 86400
        let hours := total % 86400 / 3600
        let minutes := total % 86400 % 3600 / 60
        if 0 < days then toString days ++ "d " ++ toString hours ++ "h " ++ toString minutes ++ "m"
        else if 0 < hours then toString hours ++ "h " ++ toString minutes ++ "m"
        else toString minutes ++ "m"

end NetConsole.Console
