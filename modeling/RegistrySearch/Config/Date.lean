import RegistrySearch.Number.Digit

/-!
# Dates

The dates and points in time that a configuration file may hold, as calendar fields, with the checks that make them exist and their text in the extended ISO form.
-/

namespace RegistrySearch

structure Date where
  year : Nat
  month : Nat
  day : Nat
deriving DecidableEq, Repr

/-- A point in time, to the microsecond. The offset from universal time is in minutes, if it is known. -/
structure DateTime where
  date : Date
  hour : Nat
  minute : Nat
  second : Nat
  microsecond : Nat
  offset : Option Int
deriving DecidableEq, Repr

/-- Why calendar fields are no date, in the order in which they are checked. -/
inductive DateFault where
  | year (year : Nat)
  | month
  | day
  | hour
  | minute
  | second
  | offset (minutes : Int)
deriving DecidableEq, Repr

/-- The parts of a span of time as a message shows them: whole days, rounded down, and the seconds left. -/
def spanText (minutes : Int) : String :=
  let days := minutes / 1440
  let seconds := minutes % 1440 * 60
  let parts := (if days = 0 then [] else ["days=" ++ toString days]) ++
    (if seconds = 0 then [] else ["seconds=" ++ toString seconds])
  "datetime.timedelta(" ++ (if parts.isEmpty then "0" else ", ".intercalate parts) ++ ")"

namespace DateFault

def message : DateFault → String
  | year y => "year " ++ toString y ++ " is out of range"
  | month => "month must be in 1..12"
  | day => "day is out of range for month"
  | hour => "hour must be in 0..23"
  | minute => "minute must be in 0..59"
  | second => "second must be in 0..59"
  | offset minutes =>
    "offset must be a timedelta strictly between -timedelta(hours=24) and timedelta(hours=24), not " ++
      spanText minutes ++ "."

end DateFault

namespace Date

def isLeap (year : Nat) : Bool :=
  year % 4 = 0 && (year % 100 ≠ 0 || year % 400 = 0)

def daysInMonth (year month : Nat) : Nat :=
  if month = 2 then (if isLeap year then 29 else 28)
  else if month = 4 ∨ month = 6 ∨ month = 9 ∨ month = 11 then 30
  else 31

def check (date : Date) : Except DateFault Unit :=
  if date.year = 0 then .error (.year date.year)
  else if date.month = 0 ∨ 12 < date.month then .error .month
  else if date.day = 0 ∨ daysInMonth date.year date.month < date.day then .error .day
  else .ok ()

/-- The number of days from the first day of the first year to the first day of a year. -/
def daysBeforeYear (year : Nat) : Nat :=
  let past := year - 1
  365 * past + past / 4 - past / 100 + past / 400

/-- The number of days before a day, counted from the first day of the first year. -/
def daysBefore (date : Date) : Nat :=
  let inMonths := (List.range (date.month - 1)).foldl (fun days m => days + daysInMonth date.year (m + 1)) 0
  daysBeforeYear date.year + inMonths + (date.day - 1)

def field (width n : Nat) : String :=
  String.ofList (Digit.padded width n)

def text (date : Date) : String :=
  field 4 date.year ++ "-" ++ field 2 date.month ++ "-" ++ field 2 date.day

end Date

namespace DateTime

def check (t : DateTime) : Except DateFault Unit := do
  if let some minutes := t.offset then
    if 1440 ≤ minutes.natAbs then throw (.offset minutes)
  t.date.check
  if 23 < t.hour then throw .hour
  if 59 < t.minute then throw .minute
  if 59 < t.second then throw .second

/-- The microseconds of universal time from the start of the first year, if the offset is known. -/
def instant? (t : DateTime) : Option Int :=
  t.offset.map fun offset =>
    let minutes : Int := (t.date.daysBefore * 24 + t.hour : Nat) * 60 + t.minute - offset
    (minutes * 60 + t.second) * 1000000 + t.microsecond

def offsetText : Option Int → String
  | none => ""
  | some minutes =>
    (if minutes < 0 then "-" else "+") ++ Date.field 2 (minutes.natAbs / 60) ++ ":" ++
      Date.field 2 (minutes.natAbs % 60)

def text (t : DateTime) : String :=
  t.date.text ++ "T" ++ Date.field 2 t.hour ++ ":" ++ Date.field 2 t.minute ++ ":" ++ Date.field 2 t.second ++
    (if t.microsecond = 0 then "" else "." ++ Date.field 6 t.microsecond) ++ offsetText t.offset

end DateTime

end RegistrySearch
