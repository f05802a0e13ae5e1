import EndpointUpgrade.Text.Numeral

/-!
# Dates and time stamps

Days of the Gregorian calendar from the year 1 to 9999 and moments on them, with an optional
distance from universal time. A faulty field is reported by the rule that it breaks; the fields
are looked at from the year downwards.
-/

namespace EndpointUpgrade

open Text

/-- A field of a date or a time stamp that is out of range. -/
inductive CalendarFault where
  | year (year : Nat)
  | month
  | day
  | hour
  | minute
  | second
  | offset (minutes : Int)
  | overflow
deriving DecidableEq, Repr

structure Date where
  year : Nat
  month : Nat
  day : Nat
deriving DecidableEq, Repr, Inhabited

/-- A moment of a day, to the microsecond. The offset counts minutes east of universal time. -/
structure Timestamp where
  date : Date
  hour : Nat
  minute : Nat
  second : Nat
  microsecond : Nat
  offset : Option Int
deriving DecidableEq, Repr, Inhabited

/-- Leap years: every fourth one, centuries only if divisible by 400. -/
def isLeapYear (year : Nat) : Bool :=
  year % 4 = 0 && (year % 100 != 0 || year % 400 = 0)

def daysInMonth (year month : Nat) : Nat :=
  if month = 2 then (if isLeapYear year then 29 else 28)
  else if month = 4 ∨ month = 6 ∨ month = 9 ∨ month = 11 then 30
  else 31

def Date.ofFields (year month day : Nat) : Except CalendarFault Date :=
  if year < 1 ∨ 9999 < year then .error (.year year)
  else if month < 1 ∨ 12 < month then .error .month
  else if day < 1 ∨ daysInMonth year month < day then .error .day
  else .ok ⟨year, month, day⟩

/-- The day after a date; there is none after the last day of the year 9999. -/
def Date.next (d : Date) : Option Date :=
  if d.day < daysInMonth d.year d.month then some { d with day := d.day + 1 }
  else if d.month < 12 then some ⟨d.year, d.month + 1, 1⟩
  else if d.year < 9999 then some ⟨d.year + 1, 1, 1⟩
  else none

/-- The moment with the given fields, if there is one. The offset lies within a day. -/
def Timestamp.ofFields (date : Date) (hour minute second microsecond : Nat)
    (offset : Option Int) : Except CalendarFault Timestamp :=
  match offset with
  | some m =>
    if m ≤ -1440 ∨ 1440 ≤ m then .error (.offset m) else inner
  | none => inner
where
  /-- The check of the fields within the day. -/
  inner : Except CalendarFault Timestamp :=
    if 23 < hour then .error .hour
    else if 59 < minute then .error .minute
    else if 59 < second then .error .second
    else .ok ⟨date, hour, minute, second, microsecond, offset⟩

def Timestamp.nextSecond (t : Timestamp) : Except CalendarFault Timestamp :=
  if t.second < 59 then .ok { t with second := t.second + 1 }
  else if t.minute < 59 then .ok { t with second := 0, minute := t.minute + 1 }
  else if t.hour < 23 then .ok { t with second := 0, minute := 0, hour := t.hour + 1 }
  else
    match t.date.next with
    | some d => .ok { t with second := 0, minute := 0, hour := 0, date := d }
    | none => .error .overflow

def paddedDecimal (width n : Nat) : String :=
  String.ofList (padLeft width '0' (decimal n))

def Date.text (d : Date) : String :=
  paddedDecimal 4 d.year ++ "-" ++ paddedDecimal 2 d.month ++ "-" ++ paddedDecimal 2 d.day

/-- The text of an offset, hours and minutes behind a sign. -/
def offsetText (m : Int) : String :=
  (if m < 0 then "-" else "+") ++ paddedDecimal 2 (m.natAbs / 60) ++ ":" ++
    paddedDecimal 2 (m.natAbs % 60)

/-- The text of a moment: date and time of day separated by `between`, microseconds and offset
only where there are any. -/
def Timestamp.text (between : String) (t : Timestamp) : String :=
  t.date.text ++ between ++ paddedDecimal 2 t.hour ++ ":" ++ paddedDecimal 2 t.minute ++ ":" ++
    paddedDecimal 2 t.second ++
    (if t.microsecond = 0 then "" else "." ++ paddedDecimal 6 t.microsecond) ++
    (match t.offset with
      | some m => offsetText m
      | none => "")

def CalendarFault.message : CalendarFault → String
  | .year y => "year " ++ decimalText y ++ " is out of range"
  | .month => "month must be in 1..12"
  | .day => "day is out of range for month"
  | .hour => "hour must be in 0..23"
  | .minute => "minute must be in 0..59"
  | .second => "second must be in 0..59"
  | .offset m =>
    "offset must be a timedelta strictly between -timedelta(hours=24) and " ++
      "timedelta(hours=24), not " ++ deltaText m ++ "."
  | .overflow => "date value out of range"
where
  /-- A span of minutes as whole days and the seconds left over. -/
  deltaText (m : Int) : String :=
    let days := Int.fdiv m 1440
    let seconds := (m - days * 1440) * 60
    "datetime.timedelta(days=" ++ integerText days ++
      (if seconds = 0 then ")" else ", seconds=" ++ integerText seconds ++ ")")

end EndpointUpgrade
