/-!
# Dates and times

Days of the calendar, times of a day, and moments, which join both and may know how far their clock
is from universal time.  Only what exists is represented: no thirtieth of February and no
twenty-fifth hour.
-/

namespace TokenForest

/-- Whether a year has a day more than the others. -/
def isLeapYear (year : Nat) : Bool :=
  year % 4 = 0 && (year % 100 ≠ 0 || year % 400 = 0)

/-- The number of days of a month. -/
def daysOfMonth (year month : Nat) : Nat :=
  if month = 2 then if isLeapYear year then 29 else 28
  else if month = 4 ∨ month = 6 ∨ month = 9 ∨ month = 11 then 30
  else 31

/-- The numbers in a list of arguments. -/
def argumentList (numbers : List Nat) : String := ", ".intercalate (numbers.map toString)

/-- Whether a year, a month and a day make a day of the calendar. -/
structure IsDate (year month day : Nat) : Prop where
  year_pos : 1 ≤ year
  year_le : year ≤ 9999
  month_pos : 1 ≤ month
  month_le : month ≤ 12
  day_pos : 1 ≤ day
  day_le : day ≤ daysOfMonth year month

/-- A day of the calendar. -/
structure Date where
  year : Nat
  month : Nat
  day : Nat
  isDate : IsDate year month day
  deriving DecidableEq, Repr

namespace Date

/-- The numbers that make a day are bounded from both sides. -/
theorem isDate_iff
    {year month day : Nat} :
    IsDate year month day ↔
      (1 ≤ year ∧ year ≤ 9999) ∧ (1 ≤ month ∧ month ≤ 12) ∧
        (1 ≤ day ∧ day ≤ daysOfMonth year month) := by
  constructor
  · rintro ⟨yearPos, yearLe, monthPos, monthLe, dayPos, dayLe⟩
    exact ⟨⟨yearPos, yearLe⟩, ⟨monthPos, monthLe⟩, dayPos, dayLe⟩
  · rintro ⟨⟨yearPos, yearLe⟩, ⟨monthPos, monthLe⟩, dayPos, dayLe⟩
    exact ⟨yearPos, yearLe, monthPos, monthLe, dayPos, dayLe⟩

instance {year month day : Nat} : Decidable (IsDate year month day) :=
  decidable_of_iff _ isDate_iff.symm

/-- The day that a year, a month and a day make, if there is one. -/
def ofNumbers? (year month day : Nat) : Option Date :=
  if isDate : IsDate year month day then some { year, month, day, isDate } else none

/-- The numbers of a day. -/
def numbers (date : Date) : List Nat := [date.year, date.month, date.day]

/-- The literal form of a day. -/
def text (date : Date) : String := "datetime.date(" ++ argumentList date.numbers ++ ")"

end Date

/-- A time of a day, by the millionth part of a second. -/
structure TimeOfDay where
  hour : Fin 24
  minute : Fin 60
  second : Fin 60
  microsecond : Fin 1000000
  deriving DecidableEq, Repr

namespace TimeOfDay

/-- The numbers of a time as it is shown: the seconds and their parts only where they are needed. -/
def numbers (time : TimeOfDay) : List Nat :=
  let exact := [time.hour.val, time.minute.val]
  if time.microsecond.val ≠ 0 then exact ++ [time.second.val, time.microsecond.val]
  else if time.second.val ≠ 0 then exact ++ [time.second.val]
  else exact

/-- The literal form of a time. -/
def text (time : TimeOfDay) : String := "datetime.time(" ++ argumentList time.numbers ++ ")"

end TimeOfDay

/-- How many minutes a clock is ahead of universal time: less than a day, either way. -/
structure ClockOffset where
  minutes : Int
  short : minutes.natAbs < 24 * 60
  deriving DecidableEq, Repr

namespace ClockOffset

/-- The offset by some hours and minutes, ahead or behind. -/
def ofTime (ahead : Bool) (hours : Fin 24) (minutes : Fin 60) : ClockOffset :=
  let size := hours.val * 60 + minutes.val
  { minutes := if ahead then size else -size
    short := by split <;> omega }

/-- The literal form of an offset, which counts in whole days and seconds of a day. -/
def text (offset : ClockOffset) : String :=
  if offset.minutes = 0 then "datetime.timezone.utc"
  else
    let seconds := offset.minutes * 60
    "datetime.timezone(datetime.timedelta(" ++
      (if seconds < 0 then "days=-1, seconds=" ++ toString (seconds + 24 * 60 * 60)
        else "seconds=" ++ toString seconds) ++ "))"

end ClockOffset

/-- A day with a time, and with what is known of the clock. -/
structure Moment where
  date : Date
  time : TimeOfDay
  offset : Option ClockOffset
  deriving DecidableEq, Repr

/-- The literal form of a moment. -/
def Moment.text (moment : Moment) : String :=
  "datetime.datetime(" ++ argumentList (moment.date.numbers ++ moment.time.numbers) ++
    (match moment.offset with
      | none => ""
      | some offset => ", tzinfo=" ++ offset.text) ++ ")"

end TokenForest
