import ResumeTerminal.Proofs.Calendar
import ResumeTerminal.Proofs.Text.Digits
import ResumeTerminal.Timestamp

/-! Reading the text of an instant back. It has six parts between spaces, and they tell the
second and the offset: of what the clock reports only the nanoseconds are lost. -/
namespace ResumeTerminal.Timestamp

/-! A reader of dates and times. -/

/-- What the text of an instant says; the offset is in seconds east of UTC. -/
structure Reading where
  weekday : String
  date : Calendar.Date
  hour : Nat
  minute : Nat
  second : Nat
  offset : Int
  deriving DecidableEq, Repr

def time? (text : List Char) : Option (Nat × Nat × Nat) :=
  match text.splitOn ':' with
  | [hour, minute, second] => do
    return (← Text.natural? hour, ← Text.natural? minute, ← Text.natural? second)
  | _ => none

/-- Seconds since 1 January 1970 UTC. -/
def Reading.seconds (reading : Reading) : Int :=
  86400 * reading.date.epochDay +
    (3600 * reading.hour + 60 * reading.minute + reading.second : Nat) - reading.offset

/-! Numbers. -/

/-- The day on the local clock, counted from 1 January 1970. -/
def localDay (moment : Timestamp) : Int := moment.localSeconds / 86400

/-- What stands between the spaces of the text. -/
def parts (moment : Timestamp) : List (List Char) :=
  let date := Calendar.Date.ofEpochDay moment.localDay
  [(Calendar.weekdayName moment.localDay).toList, (Calendar.monthName date.month).toList,
    (digits 2 date.day).toList, (yearText date.year).toList, moment.timeText.toList,
    'G' :: 'M' :: 'T' :: (offsetText moment.offset).toList]

/-- What the text says of an instant at an offset of whole minutes. -/
def reading (moment : Timestamp) : Reading :=
  let second := (moment.localSeconds % 86400).toNat
  { weekday := Calendar.weekdayName moment.localDay
    date := Calendar.Date.ofEpochDay moment.localDay
    hour := second / 3600
    minute := second / 60 % 60
    second := second % 60
    offset := moment.offset }

/-- An instant told by its date and time of day, by the calendar that goes day by day. -/
structure Reading.Tells (reading : Reading) (moment : Timestamp) : Prop where
  offset_eq : reading.offset = moment.offset
  seconds_eq : reading.seconds = moment.seconds
  /-- The date and the day of the week are those of the local day. -/
  isDay : ∃ weekday,
    Calendar.IsDay ((moment.seconds + moment.offset) / 86400) reading.date weekday ∧
      Calendar.weekdayNames[weekday]? = some reading.weekday
  /-- The time is the part of the local day that is over. -/
  timeOfDay : (3600 * reading.hour + 60 * reading.minute + reading.second : Nat) =
    (moment.seconds + moment.offset) % 86400
  minute_lt : reading.minute < 60
  second_lt : reading.second < 60

end ResumeTerminal.Timestamp
