import ResumeTerminal.Calendar

/-! Instants as the clock reports them, and their text, read at the clock's own
distance from UTC: `Tue Jan 02 2024 03:04:05 GMT+0000`. -/
namespace ResumeTerminal

/-- Seconds since 1 January 1970 UTC. Within a leap second the nanoseconds run past a
billion; the offset is in seconds east of UTC. -/
structure Timestamp where
  seconds : Int
  nanos : Nat
  offset : Int
  deriving DecidableEq, Repr

namespace Timestamp

def digits (width n : Nat) : String :=
  let text := toString n
  String.ofList (List.replicate (width - text.length) '0') ++ text

/-- Years of four digits need no sign. -/
def yearText (year : Int) : String :=
  if 0 ≤ year ∧ year ≤ 9999 then digits 4 year.toNat
  else (if year < 0 then "-" else "+") ++ digits 4 year.natAbs

/-- Hours and minutes, to the nearest minute. -/
def offsetText (offset : Int) : String :=
  let minutes := (offset.natAbs + 30) / 60
  (if offset < 0 then "-" else "+") ++ digits 2 (minutes / 60) ++ digits 2 (minutes % 60)

/-- Seconds on the local clock. -/
def localSeconds (moment : Timestamp) : Int := moment.seconds + moment.offset

def timeText (moment : Timestamp) : String :=
  let second := (moment.localSeconds % 86400).toNat
  digits 2 (second / 3600) ++ ":" ++ digits 2 (second / 60 % 60) ++ ":" ++
    digits 2 (second % 60 + moment.nanos / 1000000000)

def text (moment : Timestamp) : String :=
  let day := moment.localSeconds / 86400
  let date := Calendar.Date.ofEpochDay day
  Calendar.weekdayName day ++ " " ++ Calendar.monthName date.month ++ " " ++
    digits 2 date.day ++ " " ++ yearText date.year ++ " " ++ moment.timeText ++
    " GMT" ++ offsetText moment.offset

end Timestamp
end ResumeTerminal
