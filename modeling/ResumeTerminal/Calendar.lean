/-! The proleptic Gregorian calendar. Years are counted from March, so that the leap
day is the last of its year, and every cycle of 400 such years has 146097 days. -/
namespace ResumeTerminal.Calendar

structure Date where
  year : Int
  month : Nat
  day : Nat
  deriving DecidableEq, Repr

/-- Days from 1 March of the year 0 to 1 January 1970. -/
def epochOffset : Int := 719468

/-- Year of the cycle and day of that year, for a day of a 400-year cycle. The last
century of a cycle and the last year of four are the ones with an extra day. -/
def splitCycle (day : Nat) : Nat × Nat :=
  let century := min (day / 36524) 3
  let inCentury := day - 36524 * century
  let four := inCentury / 1461
  let inFour := inCentury % 1461
  let year := min (inFour / 365) 3
  (100 * century + 4 * four + year, inFour - 365 * year)

/-- Month and day from the day of a year that begins in March: five months in a row
always have 153 days. -/
def monthAndDay (dayOfYear : Nat) : Nat × Nat :=
  let index := (5 * dayOfYear + 2) / 153
  (if index < 10 then index + 3 else index - 9, dayOfYear - (153 * index + 2) / 5 + 1)

/-- The date that lies a number of days after 1 January 1970. -/
def Date.ofEpochDay (days : Int) : Date :=
  let shifted := days + epochOffset
  let (yearOfCycle, dayOfYear) := splitCycle (shifted % 146097).toNat
  let (month, day) := monthAndDay dayOfYear
  let year := 400 * (shifted / 146097) + yearOfCycle
  ⟨if month ≤ 2 then year + 1 else year, month, day⟩

/-- Days are named from Sunday; 1 January 1970 was a Thursday. -/
def weekday (days : Int) : Nat := ((days + 4) % 7).toNat

def isLeapYear (year : Int) : Bool :=
  year % 4 == 0 && (year % 100 != 0 || year % 400 == 0)

def daysInMonth (year : Int) (month : Nat) : Nat :=
  if month = 2 then (if isLeapYear year then 29 else 28)
  else if month = 4 ∨ month = 6 ∨ month = 9 ∨ month = 11 then 30 else 31

def weekdayNames : List String := ["Sun", "Mon", "Tue", "Wed", "Thu", "Fri", "Sat"]

def monthNames : List String :=
  ["Jan", "Feb", "Mar", "Apr", "May", "Jun", "Jul", "Aug", "Sep", "Oct", "Nov", "Dec"]

def weekdayName (days : Int) : String := weekdayNames.getD (weekday days) ""

def monthName (month : Nat) : String := monthNames.getD (month - 1) ""

end ResumeTerminal.Calendar
