/-!
# Days and dates

A day is counted from 1 January 1970, a date is year, month and day of the Gregorian calendar carried
backwards as well as forwards.  `Date.toDays` adds the days of the years and months before;
`Date.ofDays` guesses the year from the mean length of a year, corrects the guess by at most one
either way, and then walks the months.
-/

namespace MixRounds

/-- Year, month from 1, day from 1. -/
structure Date where
  year : Int
  month : Nat
  day : Nat
  deriving DecidableEq, Repr

namespace Date

/-- Every fourth year, but of the hundreds only every fourth. -/
def isLeap (year : Int) : Bool := year % 4 == 0 && (year % 100 != 0 || year % 400 == 0)

/-- Days from 1 January of year 0 to 1 January of `year`. -/
def daysBeforeYear (year : Int) : Int :=
  365 * year + (year + 3) / 4 - (year + 99) / 100 + (year + 399) / 400

/-- Days from 1 January of year 0 to 1 January 1970. -/
def epochDays : Int := 719528

/-- The lengths of the months. -/
def monthLengths (leap : Bool) : List Nat :=
  [31, if leap then 29 else 28, 31, 30, 31, 30, 31, 31, 30, 31, 30, 31]

/-- The number of days of a month, zero for one that does not exist. -/
def daysInMonth (leap : Bool) (month : Nat) : Nat :=
  if month = 0 then 0 else ((monthLengths leap)[month - 1]?).getD 0

/-- Days of the year before the month begins. -/
def daysBeforeMonth (leap : Bool) (month : Nat) : Nat :=
  ((monthLengths leap).take (month - 1)).foldl (fun days length => days + length) 0

/-- Whether the calendar has the date. -/
def isValid (d : Date) : Bool :=
  1 ≤ d.month && d.month ≤ 12 && 1 ≤ d.day && d.day ≤ daysInMonth (isLeap d.year) d.month

/-- Days since 1 January 1970. -/
def toDays (d : Date) : Int :=
  daysBeforeYear d.year + daysBeforeMonth (isLeap d.year) d.month + (d.day - 1) - epochDays

/-- Month and day of the day of the year, both from one. -/
def monthDay : List Nat → Nat → Nat → Nat × Nat
  | [], month, rest => (month, rest + 1)
  | len :: more, month, rest => if rest < len then (month, rest + 1) else monthDay more (month + 1) (rest - len)

/-- The year that day `n` after 1 January of year 0 belongs to. -/
def yearOf (n : Int) : Int :=
  let guess := 400 * n / 146097
  if n < daysBeforeYear guess then guess - 1
  else if daysBeforeYear (guess + 1) ≤ n then guess + 1
  else guess

/-- The date of a day. -/
def ofDays (days : Int) : Date :=
  let n := days + epochDays
  let year := yearOf n
  let (month, day) := monthDay (monthLengths (isLeap year)) 1 (n - daysBeforeYear year).toNat
  ⟨year, month, day⟩

/-! ## The year is the right one -/

theorem daysBeforeYear_yearOf_le (n : Int) : daysBeforeYear (yearOf n) ≤ n := by
  unfold yearOf
  simp only
  split
  · unfold daysBeforeYear
    omega
  · split <;> omega

theorem lt_daysBeforeYear_yearOf_succ (n : Int) : n < daysBeforeYear (yearOf n + 1) := by
  unfold yearOf
  simp only
  split
  · rename_i h
    rwa [Int.sub_add_cancel]
  · split
    · unfold daysBeforeYear
      omega
    · omega

theorem daysBeforeYear_succ (y : Int) :
    daysBeforeYear (y + 1) = daysBeforeYear y + (if isLeap y then 366 else 365) := by
  unfold daysBeforeYear isLeap
  by_cases h4 : y % 4 = 0 <;> by_cases h100 : y % 100 = 0 <;> by_cases h400 : y % 400 = 0 <;>
    simp [h4, h100, h400] <;> omega

end Date

end MixRounds
