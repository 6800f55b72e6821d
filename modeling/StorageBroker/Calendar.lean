/-!
# Dates and moments

Settings in a document can hold a date or a moment of a day, which may tell how far its clock is
ahead of the common time. Two moments are the same if they name the same point of the common time.

* `daysOf_le` -- no month has more than 31 days;
* `Moment.same_self` -- every moment is the same as itself.
-/

namespace StorageBroker

/-! ## 1. Dates -/

structure Date where
  year : Nat
  month : Nat
  day : Nat
deriving DecidableEq, Repr, Inhabited

namespace Date

def isLeap (year : Nat) : Bool := year % 4 == 0 && (year % 100 != 0 || year % 400 == 0)

/-- The days of a month. -/
def daysOf (year month : Nat) : Nat :=
  match month with
  | 1 | 3 | 5 | 7 | 8 | 10 | 12 => 31
  | 4 | 6 | 9 | 11 => 30
  | 2 => if isLeap year then 29 else 28
  | _ => 0

theorem daysOf_le (year month : Nat) : daysOf year month ≤ 31 := by
  unfold daysOf
  split <;> (try split) <;> omega

/-- Whether a calendar of four digits has the date. -/
def isValid (d : Date) : Bool :=
  1 ≤ d.year && d.year ≤ 9999 && 1 ≤ d.day && d.day ≤ daysOf d.year d.month

/-- The days before a month of a year. -/
def daysBefore (year month : Nat) : Nat :=
  (List.range (month - 1)).foldl (fun days m => days + daysOf year (m + 1)) 0

/-- The number of the day, counted from the first one of the calendar. -/
def ordinal (d : Date) : Nat :=
  let y := d.year - 1
  y * 365 + y / 4 - y / 100 + y / 400 + daysBefore d.year d.month + d.day

end Date

/-! ## 2. Moments -/

/-- A moment of a day; `ahead` is by how many seconds its clock is ahead of the common time. -/
structure Moment where
  date : Date
  hour : Nat
  minute : Nat
  second : Nat
  microsecond : Nat
  ahead : Option Int
deriving DecidableEq, Repr, Inhabited

namespace Moment

/-- Whether a day has the moment, and its clock is less than a day off. -/
def isValid (m : Moment) : Bool :=
  m.date.isValid && m.hour < 24 && m.minute < 60 && m.second < 60 && m.microsecond < 1000000
    && m.ahead.all fun a => decide (a.natAbs < 86400)

/-- The microseconds of its own clock since the first day. -/
def clock (m : Moment) : Nat :=
  (((m.date.ordinal * 24 + m.hour) * 60 + m.minute) * 60 + m.second) * 1000000 + m.microsecond

/-- **Whether two moments are the same**: both name a point of the common time, or neither does. -/
def same (m n : Moment) : Bool :=
  match m.ahead, n.ahead with
  | some a, some b => (m.clock : Int) - a * 1000000 == (n.clock : Int) - b * 1000000
  | none, none => m.clock == n.clock
  | _, _ => false

theorem same_self (m : Moment) : m.same m := by
  cases h : m.ahead <;> simp [same, h]

end Moment

/-! ## 3. Texts -/

/-- A number with zeros in front of it up to a width. -/
def padded (width n : Nat) : String :=
  let digits := toString n
  String.ofList (List.replicate (width - digits.length) '0') ++ digits

namespace Date

def text (d : Date) : String := padded 4 d.year ++ "-" ++ padded 2 d.month ++ "-" ++ padded 2 d.day

def arguments (d : Date) : List String := [toString d.year, toString d.month, toString d.day]

/-- The form that quotes: the parts of the date by number. -/
def quoted (d : Date) : String := "datetime.date(" ++ ", ".intercalate d.arguments ++ ")"

end Date

namespace Moment

/-- A clock's lead in hours and minutes, with seconds where there are some. -/
def leadText (ahead : Int) : String :=
  let n := ahead.natAbs
  (if ahead < 0 then "-" else "+") ++ padded 2 (n / 3600) ++ ":" ++ padded 2 (n / 60 % 60)
    ++ (if n % 60 = 0 then "" else ":" ++ padded 2 (n % 60))

def text (m : Moment) : String :=
  m.date.text ++ " " ++ padded 2 m.hour ++ ":" ++ padded 2 m.minute ++ ":" ++ padded 2 m.second
    ++ (if m.microsecond = 0 then "" else "." ++ padded 6 m.microsecond)
    ++ (m.ahead.map leadText).getD ""

/-- A clock's lead as whole days and the seconds that are left. -/
def leadQuoted (ahead : Int) : String :=
  let days := ahead.fdiv 86400
  let seconds := ahead.fmod 86400
  if ahead = 0 then "datetime.timezone.utc"
  else "datetime.timezone(datetime.timedelta("
    ++ ", ".intercalate ((if days = 0 then [] else ["days=" ++ toString days])
      ++ (if seconds = 0 then [] else ["seconds=" ++ toString seconds]))
    ++ "))"

/-- The form that quotes: seconds and their fraction only where they are not zero. -/
def quoted (m : Moment) : String :=
  let time := [toString m.hour, toString m.minute]
    ++ (if m.second = 0 ∧ m.microsecond = 0 then [] else [toString m.second])
    ++ (if m.microsecond = 0 then [] else [toString m.microsecond])
  "datetime.datetime(" ++ ", ".intercalate (m.date.arguments ++ time
    ++ (m.ahead.map fun a => "tzinfo=" ++ leadQuoted a).toList) ++ ")"

end Moment

end StorageBroker
