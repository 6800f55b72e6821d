import StorageBroker.Calendar
import StorageBroker.Malformed
import StorageBroker.Number.Decimal
import StorageBroker.Yaml.Cursor
/-!
# Timestamps

A timestamp spells a date, or a date and a time, which may hold a fraction of a second and the lead
of its clock. A scalar that spells one without saying so has a date of ten characters or a time; a
scalar that says so may have a shorter date.

* `isTimestamp_date` -- ten characters without a time are enough;
* `value` -- the date or the moment, which the calendar has to have.
-/

namespace StorageBroker.Yaml

/-- The time in a timestamp. -/
structure ClockTime where
  hour : Nat
  minute : Nat
  second : Nat
  /-- The digits behind the point. -/
  fraction : List Char
  /-- The seconds by which the clock is ahead. -/
  ahead : Option Int
deriving Repr

/-- A timestamp as it is spelled. -/
structure Timestamp where
  date : Date
  time : Option ClockTime
deriving Repr

namespace Timestamp

/-! ## 1. Reading -/

/-- A number of at most two digits and the text behind it. -/
def readShort? : List Char → Option (Nat × List Char)
  | a :: b :: cs =>
    if Number.Decimal.isDigit a then
      if Number.Decimal.isDigit b then some (Number.Decimal.ofChars [a, b], cs)
      else some (Number.Decimal.ofChars [a], b :: cs)
    else none
  | [a] => if Number.Decimal.isDigit a then some (Number.Decimal.ofChars [a], []) else none
  | [] => none

/-- A number of exactly so many digits and the text behind it. -/
def readExact? (width : Nat) (cs : List Char) : Option (Nat × List Char) :=
  let digits := cs.take width
  if digits.length = width ∧ digits.all Number.Decimal.isDigit then
    some (Number.Decimal.ofChars digits, cs.drop width)
  else none

/-- The text behind a character. -/
def after? (c : Char) : List Char → Option (List Char)
  | x :: cs => if x = c then some cs else none
  | [] => none

def isBlank (c : Char) : Bool := c == ' ' || c == '\t'

/-- The hours and minutes by which a clock is ahead, without the sign. -/
def readLead? (cs : List Char) : Option Nat := do
  let (hours, cs) ← readShort? cs
  if cs.isEmpty then return hours * 3600
  let (minutes, cs) ← readExact? 2 (← after? ':' cs)
  if cs.isEmpty then return hours * 3600 + minutes * 60 else none

/-- What stands behind the seconds: nothing, or the lead of the clock. -/
def readAhead? (cs : List Char) : Option (Option Int) :=
  if cs.isEmpty then some none
  else match cs.dropWhile isBlank with
    | ['Z'] => some (some 0)
    | '+' :: cs => (readLead? cs).map fun n => some (n : Int)
    | '-' :: cs => (readLead? cs).map fun n => some (-(n : Int))
    | _ => none

/-- The text of a time, behind what stands between it and the date. -/
def timeText? : List Char → Option (List Char)
  | 'T' :: cs | 't' :: cs => some cs
  | c :: cs => if isBlank c then some (cs.dropWhile isBlank) else none
  | [] => none

def readTime? (cs : List Char) : Option ClockTime := do
  let (hour, cs) ← readShort? cs
  let (minute, cs) ← readExact? 2 (← after? ':' cs)
  let (second, cs) ← readExact? 2 (← after? ':' cs)
  let (fraction, cs) := match cs with
    | '.' :: cs => cs.span Number.Decimal.isDigit
    | cs => ([], cs)
  return ⟨hour, minute, second, fraction, ← readAhead? cs⟩

/-- **The timestamp that a text spells.** -/
def read? (cs : List Char) : Option Timestamp := do
  let (year, cs) ← readExact? 4 cs
  let (month, cs) ← readShort? (← after? '-' cs)
  let (day, cs) ← readShort? (← after? '-' cs)
  if cs.isEmpty then return ⟨⟨year, month, day⟩, none⟩
  return ⟨⟨year, month, day⟩, some (← readTime? (← timeText? cs))⟩

/-- **Whether a text spells a timestamp without saying so.** -/
def isTimestamp (cs : List Char) : Bool :=
  (read? cs).any fun t => t.time.isSome || cs.length == 10

theorem isTimestamp_date {cs : List Char} {t : Timestamp} (h : read? cs = some t)
    (hl : cs.length = 10) : isTimestamp cs := by
  simp [isTimestamp, h, hl]

/-! ## 2. Values -/

/-- The digits behind a point in millionths; further digits are left out. -/
def microseconds (digits : List Char) : Nat :=
  let first := digits.take 6
  Number.Decimal.ofChars first * Nat.pow 10 (6 - first.length)

def outOfRange : Problem := .content (.content "the calendar has no such moment")

/-- **The date or the moment of a timestamp.** -/
def value (t : Timestamp) : Except Problem Value :=
  match t.time with
  | none => if t.date.isValid then .ok (.date t.date) else .error outOfRange
  | some c =>
    let m : Moment :=
      ⟨t.date, c.hour, c.minute, c.second, microseconds c.fraction, c.ahead⟩
    if m.isValid then .ok (.moment m) else .error outOfRange

end Timestamp

end StorageBroker.Yaml
