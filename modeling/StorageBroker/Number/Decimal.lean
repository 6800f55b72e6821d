/-!
# Decimal numbers

Reads digits and turns a decimal `± digits · 10 ^ exponent` into the double nearest to it.
-/

namespace StorageBroker.Number.Decimal

/-- The value of an ASCII digit. -/
def digit? (c : Char) : Option Nat :=
  if '0' ≤ c ∧ c ≤ '9' then some (c.toNat - '0'.toNat) else none

def isDigit (c : Char) : Bool := (digit? c).isSome

/-- The number that a list of digit values spells, the most significant first. -/
def ofDigits (ds : List Nat) : Nat := ds.foldl (fun n d => 10 * n + d) 0

/-- The number that the digits of a text spell; other characters are passed over. -/
def ofChars (cs : List Char) : Nat := ofDigits (cs.filterMap digit?)

/-- The double nearest to `± digits · 10 ^ exponent`. Numbers beyond the range of doubles, told
by the place of their first digit, are an infinity or a zero at once. -/
def toFloat (negative : Bool) (digits : Nat) (exponent : Int) : Float :=
  let place : Int := (Nat.toDigits 10 digits).length + exponent
  let x :=
    if digits = 0 then 0.0
    else if 400 < place then Float.ofScientific 1 false 400
    else if place < -400 then 0.0
    else if exponent < 0 then Float.ofScientific digits true (-exponent).toNat
    else Float.ofScientific digits false exponent.toNat
  if negative then -x else x

end StorageBroker.Number.Decimal
