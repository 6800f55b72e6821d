/-!
# Numbers

Integers are unbounded and fractional numbers are doubles. This file fixes how the two meet:
a finite double is exactly `± mantissa · 2 ^ exponent` (`Dyadic`), so cutting it to an integer,
comparing it with an integer and recognising a whole number are all done on integers, without
rounding.

* `Dyadic.ofFloat?_eq_none_iff` -- only NaN and the infinities have no such reading, told by the
  exponent field;
* `Number.lt` -- the order across both kinds is the exact one.
-/

namespace StorageBroker

/-! ## 1. Finite doubles -/

/-- A finite double read as `± mantissa · 2 ^ exponent`. -/
structure Dyadic where
  negative : Bool
  mantissa : Nat
  exponent : Int
deriving DecidableEq, Repr

namespace Dyadic

/-- The exponent field of a double. -/
def exponentField (x : Float) : Nat := x.toBits.toNat / Nat.pow 2 52 % Nat.pow 2 11

/-- The reading of a double; NaN and the infinities, whose exponent field is full, have none. -/
def ofFloat? (x : Float) : Option Dyadic :=
  let negative := x.toBits.toNat / Nat.pow 2 63 == 1
  let fraction := x.toBits.toNat % Nat.pow 2 52
  let biased := exponentField x
  if biased = 2047 then none
  else if biased = 0 then some ⟨negative, fraction, -1074⟩
  else some ⟨negative, Nat.pow 2 52 + fraction, (biased : Int) - 1075⟩

theorem ofFloat?_eq_none_iff {x : Float} : ofFloat? x = none ↔ exponentField x = 2047 := by
  unfold ofFloat?
  by_cases h : exponentField x = 2047 <;> by_cases h0 : exponentField x = 0 <;> simp [h, h0]

/-- The magnitude without its fraction. -/
def wholePart (d : Dyadic) : Nat :=
  if d.exponent < 0 then d.mantissa / Nat.pow 2 (-d.exponent).toNat
  else d.mantissa * Nat.pow 2 d.exponent.toNat

/-- The integer nearest to the number on the side of zero. -/
def truncate (d : Dyadic) : Int :=
  if d.negative then -(d.wholePart : Int) else d.wholePart

/-- Nothing is lost by `truncate`. -/
def isWhole (d : Dyadic) : Bool :=
  decide (0 ≤ d.exponent) || d.mantissa % Nat.pow 2 (-d.exponent).toNat == 0

/-- The number as a fraction `numerator / denominator`. -/
def numerator (d : Dyadic) : Int :=
  let n : Nat := d.mantissa * Nat.pow 2 d.exponent.toNat
  if d.negative then -(n : Int) else n

def denominator (d : Dyadic) : Nat := Nat.pow 2 (-d.exponent).toNat

theorem denominator_pos (d : Dyadic) : 0 < d.denominator := Nat.two_pow_pos _

end Dyadic

/-! ## 2. Integers and doubles together -/

/-- A number as settings give it: an integer or a double. -/
inductive Number where
  | int (i : Int)
  | float (x : Float)
deriving DecidableEq

namespace Number

/-- The exact value as a fraction, none for NaN and the infinities. -/
def fraction? : Number → Option (Int × Nat)
  | .int i => some (i, 1)
  | .float x => (Dyadic.ofFloat? x).map fun d => (d.numerator, d.denominator)

/-- **The exact order.** NaN is below nothing and above nothing. -/
def lt (a b : Number) : Bool :=
  match a.fraction?, b.fraction? with
  | some (n, d), some (m, e) => decide (n * e < m * d)
  | some _, none => match b with
    | .float y => decide ((0 : Float) < y)
    | .int _ => false
  | none, some _ => match a with
    | .float x => decide (x < (0 : Float))
    | .int _ => false
  | none, none => match a, b with
    | .float x, .float y => decide (x < y)
    | _, _ => false

/-- The smaller of two numbers, the first when neither is below the other. -/
def min (a b : Number) : Number := if lt b a then b else a

/-- The double nearest to the number; none when an integer is beyond every double. -/
def toFloat? : Number → Option Float
  | .int i => let x := Float.ofInt i; if x.isInf then none else some x
  | .float x => some x

/-- How many steps of a count from zero stay below the number: zero for a negative one, and for
NaN or positive infinity, which no count reaches, more than any double can tell. -/
def countBelow : Number → Nat
  | .int i => i.toNat
  | .float x => match Dyadic.ofFloat? x with
    | some d =>
        if d.negative then 0
        else if d.isWhole then d.wholePart else d.wholePart + 1
    | none => if x < 0 then 0 else Nat.pow 2 1024

theorem countBelow_int (i : Int) : countBelow (.int i) = i.toNat := rfl

end Number

end StorageBroker
