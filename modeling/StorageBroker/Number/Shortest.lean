import StorageBroker.Number
/-!
# The shortest text of a double

A double is written with the fewest decimal digits that read back as the same double; of two
such numbers the nearer one is taken, and of two equally near ones the one with an even last
digit. `shortestDigits` finds the digits on exact integers: of each grid of decimals with
1, 2, … 17 digits it tests the two neighbours of the value against the interval of reals that
round to it. `FloatFormat` holds the layout: which exponents are written without an `e`, and the
names of the values that are no numbers.
-/

namespace StorageBroker.Number.Shortest

/-! ## 1. Digits -/

/-- The reals that round to a double lie between `low` and `high`, in units in which the double
itself is `middle`; the ends belong to them when `closed`. All four are over `scale`. -/
structure Interval where
  low : Nat
  middle : Nat
  high : Nat
  scale : Nat
  closed : Bool

/-- The interval of a positive double. Below a power of two the doubles lie twice as dense. -/
def Interval.ofDyadic (d : Dyadic) : Interval :=
  let below := if d.mantissa = Nat.pow 2 52 ∧ d.exponent ≠ -1074 then 1 else 2
  let e := d.exponent - 2
  let up := Nat.pow 2 e.toNat
  { low := (4 * d.mantissa - below) * up
    middle := 4 * d.mantissa * up
    high := (4 * d.mantissa + 2) * up
    scale := Nat.pow 2 (-e).toNat
    closed := d.mantissa % 2 == 0 }

/-- The count of decimal digits of a positive number. -/
def digitCount (n : Nat) : Nat := (Nat.toDigits 10 n).length

/-- The place `k` of the decimal point: `10 ^ (k - 1) ≤ value < 10 ^ k`. -/
def Interval.place (i : Interval) : Int :=
  if i.scale ≤ i.middle then digitCount (i.middle / i.scale)
  else 1 - (digitCount (i.scale / i.middle) : Int)

/-- Whether `n · 10 ^ g` lies in the interval. -/
def Interval.holds (i : Interval) (n : Nat) (g : Int) : Bool :=
  let v := n * Nat.pow 10 g.toNat * i.scale
  let down := Nat.pow 10 (-g).toNat
  if i.closed then i.low * down ≤ v && v ≤ i.high * down
  else i.low * down < v && v < i.high * down

/-- The neighbour of the value on the grid `10 ^ g` that reads back, if one does. -/
def Interval.onGrid? (i : Interval) (g : Int) : Option Nat :=
  let down := Nat.pow 10 (-g).toNat
  let step := Nat.pow 10 g.toNat * i.scale
  let n := i.middle * down / step
  match i.holds n g, i.holds (n + 1) g with
  | true, true =>
      let lower := i.middle * down - n * step
      let upper := (n + 1) * step - i.middle * down
      some (if lower < upper then n
        else if upper < lower then n + 1
        else if n % 2 = 0 then n else n + 1)
  | true, false => some n
  | false, true => some (n + 1)
  | false, false => none

/-- The first grid with a hit, from `count` digits on, for at most `tries` further grids. -/
def Interval.search (i : Interval) (k : Int) : Nat → Nat → Nat × Int
  | 0, count => (i.middle * Nat.pow 10 (count - k).toNat / i.scale, k - count)
  | tries + 1, count => match i.onGrid? (k - count) with
    | some n => (n, k - count)
    | none => i.search k tries (count + 1)

/-- The digits of a positive double without trailing zeros and the place of its decimal point:
the value is `0.d₁d₂… · 10 ^ place`. -/
def shortestDigits (d : Dyadic) : List Char × Int :=
  let i := Interval.ofDyadic d
  let (n, g) := i.search i.place 17 1
  let digits := Nat.toDigits 10 n
  let place := digits.length + g
  ((digits.reverse.dropWhile (· == '0')).reverse, place)

/-! ## 2. Layout -/

/-- How the digits are laid out. -/
structure FloatFormat where
  /-- The largest place written without exponent. -/
  lastPositional : Int
  /-- The place below which an exponent is written. -/
  firstPositional : Int
  notANumber : String
  infinity : String

/-- Plain text of a number: `1.0`, `0.0001`, `1e-05`, `1e+16`. -/
def plainFormat : FloatFormat := ⟨16, -3, "nan", "inf"⟩

/-- The text of a number in a data document. -/
def documentFormat : FloatFormat := ⟨16, -3, "NaN", "Infinity"⟩

/-- Digits with the point after the first `place` of them, at least one digit on each side. -/
def positional (digits : List Char) (place : Int) : List Char :=
  if place ≤ 0 then '0' :: '.' :: (List.replicate (-place).toNat '0' ++ digits)
  else
    let n := place.toNat
    if digits.length ≤ n then
      digits ++ List.replicate (n - digits.length) '0' ++ ['.', '0']
    else digits.take n ++ '.' :: digits.drop n

/-- One digit, the others behind the point, and an exponent of at least two digits. -/
def exponential (digits : List Char) (place : Int) : List Char :=
  let e := place - 1
  let sign := if e < 0 then '-' else '+'
  let width := Nat.toDigits 10 e.natAbs
  let padded := if width.length < 2 then '0' :: width else width
  let mantissa := match digits with
    | [] => ['0']
    | [c] => [c]
    | c :: rest => c :: '.' :: rest
  mantissa ++ 'e' :: sign :: padded

/-- The text of a double in a format. -/
def FloatFormat.write (f : FloatFormat) (x : Float) : String :=
  match Dyadic.ofFloat? x with
  | none => if x.isNaN then f.notANumber else if x < 0 then "-" ++ f.infinity else f.infinity
  | some d =>
    let sign := if d.negative then ['-'] else []
    let body :=
      if d.mantissa = 0 then ['0', '.', '0']
      else
        let (digits, place) := shortestDigits d
        if f.firstPositional ≤ place && place ≤ f.lastPositional then positional digits place
        else exponential digits place
    String.ofList (sign ++ body)

end StorageBroker.Number.Shortest
