import StorageBroker.Number.Decimal
import StorageBroker.Text.Blank
import StorageBroker.Text.Digit
/-!
# Texts of integers

A text of an integer holds an optional sign and digits, with single underscores between digits
allowed and blanks around it skipped. The digits are those of a base, decimal digits of any script
and then letters; in front of the digits of base 2, 8 and 16 the mark of the base may stand.

* `digitRun_append_underscore` -- an underscore at the end spells nothing;
* `read` -- the decimal form, `readIn` the form in a base.
-/

namespace StorageBroker.IntegerText

/-! ## 1. Digits -/

/-- The most digits that a text of a base other than a power of two may hold. -/
def digitLimit : Nat := 4300

/-- Digits with single underscores between them: their values, or none if the text is anything
else. The flag tells whether a digit stands right before. -/
def digitRun (digit? : Char → Option Nat) : (afterDigit : Bool) → List Char → Option (List Nat)
  | true, [] => some []
  | false, [] => none
  | afterDigit, c :: cs => match digit? c with
    | some d => (digitRun digit? true cs).map (d :: ·)
    | none => if afterDigit && c == '_' then digitRun digit? false cs else none

theorem digitRun_append_underscore {digit? : Char → Option Nat} (h : digit? '_' = none)
    (before : Bool) (cs : List Char) : digitRun digit? before (cs ++ ['_']) = none := by
  induction cs generalizing before with
  | nil => cases before <;> simp [digitRun, h]
  | cons c cs ih => cases hd : digit? c <;> simp [digitRun, ih, hd]

/-- A run of digits of at most `digitLimit` digits. -/
def readDigits (digit? : Char → Option Nat) (cs : List Char) : Option Nat :=
  match digitRun digit? false cs with
  | some ds => if ds.length ≤ digitLimit then some (Number.Decimal.ofDigits ds) else none
  | none => none

/-- An optional sign and a magnitude. -/
def signed (magnitude : List Char → Option Nat) : List Char → Option Int
  | '+' :: cs => (magnitude cs).map Int.ofNat
  | '-' :: cs => (magnitude cs).map fun n => -(n : Int)
  | cs => (magnitude cs).map Int.ofNat

/-! ## 2. Decimal texts -/

/-- The blanks that may stand around a number: of the ASCII characters only those that move on in
a line or between lines. -/
def isAround (c : Char) : Bool := Text.isAsciiBlank c || (128 ≤ c.toNat && Text.isBlank c)

theorem isBlank_of_isAround {c : Char} (h : isAround c) : Text.isBlank c := by
  simp only [isAround, Bool.or_eq_true, Bool.and_eq_true] at h
  exact h.elim Text.isBlank_of_isAsciiBlank And.right

/-- **The integer that a row of scalars holds.** -/
def read (cs : List Char) : Option Int :=
  signed (readDigits Text.decimalDigit?) (Text.stripWhile isAround cs)

/-- The integer that a text holds; a half is no part of a number. -/
def ofText? (t : Text) : Option Int := t.string?.bind fun s => read s.toList

/-- The integer that bytes hold, read as ASCII characters. -/
def readAscii (cs : List Char) : Option Int :=
  signed (readDigits Number.Decimal.digit?) (Text.stripWhile Text.isAsciiBlank cs)

/-! ## 3. Texts in a base -/

/-- The value of a digit: a decimal digit of any script or a letter, which counts from ten. -/
def digitValue? (c : Char) : Option Nat :=
  match Text.decimalDigit? c with
  | some d => some d
  | none =>
    if 'a' ≤ c ∧ c ≤ 'z' then some (c.toNat - 'a'.toNat + 10)
    else if 'A' ≤ c ∧ c ≤ 'Z' then some (c.toNat - 'A'.toNat + 10)
    else none

/-- A digit of a base. -/
def digitIn? (base : Nat) (c : Char) : Option Nat := (digitValue? c).filter (· < base)

/-- The letters that mark a base after a zero. -/
def marks : Nat → List Char
  | 2 => ['b', 'B']
  | 8 => ['o', 'O']
  | 16 => ['x', 'X']
  | _ => []

/-- The rest of a text after the mark of its base, which one underscore may follow. -/
def afterMark (base : Nat) : List Char → List Char
  | zero :: m :: rest =>
    if Text.decimalDigit? zero = some 0 ∧ m ∈ marks base then
      match rest with
      | '_' :: rest => rest
      | rest => rest
    else zero :: m :: rest
  | cs => cs

/-- The number that the digits of a base spell. -/
def readMarked (base : Nat) (cs : List Char) : Option Nat :=
  (digitRun (digitIn? base) false (afterMark base cs)).map
    (List.foldl (fun n d => base * n + d) 0)

/-- The integer that a text in a base of a power of two holds. -/
def readIn (base : Nat) (cs : List Char) : Option Int :=
  signed (readMarked base) (Text.stripWhile isAround cs)

end StorageBroker.IntegerText
