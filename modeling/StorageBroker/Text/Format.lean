import StorageBroker.Text.Template
import StorageBroker.Number.Decimal
/-!
# Formats

The text form of a template of a resource path: a percent sign starts a conversion, which takes the
next argument, and two of them stand for one. A conversion may have flags, a least width, a
greatest length behind a point and a mark of size in front of its letter. The letters of texts are
`s`, `r` and `a`, of which the last two put quotes around, and `c` for a single character; the
letters of numbers fit no argument, since every argument is a text. A format of bytes has the same
parts, and takes a text only in quotes.

* `parts_of_not_mem` -- a text without percent sign is one literal after the other;
* `fillParts_literals` -- and takes no argument.
-/

namespace StorageBroker.Text.Format

/-! ## 1. Parts -/

/-- What is said between the percent sign and the letter. -/
structure Layout where
  left : Bool := false
  width : Nat := 0
  most : Option Nat := none
deriving DecidableEq, Repr

inductive Part where
  | literal (c : Character)
  | conversion (l : Layout) (letter : Character)
  /-- A width or a length that is to be an argument of its own, and no argument is a number. -/
  | asked
  /-- What is no conversion; nothing behind it counts. -/
  | broken (m : Malformed)

/-- How far the reading of a conversion is. -/
inductive Stage where
  | start
  | flags
  | width
  | point
  | most
  | letter

/-- What one more character of a conversion makes of it. -/
inductive Step where
  | goOn (s : Stage) (l : Layout)
  | whole (p : Part)

/-- A number with one more digit, if it stays below a bound. -/
def grown (bound n : Nat) (c : Char) : Option Nat :=
  let m := n * 10 + (c.toNat - '0'.toNat)
  if m ≤ bound then some m else none

def widthBound : Nat := 9223372036854775807

def mostBound : Nat := 2147483647

def isSize (c : Char) : Bool := c == 'h' || c == 'l' || c == 'L'

def isFlag (c : Char) : Bool := c == '+' || c == ' ' || c == '#' || c == '0'

/-- After the length: a mark of size or the letter. -/
def stepLetter (l : Layout) (c : Char) : Step :=
  if isSize c then .goOn .letter l else .whole (.conversion l c)

/-- After the width: a point, or what follows the length. -/
def stepPoint (l : Layout) (c : Char) : Step :=
  if c = '.' then .goOn .point { l with most := some 0 } else stepLetter l c

def step (s : Stage) (l : Layout) (c : Char) : Step :=
  match s with
  | .start =>
    if c = '(' then .whole (.broken (.kind "format requires a mapping")) else stepFlags l c
  | .flags => stepFlags l c
  | .width =>
    if Number.Decimal.isDigit c then
      match grown widthBound l.width c with
      | some n => .goOn .width { l with width := n }
      | none => .whole (.broken (.content "width too big"))
    else stepPoint l c
  | .point => if c = '*' then .whole .asked else stepMost l c
  | .most => stepMost l c
  | .letter => .whole (.conversion l c)
where
  stepFlags (l : Layout) (c : Char) : Step :=
    if c = '-' then .goOn .flags { l with left := true }
    else if isFlag c then .goOn .flags l
    else if c = '*' then .whole .asked
    else if Number.Decimal.isDigit c then
      .goOn .width { l with width := c.toNat - '0'.toNat }
    else stepPoint l c
  stepMost (l : Layout) (c : Char) : Step :=
    if Number.Decimal.isDigit c then
      match grown mostBound (l.most.getD 0) c with
      | some n => .goOn .most { l with most := some n }
      | none => .whole (.broken (.content "precision too big"))
    else stepLetter l c

/-- The parts of a text; inside a conversion with what has been read of it. A half there is a letter
of no meaning. -/
def parts : Option (Stage × Layout) → List Character → List Part
  | none, [] => []
  | some _, [] => [.broken (.content "incomplete format")]
  | none, .scalar '%' :: .scalar '%' :: cs => .literal '%' :: parts none cs
  | none, c :: cs =>
    if c = '%' then parts (some (.start, {})) cs else .literal c :: parts none cs
  | some (s, l), .scalar c :: cs =>
    match step s l c with
    | .goOn s l => parts (some (s, l)) cs
    | .whole p => p :: parts none cs
  | some (_, l), .half u :: cs => .conversion l (.half u) :: parts none cs

theorem parts_of_not_mem {cs : List Character} (h : .scalar '%' ∉ cs) :
    parts none cs = cs.map Part.literal := by
  induction cs with
  | nil => rfl
  | cons c cs ih =>
    have hc : c ≠ .scalar '%' := fun e => h (e ▸ List.mem_cons_self)
    have hs : .scalar '%' ∉ cs := fun e => h (List.mem_cons_of_mem _ e)
    unfold parts
    split <;> simp_all

/-! ## 2. Filling -/

/-- The greatest width that a text can be filled up to. -/
def spaceLimit : Nat := 4294967296

/-- A text between blanks up to its width. -/
def justified (l : Layout) (cs : List Char) : Except Malformed (List Char) :=
  if spaceLimit < l.width then .error (.space "a text of the width cannot be held")
  else
    let blanks := List.replicate (l.width - cs.length) ' '
    .ok (if l.left then cs ++ blanks else blanks ++ cs)

def lettersOfIntegers : List Character := ['d', 'i', 'o', 'u', 'x', 'X']

def lettersOfDoubles : List Character := ['e', 'E', 'f', 'F', 'g', 'G']

/-- What a conversion makes of an argument. -/
def convert (l : Layout) (letter : Character) (cs : List Char) :
    Except Malformed (List Char) :=
  let cut := fun (cs : List Char) => match l.most with
    | some n => cs.take n
    | none => cs
  if letter = 's' then justified l (cut cs)
  else if letter = 'r' ∨ letter = 'a' then justified l (cut (quote (cs.map .scalar)))
  else if letter = 'c' then
    if cs.length = 1 then justified l cs else .error (.kind "%c requires int or char")
  else if letter ∈ lettersOfIntegers then
    .error (.kind ("%" ++ Text.ofList [letter] ++ " format: a number is required, not str"))
  else if letter ∈ lettersOfDoubles then .error (.kind "must be real number, not str")
  else .error (.content "unsupported format character")

/-- What a conversion makes of an argument in a format of bytes. -/
def convertInBytes (l : Layout) (letter : Character) (cs : List Char) :
    Except Malformed (List Char) :=
  if letter = 'r' ∨ letter = 'a' then convert l letter cs
  else if letter = 's' ∨ letter = 'b' then
    .error (.kind "a format of bytes takes no text without quotes")
  else if letter = 'c' then
    .error (.kind "a format of bytes takes no character of a text")
  else if 128 ≤ letter.toNat then .error (.magnitude "the letter of a conversion is beyond ASCII")
  else convert l letter cs

/-- The report of too few arguments. -/
def tooFew : Malformed := .kind "not enough arguments for format string"

/-- The parts with their arguments, each of which has to be taken by one. -/
def fillParts (conversion : Layout → Character → List Char → Except Malformed (List Char)) :
    List Part → List (List Char) → Except Malformed (List Character)
  | [], [] => .ok []
  | [], _ :: _ => .error (.kind "not all arguments converted during string formatting")
  | .literal c :: ps, args => do return c :: (← fillParts conversion ps args)
  | .broken m :: _, _ => .error m
  | .asked :: _, [] => .error tooFew
  | .asked :: _, _ :: _ => .error (.kind "* wants int")
  | .conversion .. :: _, [] => .error tooFew
  | .conversion l letter :: ps, cs :: args => do
    let whole ← conversion l letter cs
    return whole.map .scalar ++ (← fillParts conversion ps args)

theorem fillParts_literals
    (conversion : Layout → Character → List Char → Except Malformed (List Char))
    (cs : List Character) : fillParts conversion (cs.map Part.literal) [] = .ok cs := by
  induction cs with
  | nil => rfl
  | cons c cs ih =>
    rw [List.map_cons, fillParts, ih]
    rfl

/-- **The path that a text makes of arguments**, each of which is percent-encoded first. -/
def fill (format : Value) (args : List Value) : Except Malformed Value := do
  let args ← args.mapM Template.encoded
  match format with
  | .text s => return .text (Text.ofList (← fillParts convert (parts none s.toList) args))
  | .bytes bs =>
    let cs ← fillParts convertInBytes (parts none (bs.map fun b => Character.ofNat b.toNat)) args
    return .bytes (cs.map fun c => UInt8.ofNat c.toNat)
  | v => throw (.kind ("unsupported operand types: '" ++ v.kindName ++ "' and 'tuple'"))

end StorageBroker.Text.Format
