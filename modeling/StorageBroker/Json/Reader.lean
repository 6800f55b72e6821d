import StorageBroker.Value.Mapping
import StorageBroker.Value.Integer
import StorageBroker.Number.Decimal
import StorageBroker.Json.Encoding
/-!
# Reading JSON documents

A document is one value with white space around it. Numbers without fraction and exponent are
integers, of as many digits as a text may hold for one; all others are doubles, and the names of
NaN and of the infinities count as such. Of entries with the same key the last one holds, at the
place of the first.

The readers take the characters that are left and give back what they read with what is left after
it. Every value takes at least one character, so the number of characters left bounds the length of
the reading; `readDocument` starts with that bound. The nesting of lists and mappings has a bound
of its own, `depthLimit`.
-/

namespace StorageBroker.Json

open Text (isHighUnit isLowUnit scalarOfPair)

/-! ## 1. White space and words -/

def isSpace (c : Char) : Bool := c == ' ' || c == '\t' || c == '\n' || c == '\r'

def skipSpace (cs : List Char) : List Char := cs.dropWhile isSpace

/-- The rest of a text after a word it starts with. -/
def after? : (word cs : List Char) → Option (List Char)
  | [], cs => some cs
  | w :: ws, c :: cs => if w = c then after? ws cs else none
  | _ :: _, [] => none

/-- The words that are values. -/
def words : List (String × Value) :=
  [("null", .null), ("true", .bool true), ("false", .bool false),
   ("NaN", .float (0.0 / 0.0)), ("Infinity", .float (1.0 / 0.0)),
   ("-Infinity", .float (-1.0 / 0.0))]

def readWord (cs : List Char) : Option (Value × List Char) :=
  words.findSome? fun w => (after? w.1.toList cs).map fun rest => (w.2, rest)

/-! ## 2. Texts -/

/-- The value of a hexadecimal digit. -/
def hexValue? (c : Char) : Option Nat :=
  if '0' ≤ c ∧ c ≤ '9' then some (c.toNat - 48)
  else if 'a' ≤ c ∧ c ≤ 'f' then some (c.toNat - 87)
  else if 'A' ≤ c ∧ c ≤ 'F' then some (c.toNat - 55)
  else none

/-- Four hexadecimal digits. -/
def readUnit : List Char → Option (Nat × List Char)
  | a :: b :: c :: d :: rest => do
    let a ← hexValue? a
    let b ← hexValue? b
    let c ← hexValue? c
    let d ← hexValue? d
    return (((a * 16 + b) * 16 + c) * 16 + d, rest)
  | _ => none

/-- The character after `\u`: one unit, or two that form a pair. -/
def readEscapedUnit (cs : List Char) : Option (Character × List Char) := do
  let (u, rest) ← readUnit cs
  match isHighUnit u, rest with
  | true, '\\' :: 'u' :: more =>
    match readUnit more with
    | some (v, rest') =>
      if isLowUnit v then
        return (.scalar (scalarOfPair u v), rest')
      else return (.ofNat u, rest)
    | none => none
  | _, _ => return (.ofNat u, rest)

/-- The character that a letter after a backslash stands for. -/
def escaped? : Char → Option Char
  | '"' => some '"'
  | '\\' => some '\\'
  | '/' => some '/'
  | 'b' => some '\x08'
  | 'f' => some '\x0c'
  | 'n' => some '\n'
  | 'r' => some '\r'
  | 't' => some '\t'
  | _ => none

/-- The characters of a text after its opening quote. -/
def readChars : (bound : Nat) → List Char → Option (List Character × List Char)
  | 0, _ => none
  | bound + 1, cs => match cs with
    | [] => none
    | '"' :: rest => some ([], rest)
    | '\\' :: 'u' :: rest => do
      let (c, rest) ← readEscapedUnit rest
      let (more, rest) ← readChars bound rest
      return (c :: more, rest)
    | '\\' :: e :: rest => do
      let c ← escaped? e
      let (more, rest) ← readChars bound rest
      return (.scalar c :: more, rest)
    | c :: rest =>
      if c.toNat < 32 || c == '\\' then none
      else do
        let (more, rest) ← readChars bound rest
        return (.scalar c :: more, rest)

/-- A text after its opening quote. -/
def readText (cs : List Char) : Option (Text × List Char) := do
  let (chars, rest) ← readChars (cs.length + 1) cs
  return (.ofList chars, rest)

/-! ## 3. Numbers -/

/-- The digits at the front of a text. -/
def digitsOf (cs : List Char) : List Char × List Char := cs.span Number.Decimal.isDigit

/-- A fraction: a point and at least one digit. -/
def readFraction (cs : List Char) : List Char × List Char :=
  match cs with
  | '.' :: rest => match digitsOf rest with
    | ([], _) => ([], cs)
    | (ds, rest) => (ds, rest)
  | cs => ([], cs)

/-- An exponent: its value, if there is one. -/
def readExponent (cs : List Char) : Option Int × List Char :=
  match cs with
  | e :: rest =>
    if e == 'e' || e == 'E' then
      let (negative, rest) := match rest with
        | '-' :: rest => (true, rest)
        | '+' :: rest => (false, rest)
        | rest => (false, rest)
      match digitsOf rest with
      | ([], _) => (none, cs)
      | (ds, rest) =>
        let n : Int := Number.Decimal.ofChars ds
        (some (if negative then -n else n), rest)
    else (none, cs)
  | [] => (none, cs)

/-- A number after its sign. -/
def readMagnitude (negative : Bool) (cs : List Char) : Option (Value × List Char) :=
  let (whole, rest) := match cs with
    | '0' :: rest => (['0'], rest)
    | cs => digitsOf cs
  if whole.isEmpty then none
  else
    let (fraction, rest) := readFraction rest
    let (exponent, rest) := readExponent rest
    if fraction.isEmpty && exponent.isNone then
      if whole.length ≤ IntegerText.digitLimit then
        let n : Int := Number.Decimal.ofChars whole
        some (.int (if negative then -n else n), rest)
      else none
    else
      let digits := Number.Decimal.ofChars (whole ++ fraction)
      let e := exponent.getD 0 - fraction.length
      some (.float (Number.Decimal.toFloat negative digits e), rest)

def readNumber (cs : List Char) : Option (Value × List Char) :=
  match cs with
  | '-' :: rest => readMagnitude true rest
  | cs => readMagnitude false cs

/-! ## 4. Values -/

/-- How deep lists and mappings may lie in each other. -/
def depthLimit : Nat := 975

mutual

/-- A value; the first bound falls with every step, the depth with every value inside another. -/
def readValue : (bound depth : Nat) → List Char → Option (Value × List Char)
  | 0, _, _ => none
  | _, 0, _ => none
  | bound + 1, depth + 1, cs => match cs with
    | '"' :: rest => (readText rest).map fun (s, rest) => (.text s, rest)
    | '[' :: rest => match skipSpace rest with
      | ']' :: rest => some (.list [], rest)
      | rest => (readItems bound depth rest).map fun (vs, rest) => (.list vs, rest)
    | '\x7b' :: rest => match skipSpace rest with
      | '\x7d' :: rest => some (.mapping [], rest)
      | rest => (readEntries bound depth [] rest).map fun (m, rest) => (.mapping m, rest)
    | cs => readWord cs <|> readNumber cs

/-- The items of a list up to its closing bracket. -/
def readItems : (bound depth : Nat) → List Char → Option (List Value × List Char)
  | 0, _, _ => none
  | bound + 1, depth, cs => do
    let (v, rest) ← readValue bound depth cs
    match skipSpace rest with
    | ',' :: rest =>
      let (vs, rest) ← readItems bound depth (skipSpace rest)
      return (v :: vs, rest)
    | ']' :: rest => return ([v], rest)
    | _ => none

/-- The entries of a mapping up to its closing brace, added to those read before. -/
def readEntries : (bound depth : Nat) → Mapping → List Char → Option (Mapping × List Char)
  | 0, _, _, _ => none
  | bound + 1, depth, m, cs => match cs with
    | '"' :: rest => do
      let (key, rest) ← readText rest
      match skipSpace rest with
      | ':' :: rest =>
        let (v, rest) ← readValue bound depth (skipSpace rest)
        let m := Mapping.set m key v
        match skipSpace rest with
        | ',' :: rest => readEntries bound depth m (skipSpace rest)
        | '\x7d' :: rest => return (m, rest)
        | _ => none
      | _ => none
    | _ => none

end

/-- **The value of a document.** -/
def readDocument (cs : List Char) : Option Value :=
  match readValue (cs.length + 1) depthLimit (skipSpace cs) with
  | some (v, rest) => if (skipSpace rest).isEmpty then some v else none
  | none => none

/-! ## 5. Bytes -/

/-- **The value of a document in bytes.** -/
def readBytes (bs : List UInt8) : Option Value := readDocument (charactersOf bs)

end StorageBroker.Json
