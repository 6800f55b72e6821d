import StorageBroker.Yaml.Cursor
import StorageBroker.Value.Integer
import StorageBroker.Number.FloatText
/-!
# Numerals

The spellings of numbers in a document. Integers are binary, octal, hexadecimal or decimal, or
decimal with parts to the base sixty; doubles are decimal with a point, the infinities and NaN, or
have parts to the base sixty as well. Underscores may stand among the digits.

* `isInteger`, `isDouble` -- which texts spell a number;
* `readInteger`, `readDouble` -- the number that a text spells, also where it is only said to be
  one, so that both may fail;
* `not_isInteger_of_isDouble` -- no text is both: only a double has a point in it.
-/

namespace StorageBroker.Yaml.Numeral

/-! ## 1. Parts -/

def isSign (c : Char) : Bool := c == '+' || c == '-'

/-- A numeral without its sign. -/
def unsigned : List Char → List Char
  | [] => []
  | c :: cs => if isSign c then cs else c :: cs

def isNegative (cs : List Char) : Bool := cs.head? == some '-'

/-- A character of a run of digits, where underscores may stand among them. -/
def isDigitOr (digits : String) (c : Char) : Bool := c == '_' || digits.toList.contains c

/-- A character of a run of decimal digits. -/
def isRun : Char → Bool := isDigitOr "0123456789"

/-- A number below sixty, of one digit or two. -/
def isSixtieth : List Char → Bool
  | [a] => Number.Decimal.isDigit a
  | [a, b] => "012345".toList.contains a && Number.Decimal.isDigit b
  | _ => false

/-- An exponent, whose sign has to be there. -/
def isExponent : List Char → Bool
  | e :: s :: d :: ds =>
    (e == 'e' || e == 'E') && isSign s && (d :: ds).all Number.Decimal.isDigit
  | _ => false

/-! ## 2. Which texts are numerals -/

/-- Digits, and parts to the base sixty behind colons. -/
def isSexagesimal (cs : List Char) : Bool :=
  match Text.splitOn ':' cs with
  | first :: parts => first.all isRun && parts.all isSixtieth
  | [] => false

/-- **Whether a text spells an integer.** -/
def isInteger (cs : List Char) : Bool :=
  match unsigned cs with
  | '0' :: 'b' :: ds => !ds.isEmpty && ds.all (isDigitOr "01")
  | '0' :: 'x' :: ds => !ds.isEmpty && ds.all (isDigitOr "0123456789abcdefABCDEF")
  | '0' :: ds => ds.all (isDigitOr "01234567")
  | d :: ds => Number.Decimal.isDigit d && isSexagesimal (d :: ds)
  | [] => false

/-- Digits and an exponent, if there is one. -/
def isFraction (cs : List Char) : Bool :=
  let rest := cs.dropWhile isRun
  rest.isEmpty || isExponent rest

/-- What stands in front of the point of a numeral and what stands behind it. -/
def halves? (cs : List Char) : Option (List Char × List Char) :=
  match cs.dropWhile (· != '.') with
  | [] => none
  | _ :: fraction => some (cs.takeWhile (· != '.'), fraction)

def infinities : List (List Char) := ["inf", "Inf", "INF"].map String.toList

def notNumbers : List (List Char) := ["nan", "NaN", "NAN"].map String.toList

/-- Whether a text spells a double, by its halves: `hasSign` tells whether a sign stands in front
of the first one. -/
def isDoubleOf (hasSign : Bool) (whole fraction : List Char) : Bool :=
  match whole with
  | [] =>
    infinities.contains fraction
      || (!hasSign && (notNumbers.contains fraction
        || ((fraction.head?.map Number.Decimal.isDigit).getD false && isFraction fraction)))
  | d :: ds =>
    Number.Decimal.isDigit d
      && ((ds.all isRun && isFraction fraction)
        || (isSexagesimal (d :: ds) && fraction.all isRun))

/-- **Whether a text spells a double.** -/
def isDouble (cs : List Char) : Bool :=
  match halves? (unsigned cs) with
  | some (whole, fraction) => isDoubleOf (cs.head?.any isSign) whole fraction
  | none => false

/-! ## 3. The numbers -/

/-- A numeral without the underscores in it. -/
def withoutUnderscores (cs : List Char) : List Char := cs.filter (· != '_')

def noInteger (t : Text) : Problem := .content (Value.noInteger (.text t))

def noDouble (t : Text) : Problem :=
  .content (.content ("could not convert string to float: " ++ (Value.text t).quoted))

/-- The integer that a text in a base of a power of two spells. -/
def readBase (base : Nat) (cs : List Char) : Except Problem Int :=
  match IntegerText.readIn base cs with
  | some i => .ok i
  | none => .error (noInteger (String.ofList cs))

/-- The integer that a decimal text spells. -/
def readDecimal (cs : List Char) : Except Problem Int :=
  match IntegerText.read cs with
  | some i => .ok i
  | none => .error (noInteger (String.ofList cs))

/-- A numeral has a first character. -/
def noCharacter : Problem := .content (.index "string index out of range")

/-- An integer without its sign and underscores. -/
def readMagnitude (cs : List Char) : Except Problem Int :=
  match cs with
  | [] => .error noCharacter
  | ['0'] => .ok 0
  | '0' :: 'b' :: ds => readBase 2 ds
  | '0' :: 'x' :: ds => readBase 16 ds
  | '0' :: ds => readBase 8 ('0' :: ds)
  | cs => do
    let parts ← (Text.splitOn ':' cs).mapM readDecimal
    return parts.foldl (fun n d => 60 * n + d) 0

/-- **The integer that a text spells.** -/
def readInteger (cs : List Char) : Except Problem Int := do
  let digits := withoutUnderscores cs
  if digits.isEmpty then throw noCharacter
  let n ← readMagnitude (unsigned digits)
  return if isNegative digits then -n else n

/-- A decimal number without its first sign. -/
def readFloat (cs : List Char) : Except Problem Float :=
  match FloatText.read? cs with
  | some x => .ok x
  | none => .error (noDouble (String.ofList cs))

/-- A power of sixty as a double, if doubles reach so far. -/
def power (i : Nat) : Except Problem Float :=
  let x := Number.Decimal.toFloat false (Nat.pow 60 i) 0
  if x.isInf then .error (.content (.magnitude "the base is too large for a double")) else .ok x

/-- The sum of parts to the base sixty, the last part first; `i` parts have been added. -/
def addParts : (i : Nat) → Float → List Float → Except Problem Float
  | _, sum, [] => .ok sum
  | i, sum, x :: xs => do addParts (i + 1) (sum + x * (← power i)) xs

/-- A double without its sign and underscores, in lower case. -/
def readDoubleMagnitude (cs : List Char) : Except Problem Float :=
  if cs = ".inf".toList then .ok (1.0 / 0.0)
  else if cs = ".nan".toList then .ok (0.0 / 0.0)
  else match Text.splitOn ':' cs with
    | [_] => readFloat cs
    | parts => do addParts 0 0.0 (← parts.mapM readFloat).reverse

/-- **The double that a text spells.** -/
def readDouble (cs : List Char) : Except Problem Float := do
  let digits := (withoutUnderscores cs).map Char.toLower
  if digits.isEmpty then throw noCharacter
  let x ← readDoubleMagnitude (unsigned digits)
  return if isNegative digits then -x else x

/-! ## 4. Integers have no point -/

theorem mem_of_mem_splitOn {c sep : Char} {cs : List Char} (hc : c ∈ cs) (hs : c ≠ sep) :
    ∃ part ∈ Text.splitOn sep cs, c ∈ part := by
  induction cs with
  | nil => simp at hc
  | cons x cs ih =>
    unfold Text.splitOn
    by_cases hx : x = sep
    · have hmem : c ∈ cs := by
        rcases List.mem_cons.1 hc with h | h
        · exact absurd (h.trans hx) hs
        · exact h
      obtain ⟨part, hp, hcp⟩ := ih hmem
      exact ⟨part, by simp [hx, hp], hcp⟩
    · rw [if_neg hx]
      cases hsplit : Text.splitOn sep cs with
      | nil => exact absurd hsplit (Text.splitOn_ne_nil sep cs)
      | cons first parts =>
        rcases List.mem_cons.1 hc with h | h
        · exact ⟨x :: first, by simp, by simp [h]⟩
        · obtain ⟨part, hp, hcp⟩ := ih h
          rw [hsplit] at hp
          rcases List.mem_cons.1 hp with rfl | hp
          · exact ⟨x :: part, by simp, by simp [hcp]⟩
          · exact ⟨part, by simp [hp], hcp⟩

theorem point_mem_of_isDouble {cs : List Char} (h : isDouble cs) : '.' ∈ unsigned cs := by
  unfold isDouble halves? at h
  cases hd : (unsigned cs).dropWhile (· != '.') with
  | nil => simp [hd] at h
  | cons x rest =>
    have hx : x = '.' := by
      have := List.head?_dropWhile_not (· != '.') (unsigned cs)
      simpa [hd] using this
    have hmem : x ∈ (unsigned cs).dropWhile (· != '.') := by simp [hd]
    exact hx ▸ (List.dropWhile_sublist _).subset hmem

theorem point_not_mem_of_isSexagesimal {cs : List Char} (h : isSexagesimal cs) : '.' ∉ cs := by
  intro hmem
  obtain ⟨part, hp, hc⟩ : ∃ part ∈ Text.splitOn ':' cs, '.' ∈ part :=
    mem_of_mem_splitOn hmem (by decide)
  unfold isSexagesimal at h
  cases hsplit : Text.splitOn ':' cs with
  | nil => simp [hsplit] at h
  | cons first parts =>
    simp only [hsplit, Bool.and_eq_true, List.all_eq_true] at h hp
    rcases List.mem_cons.1 hp with rfl | hp
    · exact absurd (h.1 '.' hc) (by decide)
    · have := h.2 part hp
      unfold isSixtieth at this
      split at this
      · simp only [List.mem_singleton] at hc
        subst hc; exact absurd this (by decide)
      · simp only [Bool.and_eq_true] at this
        rcases List.mem_cons.1 hc with hc | hc
        · subst hc; exact absurd this.1 (by decide)
        · simp only [List.mem_singleton] at hc
          subst hc; exact absurd this.2 (by decide)
      · simp at this

theorem point_not_mem_of_isInteger {cs : List Char} (h : isInteger cs) : '.' ∉ unsigned cs := by
  unfold isInteger at h
  split at h
  case h_1 ds heq | h_2 ds heq =>
    rw [heq]
    simp only [Bool.and_eq_true, List.all_eq_true] at h
    intro hc
    simp only [List.mem_cons] at hc
    rcases hc with hc | hc | hc
    · exact absurd hc (by decide)
    · exact absurd hc (by decide)
    · exact absurd (h.2 '.' hc) (by decide)
  case h_3 ds _ _ heq =>
    rw [heq]
    simp only [List.all_eq_true] at h
    intro hc
    rcases List.mem_cons.1 hc with hc | hc
    · exact absurd hc (by decide)
    · exact absurd (h '.' hc) (by decide)
  case h_4 d ds _ _ _ heq =>
    rw [heq]
    simp only [Bool.and_eq_true] at h
    exact point_not_mem_of_isSexagesimal h.2
  case h_5 => simp at h

/-- **No text spells an integer and a double.** -/
theorem not_isInteger_of_isDouble {cs : List Char} (h : isDouble cs) : ¬ isInteger cs :=
  fun hi => point_not_mem_of_isInteger hi (point_mem_of_isDouble h)

end StorageBroker.Yaml.Numeral
