import StorageBroker.Number.IntegerText
/-!
# Texts of doubles

A text of a double holds an optional sign and then digits with a point and an exponent, or one of
the words for the infinity and for NaN in letters of either case. Digits are decimal digits of any
script, single underscores may stand between two of them, and blanks around the text are skipped.

* `withoutUnderscores_of_none` -- a text without underscores is taken as it is;
* `read?` -- the double that a text spells.
-/

namespace StorageBroker.FloatText

/-! ## 1. Characters -/

/-- A character with a decimal digit of any script made an ASCII one. -/
def asciiDigit (c : Char) : Char :=
  match Text.decimalDigit? c with
  | some d => Char.ofNat ('0'.toNat + d)
  | none => c

/-- A text without the underscores that stand between two digits; one that stands elsewhere
spells nothing. The flag tells whether a digit stands right before. -/
def withoutUnderscores : (afterDigit : Bool) → List Char → Option (List Char)
  | _, [] => some []
  | afterDigit, '_' :: c :: cs =>
    if afterDigit && Number.Decimal.isDigit c then
      (withoutUnderscores true cs).map (c :: ·)
    else none
  | _, ['_'] => none
  | _, c :: cs => (withoutUnderscores (Number.Decimal.isDigit c) cs).map (c :: ·)

theorem withoutUnderscores_of_none {cs : List Char} (h : '_' ∉ cs) (before : Bool) :
    withoutUnderscores before cs = some cs := by
  induction cs generalizing before with
  | nil => rfl
  | cons c cs ih =>
    have hc : c ≠ '_' := fun e => h (e ▸ List.mem_cons_self)
    have hs : '_' ∉ cs := fun e => h (List.mem_cons_of_mem _ e)
    have hstep : withoutUnderscores before (c :: cs) =
        (withoutUnderscores (Number.Decimal.isDigit c) cs).map (c :: ·) := by
      rw [withoutUnderscores.eq_4] <;> simp_all
    rw [hstep, ih hs]
    rfl

/-! ## 2. Magnitudes -/

/-- The words that are no numbers of digits. -/
def word? (cs : List Char) : Option Float :=
  match String.ofList (cs.map Char.toLower) with
  | "inf" | "infinity" => some (1.0 / 0.0)
  | "nan" => some (0.0 / 0.0)
  | _ => none

/-- An exponent: a sign, which may be missing, and digits. -/
def exponent? (cs : List Char) : Option Int :=
  let digits? := fun (ds : List Char) =>
    if ds.isEmpty || !ds.all Number.Decimal.isDigit then none
    else some (Number.Decimal.ofChars ds)
  IntegerText.signed digits? cs

/-- What stands behind the digits of a number: nothing, or an exponent after its letter. -/
def tail? : List Char → Option Int
  | [] => some 0
  | e :: cs => if e == 'e' || e == 'E' then exponent? cs else none

/-- Digits with a point and an exponent. -/
def digits? (negative : Bool) (cs : List Char) : Option Float :=
  let (whole, rest) := cs.span Number.Decimal.isDigit
  let (fraction, rest) := match rest with
    | '.' :: rest => rest.span Number.Decimal.isDigit
    | rest => ([], rest)
  if whole.isEmpty && fraction.isEmpty then none
  else (tail? rest).map fun e =>
    Number.Decimal.toFloat negative (Number.Decimal.ofChars (whole ++ fraction))
      (e - fraction.length)

/-- A number after its sign. -/
def magnitude? (negative : Bool) (cs : List Char) : Option Float :=
  match word? cs with
  | some x => some (if negative then -x else x)
  | none => digits? negative cs

/-! ## 3. Texts -/

/-- **The double that a row of scalars spells.** -/
def read? (cs : List Char) : Option Float := do
  let cs := (Text.stripWhile IntegerText.isAround cs).map asciiDigit
  match ← withoutUnderscores false cs with
  | '+' :: cs => magnitude? false cs
  | '-' :: cs => magnitude? true cs
  | cs => magnitude? false cs

/-- The double that a text spells; a half is no part of a number. -/
def ofText? (t : Text) : Option Float := t.string?.bind fun s => read? s.toList

end StorageBroker.FloatText
