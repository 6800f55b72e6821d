import StorageBroker.Text.Printable
import StorageBroker.Text
/-!
# Quoted texts

How a text or a run of bytes is shown inside a message: between single quotes, or between double
quotes if it holds a single quote and no double one; what is not printable is written with a
backslash.

* `quote_of_plain` -- a text of printable ASCII characters without quotes and backslashes is shown
  as itself between single quotes.
-/

namespace StorageBroker.Text

/-! ## 1. Digits of an escape -/

/-- A hexadecimal digit in small letters. -/
def hexDigit (n : Nat) : Char :=
  if n < 10 then Char.ofNat (48 + n) else Char.ofNat (87 + n)

/-- The last `width` hexadecimal digits of a number. -/
def hexDigits : (width : Nat) → Nat → List Char
  | 0, _ => []
  | width + 1, n => hexDigits width (n / 16) ++ [hexDigit (n % 16)]

/-! ## 2. Texts -/

/-- The quote that a text is put between. -/
def quoteOf (cs : List Character) : Char :=
  if cs.contains '\'' && !cs.contains '"' then '"' else '\''

/-- How a scalar is shown between the given quotes. -/
def escape (quote c : Char) : List Char :=
  if c = quote ∨ c = '\\' then ['\\', c]
  else if c = '\n' then ['\\', 'n']
  else if c = '\r' then ['\\', 'r']
  else if c = '\t' then ['\\', 't']
  else if isPrintable c then [c]
  else
    let n := c.toNat
    if n < 256 then '\\' :: 'x' :: hexDigits 2 n
    else if n < 65536 then '\\' :: 'u' :: hexDigits 4 n
    else '\\' :: 'U' :: hexDigits 8 n

/-- How a character is shown between the given quotes: a half by its number. -/
def escapeIn (quote : Char) : Character → List Char
  | .scalar c => escape quote c
  | .half u => '\\' :: 'u' :: hexDigits 4 u.unit

/-- A text between its quotes. -/
def quote (cs : List Character) : List Char :=
  let q := quoteOf cs
  q :: cs.flatMap (escapeIn q) ++ [q]

/-- Characters that need no escape. -/
def isPlain (c : Char) : Bool :=
  32 ≤ c.toNat && c.toNat < 127 && c != '\'' && c != '\\'

theorem escape_of_isPlain {c : Char} (h : isPlain c) : escape '\'' c = [c] := by
  simp only [isPlain, Bool.and_eq_true, decide_eq_true_eq, bne_iff_ne] at h
  obtain ⟨⟨⟨h1, h2⟩, h3⟩, h4⟩ := h
  have hn : c ≠ '\n' := by rintro rfl; revert h1; decide
  have hr : c ≠ '\r' := by rintro rfl; revert h1; decide
  have ht : c ≠ '\t' := by rintro rfl; revert h1; decide
  simp [escape, h3, h4, hn, hr, ht, isPrintable_of_ascii h2, h1]

theorem quote_of_plain {cs : List Char} (h : ∀ c ∈ cs, isPlain c) :
    quote (cs.map .scalar) = '\'' :: cs ++ ['\''] := by
  have hq : (cs.map Character.scalar).contains '\'' = false := by
    refine Bool.eq_false_iff.2 fun hc => ?_
    obtain ⟨c, hmem, hquote⟩ := List.mem_map.1 (List.contains_iff_mem.1 hc)
    have := h c hmem
    simp [Character.scalar.inj hquote, isPlain] at this
  have hf : (cs.map Character.scalar).flatMap (escapeIn '\'') = cs := by
    clear hq
    induction cs with
    | nil => rfl
    | cons c cs ih =>
      simp only [List.map_cons, List.flatMap_cons, escapeIn, escape_of_isPlain (h c (by simp)),
        ih (fun x hx => h x (List.mem_cons_of_mem _ hx)), List.singleton_append]
  have hqo : quoteOf (cs.map .scalar) = '\'' := by unfold quoteOf; rw [hq]; rfl
  simp [quote, hqo, hf]

/-! ## 3. Bytes -/

/-- The character of the same number as a byte. -/
def ofByte (b : UInt8) : Char := Char.ofNat b.toNat

/-- How one byte is shown: printable ASCII as itself. -/
def escapeByte (quote : Char) (b : UInt8) : List Char :=
  let c := ofByte b
  if b < 127 then escape quote c else '\\' :: 'x' :: hexDigits 2 b.toNat

/-- Bytes between their quotes, marked by a leading `b`. -/
def quoteBytes (bs : List UInt8) : List Char :=
  let q := quoteOf (bs.map fun b => .scalar (ofByte b))
  'b' :: q :: bs.flatMap (escapeByte q) ++ [q]

end StorageBroker.Text
