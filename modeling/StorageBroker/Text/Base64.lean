/-!
# Base 64

Four characters of an alphabet of 64 spell three bytes. Characters outside of the alphabet are
passed over. Padding counts where two or three characters stand before it, and ends the text when
it makes them four; a text may not end in the middle of a group.

* `decode?` -- the bytes of a text;
* `digit?_lt` -- a character of the alphabet stands for six bits;
* `decodeFrom_skip` -- a character outside of the alphabet changes nothing.
-/

namespace StorageBroker.Text.Base64

/-- The value of a character of the alphabet. -/
def digit? (c : Char) : Option Nat :=
  if 'A' ≤ c ∧ c ≤ 'Z' then some (c.toNat - 'A'.toNat)
  else if 'a' ≤ c ∧ c ≤ 'z' then some (c.toNat - 'a'.toNat + 26)
  else if '0' ≤ c ∧ c ≤ '9' then some (c.toNat - '0'.toNat + 52)
  else if c = '+' then some 62
  else if c = '/' then some 63
  else none

theorem digit?_lt {c : Char} {d : Nat} (h : digit? c = some d) : d < 64 := by
  have h0 : ('0' : Char).toNat = 48 := rfl
  have h9 : ('9' : Char).toNat = 57 := rfl
  have hA : ('A' : Char).toNat = 65 := rfl
  have hZ : ('Z' : Char).toNat = 90 := rfl
  have ha : ('a' : Char).toNat = 97 := rfl
  have hz : ('z' : Char).toNat = 122 := rfl
  simp only [digit?, Char.le_def, UInt32.le_iff_toNat_le, ← Char.toNat_val] at h h0 h9 hA hZ ha hz
  repeat' split at h
  all_goals simp only [Option.some.injEq, reduceCtorEq] at h
  all_goals omega

/-- A group of four characters that has begun. -/
structure Group where
  /-- How many of its characters have been read. -/
  count : Nat
  /-- The bits that are not yet part of a byte. -/
  bits : Nat
  /-- How much padding stands right before. -/
  padding : Nat
deriving DecidableEq, Repr

def Group.start : Group := ⟨0, 0, 0⟩

/-- A further character of a group, with the byte that it completes. -/
def Group.add (g : Group) (d : Nat) : Option UInt8 × Group :=
  match g.count with
  | 0 => (none, ⟨1, d, 0⟩)
  | 1 => (some (UInt8.ofNat (g.bits * 4 + d / 16)), ⟨2, d % 16, 0⟩)
  | 2 => (some (UInt8.ofNat (g.bits * 16 + d / 4)), ⟨3, d % 4, 0⟩)
  | _ => (some (UInt8.ofNat (g.bits * 64 + d)), .start)

/-- The bytes of a text in the middle of a group. -/
def decodeFrom (g : Group) : List Char → Option (List UInt8)
  | [] => if g.count = 0 then some [] else none
  | c :: cs =>
    if c = '=' then
      if g.count < 2 then decodeFrom g cs
      else if 4 ≤ g.count + g.padding + 1 then some []
      else decodeFrom { g with padding := g.padding + 1 } cs
    else match digit? c with
      | none => decodeFrom g cs
      | some d =>
        let (byte, g) := g.add d
        (decodeFrom g cs).map (byte.toList ++ ·)

theorem decodeFrom_skip (g : Group) {c : Char} (hc : c ≠ '=') (h : digit? c = none)
    (cs : List Char) : decodeFrom g (c :: cs) = decodeFrom g cs := by
  rw [decodeFrom, if_neg hc, h]

/-- **The bytes that a text spells.** -/
def decode? (cs : List Char) : Option (List UInt8) := decodeFrom .start cs

end StorageBroker.Text.Base64
