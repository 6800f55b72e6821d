import StorageBroker.Text
/-!
# UTF-8

Bytes are read as characters one byte at a time: a first byte tells how many are to follow and
between which bounds the next one lies, so every character has one form only, and no half has any.
The reading stops at the first byte that fits nothing and tells its place.

* `decode_ascii` -- bytes below 128 are their own characters;
* `encode?_eq_none_iff` -- every text has a form but one with a half in it.
-/

namespace StorageBroker.Text.Utf8

/-! ## 1. Reading -/

/-- What a character begun still needs: the count of its bytes to come, the bounds of the next one,
and the bits read so far. -/
structure Pending where
  left : Nat
  low : UInt8
  high : UInt8
  bits : Nat
deriving Repr

/-- What a first byte of several asks for. -/
def first? (b : UInt8) : Option Pending :=
  if b < 0xC2 then none
  else if b < 0xE0 then some ⟨1, 0x80, 0xBF, b.toNat - 0xC0⟩
  else if b == 0xE0 then some ⟨2, 0xA0, 0xBF, 0⟩
  else if b == 0xED then some ⟨2, 0x80, 0x9F, 0xD⟩
  else if b < 0xF0 then some ⟨2, 0x80, 0xBF, b.toNat - 0xE0⟩
  else if b == 0xF0 then some ⟨3, 0x90, 0xBF, 0⟩
  else if b < 0xF4 then some ⟨3, 0x80, 0xBF, b.toNat - 0xF0⟩
  else if b == 0xF4 then some ⟨3, 0x80, 0x8F, 4⟩
  else none

/-- The characters of bytes, up to the first byte that fits nothing, whose place is told; a
character that is not complete at the end is told there. -/
def decodeFrom : Option Pending → (place : Nat) → List UInt8 → List Char × Option Nat
  | none, _, [] => ([], none)
  | some _, i, [] => ([], some i)
  | none, i, b :: bs =>
    if b < 0x80 then
      let (cs, bad) := decodeFrom none (i + 1) bs
      (Char.ofNat b.toNat :: cs, bad)
    else match first? b with
      | some p => decodeFrom (some p) (i + 1) bs
      | none => ([], some i)
  | some p, i, b :: bs =>
    if p.low ≤ b ∧ b ≤ p.high then
      let bits := p.bits * 64 + (b.toNat - 0x80)
      if p.left = 1 then
        let (cs, bad) := decodeFrom none (i + 1) bs
        (Char.ofNat bits :: cs, bad)
      else decodeFrom (some ⟨p.left - 1, 0x80, 0xBF, bits⟩) (i + 1) bs
    else ([], some i)

/-- **The characters of bytes**, with the place of the first byte that fits nothing. -/
def decode (bs : List UInt8) : List Char × Option Nat := decodeFrom none 0 bs

/-- The characters of bytes all of which fit. -/
def decode? (bs : List UInt8) : Option (List Char) :=
  match decode bs with
  | (cs, none) => some cs
  | (_, some _) => none

theorem decodeFrom_ascii {bs : List UInt8} (i : Nat) (h : ∀ b ∈ bs, b < 0x80) :
    decodeFrom none i bs = (bs.map fun b => Char.ofNat b.toNat, none) := by
  induction bs generalizing i with
  | nil => rfl
  | cons b bs ih =>
    rw [decodeFrom, if_pos (h b (by simp)), ih (i + 1) fun x hx => h x (List.mem_cons_of_mem _ hx)]
    rfl

theorem decode_ascii {bs : List UInt8} (h : ∀ b ∈ bs, b < 0x80) :
    decode bs = (bs.map fun b => Char.ofNat b.toNat, none) :=
  decodeFrom_ascii 0 h

/-! ## 2. Writing -/

/-- The UTF-8 form of characters. -/
def encode (cs : List Char) : List UInt8 := cs.flatMap String.utf8EncodeChar

/-- The UTF-8 form of a text; one with a half in it has none. -/
def encode? (t : Text) : Option (List UInt8) := t.string?.map fun s => encode s.toList

theorem encode?_eq_none_iff {t : Text} : encode? t = none ↔ ∃ u, .half u ∈ t.toList := by
  rw [encode?, Option.map_eq_none_iff, string?_eq_none_iff]

theorem encode_append (xs ys : List Char) : encode (xs ++ ys) = encode xs ++ encode ys := by
  simp [encode]

end StorageBroker.Text.Utf8
