import StorageBroker.Text.Utf8
import StorageBroker.Text.Quoted
/-!
# The encodings of a document

A document is sent as bytes in one of several encodings. A mark at its front tells which one;
without a mark the zero bytes among its first four do, because a document starts with characters of
ASCII, which are padded with zeros in the wider encodings. Bytes that are too few to tell, or that
do not fit what their front tells, are read as plain text: in UTF-8 if they fit it, and else every
byte as the character of its number.

* `ofZeros_of_ne_zero` -- without zero bytes the encoding is UTF-8;
* `units16_flatMap` -- units of two bytes are read back from their bytes, in either order;
* `charactersOf_ascii` -- bytes of ASCII are their own characters.
-/

namespace StorageBroker.Json

open Text (isHighUnit isLowUnit isHalf scalarOfPair)

/-! ## 1. Encodings -/

/-- Which byte of a unit comes first: the one of most or the one of least weight. -/
inductive ByteOrder where
  | big
  | little
deriving DecidableEq, Repr

inductive Encoding where
  | utf8
  | utf16 (order : ByteOrder)
  | utf32 (order : ByteOrder)
deriving DecidableEq, Repr

namespace Encoding

/-- The encoding that a mark at the front tells, with the bytes after the mark. -/
def ofMark? : List UInt8 → Option (Encoding × List UInt8)
  | 0x00 :: 0x00 :: 0xFE :: 0xFF :: rest => some (.utf32 .big, rest)
  | 0xFF :: 0xFE :: 0x00 :: 0x00 :: rest => some (.utf32 .little, rest)
  | 0xEF :: 0xBB :: 0xBF :: rest => some (.utf8, rest)
  | 0xFE :: 0xFF :: rest => some (.utf16 .big, rest)
  | 0xFF :: 0xFE :: rest => some (.utf16 .little, rest)
  | _ => none

/-- The encoding that the zero bytes at the front tell: none, every second one, or three in a row
are known patterns. -/
def ofZeros : List UInt8 → Option Encoding
  | a :: b :: c :: d :: _ =>
    match a == 0, b == 0, c == 0, d == 0 with
    | false, false, false, false => some .utf8
    | true, false, true, false => some (.utf16 .big)
    | false, true, false, true => some (.utf16 .little)
    | true, true, true, false => some (.utf32 .big)
    | false, true, true, true => some (.utf32 .little)
    | _, _, _, _ => none
  | _ => none

/-- The encoding that the front of a document tells, and the bytes that are its characters. -/
def detect? (bs : List UInt8) : Option (Encoding × List UInt8) :=
  ofMark? bs <|> (ofZeros bs).map (·, bs)

theorem ofZeros_of_ne_zero {bs : List UInt8} (hl : 4 ≤ bs.length) (h : ∀ b ∈ bs, b ≠ 0) :
    ofZeros bs = some .utf8 := by
  match bs with
  | a :: b :: c :: d :: rest =>
    have hn : ∀ x ∈ [a, b, c, d], (x == 0) = false := fun x hx =>
      beq_eq_false_iff_ne.2 (h x (by simp at hx ⊢; grind))
    simp [ofZeros, hn]

/-! ## 2. Characters -/

/-- The number that the bytes of a unit spell. -/
def ByteOrder.value : ByteOrder → List UInt8 → Nat
  | .big, bs => bs.foldl (fun n b => n * 256 + b.toNat) 0
  | .little, bs => bs.foldr (fun b n => n * 256 + b.toNat) 0

/-- The units of two bytes; the bytes have to come out even. -/
def units16? (o : ByteOrder) : List UInt8 → Option (List Nat)
  | a :: b :: rest => (units16? o rest).map (ByteOrder.value o [a, b] :: ·)
  | [] => some []
  | _ => none

/-- The two bytes of a unit. -/
def ByteOrder.pair : ByteOrder → UInt16 → List UInt8
  | .big, u => [(u >>> 8).toUInt8, u.toUInt8]
  | .little, u => [u.toUInt8, (u >>> 8).toUInt8]

theorem value_pair (o : ByteOrder) (u : UInt16) :
    ByteOrder.value o (ByteOrder.pair o u) = u.toNat := by
  have h := u.toNat_lt
  cases o <;> simp [ByteOrder.value, ByteOrder.pair, Nat.shiftRight_eq_div_pow] <;> omega

theorem units16_flatMap (o : ByteOrder) (us : List UInt16) :
    units16? o (us.flatMap (ByteOrder.pair o)) = some (us.map UInt16.toNat) := by
  induction us with
  | nil => rfl
  | cons u us ih =>
    have h := value_pair o u
    cases o <;> simp_all [units16?, ByteOrder.pair]

/-- The characters of units of 16 bits; a half alone is no character. -/
def charsOfUnits? : List Nat → Option (List Char)
  | u :: v :: rest =>
    if isHighUnit u && isLowUnit v then (charsOfUnits? rest).map (scalarOfPair u v :: ·)
    else if isHalf u then none
    else (charsOfUnits? (v :: rest)).map (Char.ofNat u :: ·)
  | [u] => if isHalf u then none else some [Char.ofNat u]
  | [] => some []

/-- The characters of units of four bytes, each of which has to be one. -/
def characters32? (o : ByteOrder) : List UInt8 → Option (List Char)
  | a :: b :: c :: d :: rest =>
    let n := ByteOrder.value o [a, b, c, d]
    if n < 0x110000 && !isHalf n then (characters32? o rest).map (Char.ofNat n :: ·) else none
  | [] => some []
  | _ => none

/-- The characters of bytes in an encoding. -/
def characters? : Encoding → List UInt8 → Option (List Char)
  | .utf8, bs => Text.Utf8.decode? bs
  | .utf16 o, bs => units16? o bs >>= charsOfUnits?
  | .utf32 o, bs => characters32? o bs

end Encoding

/-- The characters of bytes that are plain text. -/
def plainCharacters (bs : List UInt8) : List Char :=
  (Text.Utf8.decode? bs).getD (bs.map Text.ofByte)

/-- How many bytes are too few to tell their encoding. -/
def tooFew : Nat := 3

/-- **The characters of a document.** -/
def charactersOf (bs : List UInt8) : List Char :=
  let told := if bs.length ≤ tooFew then none else Encoding.detect? bs
  (told.bind fun d => d.1.characters? d.2).getD (plainCharacters bs)

theorem charactersOf_ascii {bs : List UInt8} (h : ∀ b ∈ bs, b < 0x80 ∧ b ≠ 0) :
    charactersOf bs = bs.map Text.ofByte := by
  have hd : Text.Utf8.decode? bs = some (bs.map Text.ofByte) := by
    simp [Text.Utf8.decode?, Text.Utf8.decode_ascii fun b hb => (h b hb).1, Text.ofByte]
  have hp : plainCharacters bs = bs.map Text.ofByte := by simp [plainCharacters, hd]
  unfold charactersOf
  by_cases hl : bs.length ≤ tooFew
  · simp [hl, hp]
  · have hz := Encoding.ofZeros_of_ne_zero (by simp only [tooFew] at hl; omega)
      fun b hb => (h b hb).2
    have hm : Encoding.ofMark? bs = none := by
      unfold Encoding.ofMark?
      split <;> first | rfl | (exfalso; revert h; simp; try decide)
    simp [hl, Encoding.detect?, hm, hz, Encoding.characters?, hd]

end StorageBroker.Json
