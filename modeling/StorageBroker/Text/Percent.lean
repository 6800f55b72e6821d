import StorageBroker.Text.Utf8
/-!
# Percent encoding

A part of a resource path is sent with every byte of its UTF-8 form outside `A-Z a-z 0-9 _ . - ~`
written as a percent sign and two hexadecimal digits.

* `encodeByte_of_unreserved`, `encodeByte_of_reserved` -- the two ways a byte is written;
* `decode` reads the form back.
-/

namespace StorageBroker.Text.Percent

/-- The ASCII characters that stand for themselves. -/
def isUnreserved (c : Char) : Bool := c.isAlphanum || c == '_' || c == '.' || c == '-' || c == '~'

/-- A hexadecimal digit in capital letters. -/
def digit (n : Nat) : Char :=
  if n < 10 then Char.ofNat (48 + n) else Char.ofNat (55 + n)

def digitValue? (c : Char) : Option Nat :=
  if '0' ≤ c ∧ c ≤ '9' then some (c.toNat - 48)
  else if 'A' ≤ c ∧ c ≤ 'F' then some (c.toNat - 55)
  else if 'a' ≤ c ∧ c ≤ 'f' then some (c.toNat - 87)
  else none

theorem digitValue?_digit : ∀ n < 16, digitValue? (digit n) = some n := by decide

/-- The written form of one byte. -/
def encodeByte (b : UInt8) : List Char :=
  let c := Char.ofNat b.toNat
  if b < 128 && isUnreserved c then [c] else ['%', digit (b.toNat / 16), digit (b.toNat % 16)]

theorem encodeByte_of_unreserved {b : UInt8} (hb : b < 128)
    (h : isUnreserved (Char.ofNat b.toNat)) : encodeByte b = [Char.ofNat b.toNat] := by
  simp [encodeByte, hb, h]

theorem encodeByte_of_reserved {b : UInt8} (h : isUnreserved (Char.ofNat b.toNat) = false) :
    encodeByte b = ['%', digit (b.toNat / 16), digit (b.toNat % 16)] := by
  simp [encodeByte, h]

/-- The written form of a text. -/
def encode (cs : List Char) : List Char := (Utf8.encode cs).flatMap encodeByte

example : encode [Char.ofNat 0xDD800] = "%F3%9D%A0%80".toList := by decide

/-- The bytes that a written form stands for; a percent sign not followed by two digits stands
for itself. -/
def decodeBytes : List Char → List UInt8
  | [] => []
  | '%' :: high :: low :: rest =>
    match digitValue? high, digitValue? low with
    | some h, some l => UInt8.ofNat (16 * h + l) :: decodeBytes rest
    | _, _ => String.utf8EncodeChar '%' ++ decodeBytes (high :: low :: rest)
  | c :: rest => String.utf8EncodeChar c ++ decodeBytes rest

/-- The text that a written form stands for, if its bytes are UTF-8. -/
def decode (cs : List Char) : Option Text :=
  (String.fromUTF8? ⟨(decodeBytes cs).toArray⟩).map .plain

theorem encode_append (xs ys : List Char) : encode (xs ++ ys) = encode xs ++ encode ys := by
  simp [encode, Utf8.encode_append]

end StorageBroker.Text.Percent
