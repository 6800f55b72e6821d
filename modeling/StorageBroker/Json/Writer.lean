import StorageBroker.Value.Written
/-!
# Writing JSON documents

Values are written with `", "` between items and `": "` after keys; characters outside printable
ASCII are written as `\u` escapes, those beyond the basic plane as a pair of them, and a half as
the one unit that it is.

* `writeChar_of_plain` -- a printable ASCII character without meaning of its own is written as it
  is.
-/

namespace StorageBroker.Json

/-! ## 1. Texts -/

/-- An escape of one unit. -/
def writeUnit (u : Nat) : List Char := '\\' :: 'u' :: Text.hexDigits 4 u

/-- The form of a scalar. -/
def writeChar (c : Char) : List Char :=
  if c = '"' then ['\\', '"']
  else if c = '\\' then ['\\', '\\']
  else if c = '\n' then ['\\', 'n']
  else if c = '\r' then ['\\', 'r']
  else if c = '\t' then ['\\', 't']
  else if c = '\x08' then ['\\', 'b']
  else if c = '\x0c' then ['\\', 'f']
  else
    let n := c.toNat
    if 32 ≤ n && n < 127 then [c]
    else if n < 0x10000 then writeUnit n
    else writeUnit (0xD800 + (n - 0x10000) / 0x400) ++ writeUnit (0xDC00 + (n - 0x10000) % 0x400)

theorem writeChar_of_plain {c : Char} (h : 32 ≤ c.toNat) (h' : c.toNat < 127) (hq : c ≠ '"')
    (hb : c ≠ '\\') : writeChar c = [c] := by
  have hn : c ≠ '\n' := by rintro rfl; revert h; decide
  have hr : c ≠ '\r' := by rintro rfl; revert h; decide
  have ht : c ≠ '\t' := by rintro rfl; revert h; decide
  have h8 : c ≠ '\x08' := by rintro rfl; revert h; decide
  have hc : c ≠ '\x0c' := by rintro rfl; revert h; decide
  simp [writeChar, hq, hb, hn, hr, ht, h8, hc, h, h']

def writeCharacter : Character → List Char
  | .scalar c => writeChar c
  | .half u => writeUnit u.unit

def writeText (t : Text) : String :=
  String.ofList ('"' :: t.toList.flatMap writeCharacter ++ ['"'])

/-! ## 2. Values -/

/-- The text of a key. A key that is no text is spelled as a value would be. -/
def keyText : Value → Text
  | .text s => s
  | .null => "null"
  | .bool b => if b then "true" else "false"
  | .float x => Number.Shortest.documentFormat.write x
  | v => v.quoted

mutual

/-- **The document of a value.** What has no form in a document is written as a text. -/
def write : Value → String
  | .null => "null"
  | .bool true => "true"
  | .bool false => "false"
  | .int i => toString i
  | .float x => Number.Shortest.documentFormat.write x
  | .text s => writeText s
  | .list xs => "[" ++ ", ".intercalate (writeItems xs) ++ "]"
  | .mapping es => "\x7b" ++ ", ".intercalate (writeEntries es) ++ "\x7d"
  | v => writeText v.plain

def writeItems : List Value → List String
  | [] => []
  | v :: vs => write v :: writeItems vs

def writeEntries : List (Value × Value) → List String
  | [] => []
  | (k, v) :: es => (writeText (keyText k) ++ ": " ++ write v) :: writeEntries es

end

end StorageBroker.Json
