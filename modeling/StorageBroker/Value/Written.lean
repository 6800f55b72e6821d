import StorageBroker.Value
import StorageBroker.Number.Shortest
import StorageBroker.Text.Quoted
/-!
# Values in messages

A message shows a value in one of two ways: `quoted`, where a text stands between quotes, also
inside lists, mappings and records; and `plain`, where a text stands as it is.

* `plain_text` -- a text is shown as it is;
* `plain_eq_quoted` -- nothing but texts, policies, dates and moments differs between the
  two.
-/

namespace StorageBroker.Value

/-- Parts with a comma and a blank between them. -/
def commaSeparated (parts : List Text) : Text := Text.intercalate ", " parts

mutual

/-- The form of a value inside a message that quotes texts. -/
def quoted : Value → Text
  | .null => "None"
  | .bool true => "True"
  | .bool false => "False"
  | .int i => toString i
  | .float x => Number.Shortest.plainFormat.write x
  | .text s => String.ofList (Text.quote s.toList)
  | .bytes bs => String.ofList (Text.quoteBytes bs)
  | .date d => d.quoted
  | .moment m => m.quoted
  | .list xs => "[" ++ commaSeparated (quotedList xs) ++ "]"
  | .tuple [x] => "(" ++ quoted x ++ ",)"
  | .tuple xs => "(" ++ commaSeparated (quotedList xs) ++ ")"
  | .set [] => "set()"
  | .set xs => "\x7b" ++ commaSeparated (quotedList xs) ++ "\x7d"
  | .mapping es => "\x7b" ++ commaSeparated (quotedEntries es) ++ "\x7d"
  | .policy p => "<ReclaimPolicy." ++ p.name ++ ": '" ++ p.name ++ "'>"
  | .record k vs => k.name ++ "(" ++ commaSeparated (quotedFields k.fields vs) ++ ")"

def quotedList : List Value → List Text
  | [] => []
  | v :: vs => quoted v :: quotedList vs

def quotedEntries : List (Value × Value) → List Text
  | [] => []
  | (k, v) :: es => (quoted k ++ ": " ++ quoted v) :: quotedEntries es

def quotedFields : List Text → List Value → List Text
  | f :: fs, v :: vs => (f ++ "=" ++ quoted v) :: quotedFields fs vs
  | _, _ => []

end

/-- The form of a value inside a message that shows texts as they are. -/
def plain : Value → Text
  | .text s => s
  | .policy p => "ReclaimPolicy." ++ p.name
  | .date d => d.text
  | .moment m => m.text
  | v => quoted v

theorem plain_text (s : Text) : plain (.text s) = s := rfl

theorem plain_eq_quoted {v : Value} (ht : ∀ s, v ≠ .text s) (hp : ∀ p, v ≠ .policy p)
    (hd : ∀ d, v ≠ .date d) (hm : ∀ m, v ≠ .moment m) : v.plain = v.quoted := by
  cases v with
  | text s => exact absurd rfl (ht s)
  | policy p => exact absurd rfl (hp p)
  | date d => exact absurd rfl (hd d)
  | moment m => exact absurd rfl (hm m)
  | _ => rfl

end StorageBroker.Value
