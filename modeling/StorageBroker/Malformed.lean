import StorageBroker.Value.Written
/-!
# Malformed data

The ways in which untyped data fails an operation that needs a certain shape. Each cause keeps the
text that a report of it shows.
-/

namespace StorageBroker

/-- Why a piece of data cannot be used. -/
inductive Malformed where
  /-- A value of another kind is needed. -/
  | kind (detail : Text)
  /-- The kind fits and the content does not. -/
  | content (detail : Text)
  /-- Values of the kind lack the operation. -/
  | operation (detail : Text)
  /-- A mapping lacks the key. -/
  | key (k : Value)
  /-- A list has no item at the place. -/
  | index (detail : Text)
  /-- A number is beyond the range of the result. -/
  | magnitude (detail : Text)
  /-- A setting may not be given such a value. -/
  | assertion (detail : Text)
  /-- Bytes do not form a text. -/
  | encoding (detail : Text)
  /-- A text has no form in bytes. -/
  | unencodable (detail : Text)
  /-- A result is too large to be held. -/
  | space (detail : Text)
  /-- Data is nested too deeply. -/
  | depth (detail : Text)
  /-- The operation was stopped from outside. -/
  | stopped (detail : Text)
deriving Inhabited

namespace Value

/-- The word for the kind of a value in reports. -/
def kindName : Value → Text
  | .null => "NoneType"
  | .bool _ => "bool"
  | .int _ => "int"
  | .float _ => "float"
  | .text _ => "str"
  | .bytes _ => "bytes"
  | .date _ => "date"
  | .moment _ => "datetime"
  | .list _ => "list"
  | .tuple _ => "tuple"
  | .set _ => "set"
  | .mapping _ => "dict"
  | .policy _ => "ReclaimPolicy"
  | .record k _ => k.name

end Value

namespace Malformed

/-- The text that a report shows; a missing key is shown quoted. -/
def text : Malformed → Text
  | .kind detail | .content detail | .operation detail | .index detail => detail
  | .magnitude detail | .assertion detail | .encoding detail | .stopped detail => detail
  | .unencodable detail | .space detail | .depth detail => detail
  | .key k => k.quoted

/-- The value has no operation of that name. -/
def lacks (v : Value) (name : Text) : Malformed :=
  .operation ("'" ++ v.kindName ++ "' object has no attribute '" ++ name ++ "'")

/-- The value is no sequence of items. -/
def notIterable (v : Value) : Malformed :=
  .kind ("'" ++ v.kindName ++ "' object is not iterable")

/-- The value cannot be the key of a mapping. -/
def noKey (v : Value) : Malformed :=
  .kind ("unhashable type: '" ++ v.kindName ++ "'")

/-- The value has no entries that a name selects. -/
def noEntries (v : Value) : Malformed :=
  match v with
  | .text _ => .kind "string indices must be integers, not 'str'"
  | .bytes _ => .kind "byte indices must be integers or slices, not str"
  | .list _ => .kind "list indices must be integers or slices, not str"
  | .tuple _ => .kind "tuple indices must be integers or slices, not str"
  | v => .kind ("'" ++ v.kindName ++ "' object is not subscriptable")

end Malformed

end StorageBroker
