import StorageBroker.Value.Written
import StorageBroker.Value.Mapping
import StorageBroker.Number.IntegerText
/-!
# Reading integers

Settings give integers as numbers or as text. A text or bytes hold their digits; a double is cut
toward zero.

* `toInteger_int` -- an integer is itself, so a second reading changes nothing.
-/

namespace StorageBroker

namespace Value

/-- The report of a text or bytes that hold no integer. -/
def noInteger (v : Value) : Malformed :=
  .content ("invalid literal for int() with base 10: " ++ v.quoted)

/-- **The integer that a value stands for.** -/
def toInteger (v : Value) : Except Malformed Int :=
  match v with
  | .int i => .ok i
  | .bool b => .ok (if b then 1 else 0)
  | .float x => match Dyadic.ofFloat? x with
    | some d => .ok d.truncate
    | none =>
      if x.isNaN then .error (.content "cannot convert float NaN to integer")
      else .error (.magnitude "cannot convert float infinity to integer")
  | .text s => match IntegerText.ofText? s with
    | some i => .ok i
    | none => .error (noInteger v)
  | .bytes bs => match IntegerText.readAscii (bs.map Text.ofByte) with
    | some i => .ok i
    | none => .error (noInteger v)
  | v => .error (.kind
      ("int() argument must be a string, a bytes-like object or a real number, not '"
        ++ v.kindName ++ "'"))

theorem toInteger_int (i : Int) : toInteger (.int i) = .ok i := rfl

end Value

end StorageBroker
