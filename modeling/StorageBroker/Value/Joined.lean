import StorageBroker.Malformed
/-!
# Joining values

Names and addresses are built by putting one value behind another. Texts, bytes, lists and
tuples are joined to values of their own kind only; two numbers are added.

* `joined_text` -- two texts;
* `joined_text_eq_ok` -- a text is joined to nothing but a text.
-/

namespace StorageBroker

namespace Number

/-- The sum of two numbers; none when an integer is beyond every double. -/
def add (a b : Number) : Option Number :=
  match a, b with
  | .int i, .int j => some (.int (i + j))
  | a, b => do
    let x ← a.toFloat?
    let y ← b.toFloat?
    return .float (x + y)

def toValue : Number → Value
  | .int i => .int i
  | .float x => .float x

end Number

namespace Value

/-- The report of two values that cannot be joined. -/
def notJoined (v w : Value) : Malformed :=
  .kind ("unsupported operand types: '" ++ v.kindName ++ "' and '" ++ w.kindName ++ "'")

/-- **The second value put behind the first.** -/
def joined (v w : Value) : Except Malformed Value :=
  match v, w with
  | .text s, .text t => .ok (.text (s ++ t))
  | .bytes a, .bytes b => .ok (.bytes (a ++ b))
  | .list xs, .list ys => .ok (.list (xs ++ ys))
  | .tuple xs, .tuple ys => .ok (.tuple (xs ++ ys))
  | v, w => match v.number?, w.number? with
    | some a, some b => match a.add b with
      | some n => .ok n.toValue
      | none => .error (.magnitude "int too large to convert to float")
    | _, _ => .error (notJoined v w)

theorem joined_text (s t : Text) : joined (.text s) (.text t) = .ok (.text (s ++ t)) := rfl

theorem joined_text_eq_ok {s : Text} {w v : Value} :
    joined (.text s) w = .ok v ↔ ∃ t, w = .text t ∧ v = .text (s ++ t) := by
  constructor
  · intro h
    cases w <;> simp_all [joined, number?]
  · rintro ⟨t, rfl, rfl⟩
    rfl

end Value

end StorageBroker
