import StorageBroker.Number
import StorageBroker.Calendar
import StorageBroker.ReclaimPolicy
import StorageBroker.Record.Kind
/-!
# Values

Settings, request parameters and the answers of the management API are untyped data. This file
fixes their one type and two readings of it: which values count as true, and when two values are
equal. Numbers are equal across kinds, so `1`, `1.0` and `true` are one key of a mapping; NaN
equals nothing.

* `truthy_eq_false_iff` -- the values that count as false;
* `equal_text_iff`, `equal_null_iff` -- a text equals only itself, and so does the absent value.
-/

namespace StorageBroker

/-! ## 1. The type -/

/-- A piece of untyped data. A mapping keeps its entries in order of first insertion, and a set its
members; a tuple is a list that cannot change; `record` holds one value for each field of its
kind. -/
inductive Value where
  | null
  | bool (b : Bool)
  | int (i : Int)
  | float (x : Float)
  | text (s : Text)
  | bytes (bs : List UInt8)
  | date (d : Date)
  | moment (m : Moment)
  | list (xs : List Value)
  | tuple (xs : List Value)
  | set (xs : List Value)
  | mapping (entries : List (Value × Value))
  | policy (p : ReclaimPolicy)
  | record (kind : RecordKind) (fields : List Value)
deriving Inhabited

namespace Value

instance : Coe Text Value := ⟨.text⟩

/-- The number that a value is; the truth values are 0 and 1. -/
def number? : Value → Option Number
  | .bool b => some (.int (if b then 1 else 0))
  | .int i => some (.int i)
  | .float x => some (.float x)
  | _ => none

def isNull : Value → Bool
  | .null => true
  | _ => false

theorem isNull_iff {v : Value} : v.isNull ↔ v = .null := by cases v <;> simp [isNull]

/-- A path is told by its value. -/
theorem text_plain_inj {p q : String} (h : text p = text q) : p = q :=
  Text.plain.inj (Value.text.inj h)

/-! ## 2. Truth -/

/-- **What counts as true**: everything but the absent value, zero and what is empty. -/
def truthy : Value → Bool
  | .null => false
  | .bool b => b
  | .int i => i != 0
  | .float x => !(x == 0)
  | .text s => s != ""
  | .bytes bs => !bs.isEmpty
  | .list xs | .tuple xs | .set xs => !xs.isEmpty
  | .mapping es => !es.isEmpty
  | .date _ | .moment _ => true
  | .policy _ => true
  | .record .. => true

theorem truthy_eq_false_iff {v : Value} : v.truthy = false ↔
    v = .null ∨ v = .bool false ∨ v = .int 0 ∨ (∃ x, v = .float x ∧ (x == 0) = true) ∨
      v = .text "" ∨ v = .bytes [] ∨ v = .list [] ∨ v = .tuple [] ∨ v = .set [] ∨
      v = .mapping [] := by
  cases v <;> simp [truthy]

/-- The value itself if it counts as true, else another one. -/
def orElse (v w : Value) : Value := if v.truthy then v else w

theorem orElse_of_truthy {v : Value} (w : Value) (h : v.truthy) : v.orElse w = v := by
  simp [orElse, h]

/-! ## 3. Equality -/

/-- Equality of numbers across kinds. -/
def sameNumber (a b : Number) : Bool :=
  match a.fraction?, b.fraction? with
  | some (n, d), some (m, e) => n * e == m * d
  | none, none => match a, b with
    | .float x, .float y => x == y
    | _, _ => false
  | _, _ => false

mutual

/-- **Equality of values.** Lists and tuples are compared in order, mappings and sets regardless of
order, records by kind and fields. -/
def equal : Value → Value → Bool
  | .null, .null => true
  | .text s, .text t => s == t
  | .bytes a, .bytes b => a == b
  | .policy p, .policy q => p == q
  | .date d, .date e => d == e
  | .moment m, .moment n => m.same n
  | .list xs, .list ys => equalList xs ys
  | .tuple xs, .tuple ys => equalList xs ys
  | .set xs, .set ys => xs.length == ys.length && equalAmong xs ys
  | .mapping xs, .mapping ys => xs.length == ys.length && equalWithin xs ys
  | .record k xs, .record l ys => k == l && equalList xs ys
  | .bool a, b => match b.number? with
    | some n => sameNumber (.int (if a then 1 else 0)) n
    | none => false
  | .int i, b => match b.number? with
    | some n => sameNumber (.int i) n
    | none => false
  | .float x, b => match b.number? with
    | some n => sameNumber (.float x) n
    | none => false
  | _, _ => false

/-- Equality item by item. -/
def equalList : List Value → List Value → Bool
  | [], [] => true
  | x :: xs, y :: ys => equal x y && equalList xs ys
  | _, _ => false

/-- Every value of the first list is one of the second. -/
def equalAmong : List Value → List Value → Bool
  | [], _ => true
  | x :: xs, ys => ys.any (fun y => equal x y) && equalAmong xs ys

/-- Every entry of the first mapping is one of the second. -/
def equalWithin : List (Value × Value) → List (Value × Value) → Bool
  | [], _ => true
  | (k, v) :: rest, es => es.any (fun e => equal k e.1 && equal v e.2) && equalWithin rest es

end

theorem equal_text_iff {s : Text} {v : Value} : equal (.text s) v ↔ v = .text s := by
  cases v <;> simp [equal, @eq_comm _ s]

theorem equal_null_iff {v : Value} : equal .null v ↔ v = .null := by
  cases v <;> simp [equal]

theorem equal_policy_iff {p : ReclaimPolicy} {v : Value} : equal (.policy p) v ↔ v = .policy p := by
  cases v <;> simp [equal, @eq_comm _ p]

theorem equal_int_int {i j : Int} : equal (.int i) (.int j) = decide (i = j) := by
  by_cases h : i = j <;> simp [equal, number?, sameNumber, Number.fraction?, h]

mutual

/-- Whether a mapping can have the value as a key: what can change is none, and neither is a tuple
that holds such a value. -/
def isKey : Value → Bool
  | .list _ | .set _ | .mapping _ | .record .. => false
  | .tuple xs => areKeys xs
  | _ => true

def areKeys : List Value → Bool
  | [] => true
  | x :: xs => isKey x && areKeys xs

end

end Value

end StorageBroker
