import StorageBroker.Record
import StorageBroker.Value.Nesting
/-!
# Equality of records

Two records are equal if they are of one kind and have equal data. Writing the data of an access
list can fail, and so can the comparison; it looks at no more than it has to, in order.

* `same_of_not_record` -- a record equals nothing but a record;
* `sameWithin_of_kind_ne` -- and none of another kind.
-/

namespace StorageBroker

namespace Value

/-- Equality of values that may hold records, down to a depth: of two records that of their data,
of two mappings that of the entries of the first one, in order. -/
def sameWithin : (depth : Nat) → Value → Value → Except Malformed Bool
  | 0, a, b => .ok (a.equal b)
  | depth + 1, a, b => match a, b with
    | .record k xs, .record l ys =>
      if k = l then do
        let m ← Record.dataOf (.record k xs)
        let n ← Record.dataOf (.record l ys)
        sameWithin depth m n
      else .ok false
    | .list xs, .list ys =>
      if xs.length = ys.length then (xs.zip ys).allM fun e => sameWithin depth e.1 e.2
      else .ok false
    | .tuple xs, .tuple ys => do
      if ← (xs.zip ys).allM fun e => sameWithin depth e.1 e.2 then return xs.length == ys.length
      else return false
    | .mapping m, .mapping n =>
      if m.length = n.length then
        m.allM fun e => match Mapping.find? n e.1 with
          | some w => sameWithin depth e.2 w
          | none => .ok false
      else .ok false
    | a, b => .ok (a.equal b)

theorem sameWithin_of_kind_ne {k l : RecordKind} (h : k ≠ l) (depth : Nat) (xs ys : List Value) :
    sameWithin depth (.record k xs) (.record l ys) = .ok false := by
  cases depth <;> simp [sameWithin, h, equal]

end Value

namespace Record

/-- **Whether a value is a record of the same kind with equal data.** The data of an access list is
at most twice as deep as the list itself, and every record takes a step of its own. -/
def same (r : Record) (v : Value) : Except Malformed Bool :=
  r.toValue.sameWithin (4 * r.toValue.nesting + 4) v

theorem same_of_not_record (r : Record) {v : Value} (h : ofValue? v = none) :
    r.same v = .ok false := by
  unfold same toValue
  cases v <;> simp_all [ofValue?, Value.sameWithin, Value.equal]

end Record

end StorageBroker
