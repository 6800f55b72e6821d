import StorageBroker.Value
/-!
# Nesting

How deep the parts of a value lie: a bound for whatever goes down from a value to its parts.

* `nesting_lt_of_mem_list`, `nesting_lt_of_mem_mapping` -- a part lies less deep than the whole;
* `nesting_nested` -- a value of any nesting.
-/

namespace StorageBroker.Value

mutual

/-- How deep values lie in each other. -/
def nesting : Value → Nat
  | .list xs | .tuple xs | .set xs | .record _ xs => nestingOf xs + 1
  | .mapping es => nestingIn es + 1
  | _ => 0

def nestingOf : List Value → Nat
  | [] => 0
  | x :: xs => max (nesting x) (nestingOf xs)

def nestingIn : List (Value × Value) → Nat
  | [] => 0
  | (_, v) :: es => max (nesting v) (nestingIn es)

end

theorem nesting_le_nestingOf {v : Value} {vs : List Value} (h : v ∈ vs) :
    v.nesting ≤ nestingOf vs := by
  induction vs with
  | nil => simp at h
  | cons x xs ih =>
    unfold nestingOf
    rcases List.mem_cons.1 h with rfl | h
    · omega
    · have := ih h
      omega

theorem nesting_lt_of_mem_list {v : Value} {vs : List Value} (h : v ∈ vs) :
    v.nesting < (Value.list vs).nesting := by
  have := nesting_le_nestingOf h
  simp only [nesting]
  omega

theorem nesting_le_nestingIn {e : Value × Value} {es : List (Value × Value)} (h : e ∈ es) :
    e.2.nesting ≤ nestingIn es := by
  induction es with
  | nil => simp at h
  | cons x xs ih =>
    unfold nestingIn
    rcases List.mem_cons.1 h with rfl | h
    · omega
    · have := ih h
      omega

theorem nesting_lt_of_mem_mapping {e : Value × Value} {es : List (Value × Value)} (h : e ∈ es) :
    e.2.nesting < (Value.mapping es).nesting := by
  have := nesting_le_nestingIn h
  simp only [nesting]
  omega

/-- Lists in each other. -/
def nested : (depth : Nat) → Value
  | 0 => .null
  | depth + 1 => .list [nested depth]

theorem nesting_nested (depth : Nat) : (nested depth).nesting = depth := by
  induction depth with
  | zero => rfl
  | succ n ih => simp [nested, nesting, nestingOf, ih]

end StorageBroker.Value
