import StorageBroker.Malformed
/-!
# Calls by name

A document can name what it calls and list the arguments. A table tells the names that there are,
and how many arguments each of them takes.

* `check_eq_ok_iff` -- a call passes exactly if the first entry with its name allows the count.
-/

namespace StorageBroker

/-- The names that can be called, by the least and the most arguments that they take. -/
abbrev CallTable := List (Nat × Nat × List Text)

namespace CallTable

/-- Checks a call by its name and the number of its arguments. -/
def check (table : CallTable) (name : Text) (count : Nat) : Except Malformed Unit :=
  match table.find? fun e => e.2.2.contains name with
  | none => .error (.operation ("there is nothing named '" ++ name ++ "'"))
  | some (least, most, _) =>
    if least ≤ count ∧ count ≤ most then .ok ()
    else .error (.kind (name ++ "() takes another number of arguments"))

theorem check_eq_ok_iff (table : CallTable) (name : Text) (count : Nat) :
    table.check name count = .ok () ↔
      ∃ e, (table.find? fun e => e.2.2.contains name) = some e ∧ e.1 ≤ count ∧ count ≤ e.2.1 := by
  unfold check
  cases table.find? fun e => e.2.2.contains name with
  | none => simp
  | some e =>
    obtain ⟨least, most, names⟩ := e
    by_cases h : least ≤ count ∧ count ≤ most <;> simp [h]

end CallTable

end StorageBroker
