import StorageBroker.Text
/-!
# Reclaim policies

What happens to the stored data when a service instance is deleted. The names are the ones that
settings use.

* `ofName?_name`, `name_injective` -- a policy is told by its name.
-/

namespace StorageBroker

/-- What to do with the stored data of a deleted instance. -/
inductive ReclaimPolicy where
  | fail
  | detach
  | delete
  | retain
deriving DecidableEq, Repr

namespace ReclaimPolicy

/-- Every policy, in the order in which answers list them. -/
def all : List ReclaimPolicy := [.fail, .detach, .delete, .retain]

theorem mem_all (p : ReclaimPolicy) : p ∈ all := by cases p <;> decide

def name : ReclaimPolicy → Text
  | .fail => "Fail"
  | .detach => "Detach"
  | .delete => "Delete"
  | .retain => "Retain"

/-- The policy of that name. -/
def ofName? (s : Text) : Option ReclaimPolicy := all.find? fun p => p.name == s

theorem ofName?_name (p : ReclaimPolicy) : ofName? p.name = some p := by cases p <;> decide

theorem name_injective {p q : ReclaimPolicy} (h : p.name = q.name) : p = q := by
  have := ofName?_name p
  rw [h, ofName?_name] at this
  exact (Option.some.inj this).symm

theorem ofName?_eq_some_iff {s : Text} {p : ReclaimPolicy} :
    ofName? s = some p ↔ p.name = s := by
  constructor
  · intro h
    simpa using List.find?_some h
  · rintro rfl
    exact ofName?_name p

/-- The policy that applies when nothing selects one. -/
def standard : ReclaimPolicy := .fail

/-- Why a requested policy is refused. -/
inductive Failure where
  | malformedPolicy
  | malformedAllowed
  | rejected
deriving DecidableEq, Repr

namespace Failure

def all : List Failure := [.malformedPolicy, .malformedAllowed, .rejected]

def name : Failure → Text
  | .malformedPolicy => "malformed-policy"
  | .malformedAllowed => "malformed-allowed-policies"
  | .rejected => "rejected"

def ofName? (s : Text) : Option Failure := all.find? fun f => f.name == s

theorem ofName?_name (f : Failure) : ofName? f.name = some f := by cases f <;> decide

end Failure

end ReclaimPolicy

end StorageBroker
