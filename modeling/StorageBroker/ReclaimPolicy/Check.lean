import StorageBroker.Settings.Names
import StorageBroker.Value.Mapping
import StorageBroker.Text.Blank
/-!
# Choosing a reclaim policy

A request may ask for a policy and the administrator may restrict the choice. The requested policy
is a name or a policy, the allowed ones are a list of such, or a text of names with commas between
them; where nothing is said, a default is taken and every policy is allowed.

* `Check.ofParameters` -- what is wrong with a request, told in a fixed order: the requested policy,
  the list of allowed ones, and the one not being among the others;
* `parse_policy`, `parse_name` -- a policy and its name are read as that policy.
-/

namespace StorageBroker.ReclaimPolicy

/-! ## 1. Reading policies -/

/-- The report of what is no policy. -/
def unknown (v : Value) : Malformed := .content ("Unknown reclaim policy: " ++ v.plain)

/-- The policy that a value names. -/
def parse (v : Value) : Except Malformed ReclaimPolicy :=
  match v with
  | .policy p => .ok p
  | .text s => match ofName? s with
    | some p => .ok p
    | none => .error (unknown v)
  | v => .error (unknown v)

theorem parse_policy (p : ReclaimPolicy) : parse (.policy p) = .ok p := rfl

theorem parse_name (p : ReclaimPolicy) : parse (.text p.name) = .ok p := by
  simp [parse, ofName?_name]

/-- Request parameters, where nothing at all counts as no parameters. -/
def settingOf (parameters : Value) (name : Text) (fallback : Value) : Except Malformed Value :=
  if parameters.truthy then parameters.getD name fallback else .ok fallback

/-- The policy that parameters ask for, else the default. -/
def requested (parameters default : Value) : Except Malformed Value := do
  let v ← settingOf parameters Settings.reclaimPolicy .null
  if v.isNull then return default
  return .policy (← parse v)

/-- The names in a text, without blanks around them and without blank ones. -/
def namesIn (cs : List Character) : List (List Character) :=
  ((Text.splitOn (.scalar ',') cs).map Text.strip).filter fun name => !name.isEmpty

/-- The values that list the allowed policies. -/
def allowedItems (v : Value) : Except Malformed (List Value) :=
  match v with
  | .text s => .ok ((namesIn s.toList).map fun name => .text (Text.ofList name))
  | v => v.items

/-- The policies that parameters allow, all of them when they do not say. -/
def allowed (parameters : Value) : Except Malformed (List ReclaimPolicy) := do
  let v ← settingOf parameters Settings.allowedReclaimPolicies .null
  if v.isNull then return all
  (← allowedItems v).mapM parse

/-! ## 2. The check -/

/-- The outcome of a check: what was asked for, what it comes to, what is allowed, and what is
wrong, if anything. -/
structure Check where
  policy : Value
  allowed : Option (List ReclaimPolicy)
  failure : Option Failure
  value : Value

namespace Check

def ok (c : Check) : Bool := c.failure.isNone

/-- The name of a policy instead of the policy itself. -/
def named (v : Value) : Value :=
  match v with
  | .policy p => .text p.name
  | v => v

/-- Whether a value is one of the policies. -/
def isAmong (v : Value) (ps : List ReclaimPolicy) : Bool := ps.any fun p => v.equal (.policy p)

/-- **The check of request parameters against what they allow.** -/
def ofParameters (parameters default : Value) : Except Malformed Check := do
  let value := named (← settingOf parameters Settings.reclaimPolicy default)
  match requested parameters default with
  | .error (.content _) => return ⟨.null, none, some .malformedPolicy, value⟩
  | .error m => throw m
  | .ok policy =>
    match ReclaimPolicy.allowed parameters with
    | .error (.content _) | .error (.kind _) =>
      return ⟨policy, none, some .malformedAllowed, value⟩
    | .error m => throw m
    | .ok ps =>
      return ⟨policy, some ps, if isAmong policy ps then none else some .rejected, value⟩

end Check

/-- Whether parameters ask for nothing that they do not allow. -/
def isAllowed (parameters default : Value) : Except Malformed Bool :=
  (Check.ofParameters parameters default).map Check.ok

end StorageBroker.ReclaimPolicy
