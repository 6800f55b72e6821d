import StorageBroker.Settings.Names
import StorageBroker.Fault
/-!
# Checking settings

Before anything is changed on the storage, the sizes of the quota and the periods of the retention
settings are read as integers; a setting that is no integer stops the request. The settings are
checked in a fixed order, and each is replaced as soon as it is read, so what is left of the
parameters after a failure tells how far the check came.

* `checkInteger_int` -- an integer passes unchanged;
* `Checked` -- the parameters as they stand, with the fault that stopped the check, if any.
-/

namespace StorageBroker.Settings

def invalidQuota : Text := "Invalid quota: "
def invalidRetention : Text := "Invalid retention: "

/-! ## 1. One value -/

/-- **An integer setting.** A truth value is none, though it reads as one. -/
def checkInteger (message : Text) (v : Value) : Except Fault Value :=
  match v with
  | .bool _ => .error (.broker (some (message ++ v.quoted)) none)
  | v => match v.toInteger with
    | .ok i => .ok (.int i)
    | .error (.kind d) =>
      .error (.broker (some (message ++ v.quoted)) (some (.malformed (.kind d))))
    | .error (.content d) =>
      .error (.broker (some (message ++ v.quoted)) (some (.malformed (.content d))))
    | .error m => .error (.malformed m)

theorem checkInteger_int (message : Text) (i : Int) :
    checkInteger message (.int i) = .ok (.int i) := rfl

/-- An entry of a mapping as an integer, if it is there and not absent. -/
def checkEntry (message name : Text) (m : Mapping) : Except Fault Mapping :=
  match Mapping.get m name with
  | none => .ok m
  | some v => if v.isNull then .ok m else (checkInteger message v).map (Mapping.set m name)

/-- Every value of a mapping as an integer. -/
def checkValues (message : Text) (m : Mapping) : Except Fault Mapping :=
  m.mapM fun e => (checkInteger message e.2).map fun v => (e.1, v)

/-! ## 2. One setting -/

/-- The quota: a mapping with an integer limit and an integer warning size. -/
def checkQuota (v : Value) : Except Fault Value :=
  match v with
  | .mapping m => do
    let m ← checkEntry invalidQuota limit m
    let m ← checkEntry invalidQuota warn m
    return .mapping m
  | v => .error (.broker (some (invalidQuota ++ v.quoted)) none)

/-- The retention classes: a mapping from names to integer periods. -/
def checkRetention (v : Value) : Except Fault Value :=
  match v with
  | .mapping m => (checkValues invalidRetention m).map .mapping
  | v => .error (.broker (some (invalidRetention ++ v.quoted)) none)

/-! ## 3. All settings -/

/-- Parameters as a check leaves them, and the fault that stopped it. -/
structure Checked where
  parameters : Value
  fault : Option Fault

/-- The settings that are checked, in order. -/
def checks : List (Text × (Value → Except Fault Value)) :=
  [(quota, checkQuota), (defaultRetention, checkInteger invalidRetention),
   (retention, checkRetention)]

/-- Checks one setting after another until one fails. -/
def checkAll : List (Text × (Value → Except Fault Value)) → Mapping → Checked
  | [], m => ⟨.mapping m, none⟩
  | (name, check) :: rest, m =>
    match Mapping.get m name with
    | none => checkAll rest m
    | some v =>
      if v.isNull then checkAll rest m
      else match check v with
        | .ok w => checkAll rest (Mapping.set m name w)
        | .error f => ⟨.mapping m, some f⟩

/-- **The check of merged parameters.** -/
def check (parameters : Value) : Checked :=
  match parameters with
  | .mapping m => checkAll checks m
  | v => ⟨v, some (.malformed (.lacks v "get"))⟩

/-- A size of a checked quota, `unset` where it is missing. -/
def sizeOr (m : Mapping) (name : Text) : Value :=
  match Mapping.get m name with
  | none => .int unset
  | some v => if v.isNull then .int unset else v

end StorageBroker.Settings
