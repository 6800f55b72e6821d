import StorageBroker.Remote
import StorageBroker.Record
import StorageBroker.Text.Template
/-!
# The management API

What the calls for the different resources have in common: they name a resource by a path with
holes, send records as bodies and read records from answers, and ask whether a resource exists by
reading it.

* `existence` -- a resource is reported absent only where the call for it failed as such.
-/

namespace StorageBroker.Management

variable {σ α : Type}

/-- Calls of the management API. -/
abbrev Calls (σ α : Type) := Action Remote σ α

/-- The path of a template and its arguments. -/
def path (t : Text.Template) (args : List Value) : Calls σ Value := do
  return .text (← t.fill args)

/-- The statuses of a removal: done, or done with nothing to say. -/
def removed : Value := .list [.int 200, .int 204]

/-- Makes a call for its effect. -/
def perform (c : Call) : Calls σ Unit := do
  let _ ← Remote.call c

/-- Makes a call for the document it answers with. -/
def fetch (c : Call) : Calls σ Value := do
  return (← Remote.call { c with parse := true }).document

/-- **Whether a resource exists**: reading it succeeds, or fails because there is none. -/
def existence (c : Call) : Calls σ Bool := do
  match ← (perform c : Calls σ Unit).attempt with
  | .ok _ => return true
  | .error f => if f.isAbsence then return false else throw f

/-- The data of a body, which has to be a record. -/
def bodyOf (v : Value) : Except Malformed Value :=
  match Record.ofValue? v with
  | some r => r.toData
  | none => .error (.lacks v "to_data")

/-- The records of a kind in an entry of a document. -/
def recordsIn (kind : RecordKind) (document : Value) (name : Text) :
    Except Malformed (List Record) := do
  (← Record.itemsOrNone (← document.get name)).mapM (Record.ofData kind)

end StorageBroker.Management
