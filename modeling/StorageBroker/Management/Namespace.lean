import StorageBroker.Management
import StorageBroker.Record.Parameters
/-!
# Namespaces

The calls for namespaces and for their retention classes, which are resources of their own below
the namespace.
-/

namespace StorageBroker.Management.Namespace

variable {σ : Type}

/-- The path of a namespace, followed by a part of it. -/
def resource (part : String) : Text.Template :=
  [.literal "/object/namespaces/namespace/".toList, .hole, .literal part.toList]

def self : Text.Template := resource ""
def deactivation : Text.Template := resource "/deactivate"
def quota : Text.Template := resource "/quota"
def retention : Text.Template := resource "/retention"

/-- The path of a retention class. -/
def retentionClass : Text.Template := resource "/retention/" ++ [.hole]

def exist (ns : Value) : Calls σ Bool := do
  existence { path := ← path self [ns] }

/-- Creates the namespace that a record describes. -/
def create (ns : Value) : Calls σ Unit := do
  perform { method := "POST", path := .text "/object/namespaces/namespace", body := ← bodyOf ns }

def update (ns changes : Value) : Calls σ Unit := do
  let p ← path self [ns]
  perform { method := "PUT", path := p, body := ← bodyOf changes }

def delete (ns : Value) : Calls σ Unit := do
  perform { method := "POST", path := ← path deactivation [ns] }

def createQuota (ns sizes : Value) : Calls σ Unit := do
  let p ← path quota [ns]
  perform { method := "PUT", path := p, body := ← bodyOf sizes }

def retentionExist (ns name : Value) : Calls σ Bool := do
  existence { path := ← path retentionClass [ns, name] }

def createRetention (ns name period : Value) : Calls σ Unit := do
  perform
    { method := "POST", path := ← path retention [ns],
      body := (Record.retentionClass name period).plainData }

def updateRetention (ns name period : Value) : Calls σ Unit := do
  perform
    { method := "PUT", path := ← path retentionClass [ns, name],
      body := .mapping (Mapping.ofNamed [("period", period)]) }

def deleteRetention (ns name : Value) : Calls σ Unit := do
  perform
    { method := "DELETE", path := ← path retentionClass [ns, name], accepted := removed }

end StorageBroker.Management.Namespace
