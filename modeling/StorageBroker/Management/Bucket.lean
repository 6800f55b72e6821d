import StorageBroker.Management
/-!
# Buckets

The calls for buckets. Every one names its bucket in the path, except for the creation, which names
it in the body.
-/

namespace StorageBroker.Management.Bucket

variable {σ : Type}

/-- The path of a bucket, followed by a part of it. -/
def resource (part : String) : Text.Template :=
  [.literal "/object/bucket/".toList, .hole, .literal part.toList]

def info : Text.Template := resource "/info"
def deactivation : Text.Template := resource "/deactivate"
def quota : Text.Template := resource "/quota"
def retention : Text.Template := resource "/retention"
def acl : Text.Template := resource "/acl"
def policy : Text.Template := resource "/policy"

/-- The parameters that name a namespace. -/
def inNamespace (ns : Value) : Mapping := [(.text "namespace", ns)]

def exist (bucket ns : Value) : Calls σ Bool := do
  existence { path := ← path info [bucket], params := inNamespace ns }

/-- Creates the bucket that a record describes. -/
def create (bucket : Value) : Calls σ Unit := do
  perform { method := "POST", path := .text "/object/bucket", body := ← bodyOf bucket }

def get (bucket ns : Value) : Calls σ Record := do
  let data ← fetch { path := ← path info [bucket], params := inNamespace ns }
  Record.ofData .bucketInfo data

def delete (bucket ns : Value) : Calls σ Unit := do
  perform { method := "POST", path := ← path deactivation [bucket], params := inNamespace ns }

def createQuota (bucket ns limit warn : Value) : Calls σ Unit := do
  perform
    { method := "PUT", path := ← path quota [bucket],
      body := .mapping (Mapping.ofNamed
        [("namespace", ns), ("blockSize", limit), ("notificationSize", warn)]) }

def deleteQuota (bucket ns : Value) : Calls σ Unit := do
  perform
    { method := "DELETE", path := ← path quota [bucket], accepted := removed,
      params := inNamespace ns }

def updateRetention (ns bucket period : Value) : Calls σ Unit := do
  perform
    { method := "PUT", path := ← path retention [bucket],
      body := .mapping (Mapping.ofNamed [("namespace", ns), ("period", period)]) }

def getAcl (bucket ns : Value) : Calls σ Record := do
  let data ← fetch { path := ← path acl [bucket], params := inNamespace ns }
  Record.ofData .bucketAcl data

def updateAcl (bucket entries : Value) : Calls σ Unit := do
  let p ← path acl [bucket]
  perform { method := "PUT", path := p, body := ← bodyOf entries }

def updatePolicy (bucket rules ns : Value) : Calls σ Unit := do
  let p ← path policy [bucket]
  perform { method := "PUT", path := p, body := ← bodyOf rules, params := inNamespace ns }

end StorageBroker.Management.Bucket
