import StorageBroker.Management
/-!
# Base URLs

The calls for the addresses under which the object storage is reached.
-/

namespace StorageBroker.Management.BaseUrl

variable {σ : Type}

def resource : Text.Template := [.literal "/object/baseurl/".toList, .hole]

def list : Calls σ (List Record) := do
  recordsIn .baseUrl (← fetch { path := .text "/object/baseurl" }) "base_url"

def get (id : Value) : Calls σ Record := do
  let data ← fetch { path := ← path resource [id] }
  Record.ofData .baseUrlInfo data

end StorageBroker.Management.BaseUrl
