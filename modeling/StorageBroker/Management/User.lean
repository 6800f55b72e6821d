import StorageBroker.Management
import StorageBroker.Record.Parameters
/-!
# Object users

The calls for users of the object storage, for their secret keys, and for the system users that
they stand for on file shares.
-/

namespace StorageBroker.Management.User

variable {σ : Type}

def info : Text.Template :=
  [.literal "/object/users/".toList, .hole, .literal "/info".toList]

def secrets : Text.Template := [.literal "/object/user-secret-keys/".toList, .hole]

def create (user ns : Value) : Calls σ Unit :=
  perform
    { method := "POST", path := .text "/object/users",
      body := .mapping (Mapping.ofNamed [("user", user), ("namespace", ns)]) }

def delete (user : Value) : Calls σ Unit :=
  perform
    { method := "POST", path := .text "/object/users/deactivate",
      body := .mapping (Mapping.ofNamed [("user", user)]) }

def exist (user ns : Value) : Calls σ Bool := do
  existence { path := ← path info [user], params := [(.text "namespace", ns)] }

def createSecret (user : Value) : Calls σ Record := do
  let data ← fetch { method := "POST", path := ← path secrets [user], body := .mapping [] }
  Record.ofData .userSecretKey data

def listSecrets (user : Value) : Calls σ (List Record) := do
  Record.secretKeys (← fetch { path := ← path secrets [user] })

/-- The body that names a user and the system user it stands for. -/
def mappingBody (user uid ns : Value) : Value :=
  .mapping (Mapping.ofNamed [("user", user), ("uid", .text uid.plain), ("namespace", ns)])

/-- Lets a user stand for a system user. -/
def createMap (user uid ns : Value) : Calls σ Unit :=
  perform { method := "POST", path := .text "/object/users/map", body := mappingBody user uid ns }

def deleteMap (user uid ns : Value) : Calls σ Unit :=
  perform { method := "POST", path := .text "/object/users/unmap", body := mappingBody user uid ns }

end StorageBroker.Management.User
