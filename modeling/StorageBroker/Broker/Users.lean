import StorageBroker.Broker
import StorageBroker.Management.User
/-!
# Users of instances

A user is created together with a secret key. Where a file share is used, a user stands for a
system user of the share.
-/

namespace StorageBroker.Broker

open Management

variable (b : Broker)

def userExists (id : Value) : Operation Bool := reporting do
  User.exist (← b.nameOf id) b.home

/-- The namespace of a user: that of an instance, or the broker's own where none is named. -/
def userNamespace (namespaceId : Value) : Except Malformed Value :=
  if namespaceId.truthy then b.nameOf namespaceId else .ok b.home

/-- The first of the secret keys of a user. -/
def firstKey : List Record → Except Malformed Record
  | key :: _ => .ok key
  | [] => .error (.index "list index out of range")

/-- **Creates a user** and gives its first secret key. -/
def createUser (id namespaceId : Value) : Operation Record := reporting do
  let ns ← b.userNamespace namespaceId
  let user ← b.nameOf id
  User.create user ns
  let _ ← User.createSecret user
  firstKey (← User.listSecrets user)

def deleteUser (id : Value) : Operation Unit := reporting do
  User.delete (← b.nameOf id)

def createUserMap (id uid : Value) : Operation Unit := reporting do
  User.createMap (← b.nameOf id) uid b.home

def deleteUserMap (id uid : Value) : Operation Unit := reporting do
  User.deleteMap (← b.nameOf id) uid b.home

/-- The secret of a user that exists already. -/
def secretOf (id : Value) : Operation Value := do
  let user ← b.nameOf id
  match ← User.listSecrets user with
  | key :: _ => return key.field "secret_key"
  | [] => throw (failure ("User " ++ user.plain ++ " has no secret key"))

end StorageBroker.Broker
