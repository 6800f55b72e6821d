import StorageBroker.Record
import StorageBroker.Settings.Names
/-!
# Records of requests

The bodies that the broker sends are built from the parameters of an instance; a switch that the
parameters do not give, or give as nothing, is left unset, and is a truth value otherwise. The file
also holds the other records that the broker makes itself, and what it reads out of those that the
management API answers with.

* `flag` -- the reading of a switch;
* `namespaceUrl` -- the address of a namespace on a base URL.
-/

namespace StorageBroker.Record

/-! ## 1. Parameters -/

/-- A switch: a truth value if the parameters give one, else unset. -/
def flag (parameters : Value) (name : Text) : Except Malformed Value := do
  let v ← parameters.get name
  return if v.isNull then .null else .bool v.truthy

/-- **The body that creates a bucket.** -/
def bucketCreate (name ns group parameters : Value) : Except Malformed Record := do
  let fileAccess ← parameters.getD Settings.fileAccessible (.bool false)
  let head ← parameters.get Settings.headType
  let stale ← flag parameters Settings.staleAllowed
  let encryption ← flag parameters Settings.encrypted
  let readOnly ← flag parameters Settings.accessDuringOutage
  return ofNamed .bucketCreate
    [("name", name), ("namespace", ns), ("vpool", group),
     ("filesystem_enabled", .bool fileAccess.truthy), ("head_type", head),
     ("is_stale_allowed", stale), ("is_encryption_enabled", encryption),
     ("is_tso_read_only", readOnly)]

/-- The settings of a namespace, which are the same when it is created and when it is changed. -/
def namespaceSettings (parameters : Value) : Except Malformed Named := do
  let admins ← parameters.get Settings.domainGroupAdmins
  let encryption ← flag parameters Settings.encrypted
  let stale ← flag parameters Settings.accessDuringOutage
  let compliance ← flag parameters Settings.complianceEnabled
  let blockSize ← parameters.get Settings.defaultBucketBlockSize
  return [("namespace_admins", admins), ("is_encryption_enabled", encryption),
    ("is_stale_allowed", stale), ("compliance_enabled", compliance),
    ("default_bucket_block_size", blockSize)]

/-- **The body that creates a namespace.** -/
def namespaceCreate (name group parameters : Value) : Except Malformed Record := do
  let settings ← namespaceSettings parameters
  return ofNamed .namespaceCreate
    (("namespace", name) :: ("default_data_services_vpool", group) :: settings)

/-- **The body that changes a namespace.** -/
def namespaceUpdate (parameters : Value) : Except Malformed Record := do
  return ofNamed .namespaceUpdate (← namespaceSettings parameters)

/-! ## 2. Other records that the broker makes -/

/-- The permission of a user that may do everything. -/
def fullControl : Text := "full_control"

/-- The policy that allows a user every action on a bucket. -/
def allowAll (principal bucket : Value) : Record :=
  ofNamed .bucketPolicy
    [("version", "2012-10-17"), ("id", "DefaultPCFBucketPolicy"),
     ("sid", "DefaultAllowTotalAccess"), ("effect", "Allow"), ("principal", principal),
     ("actions", .list [.text "s3:*"]), ("resources", .list [bucket])]

/-- The quota of a namespace. -/
def namespaceQuota (name limit warn : Value) : Record :=
  ofNamed .namespaceQuota
    [("namespace", name), ("blockSize", limit), ("notificationSize", warn)]

/-- A retention class of a namespace. -/
def retentionClass (name period : Value) : Record :=
  ofNamed .retentionClass [("name", name), ("period", period)]

/-! ## 3. Records that the management API answers with -/

/-- The secret key of a number in a listing, if it has that one. -/
def secretKey? (data : Value) (number : Text) : Except Malformed (Option Record) := do
  let secret ← data.get ("secret_key_" ++ number)
  if secret.truthy then
    let since ← data.get ("key_timestamp_" ++ number)
    let expiry ← data.get ("key_expiry_timestamp_" ++ number)
    return some (ofNamed .userSecretKey
      [("secret_key", secret), ("key_timestamp", since), ("key_expiry_timestamp", expiry)])
  else return none

/-- **The secret keys in a listing**, which holds up to two under numbered names. -/
def secretKeys (data : Value) : Except Malformed (List Record) := do
  let first ← secretKey? data "1"
  let second ← secretKey? data "2"
  return first.toList ++ second.toList

/-- The TCP port at which objects are served, with and without encryption. -/
def objectPort (ssl : Bool) : Nat := if ssl then 9021 else 9020

/-- **The address of a namespace on a base URL**; the namespace is part of the host where the base
URL says so. -/
def namespaceUrl (info : Record) (ns : Value) (ssl : Bool) : Text :=
  let host := (info.field "baseurl").plain
  let host := if (info.field "namespace_in_host").truthy then ns.plain ++ "." ++ host else host
  (if ssl then "https" else "http") ++ "://" ++ host ++ ":" ++ toString (objectPort ssl)

end StorageBroker.Record
