import StorageBroker.Broker
import StorageBroker.Management.Bucket
import StorageBroker.Management.Export
/-!
# Buckets of instances

A bucket is created with the quota and the retention that its parameters ask for. A change of plan
replaces the quota as a whole. Users are let into a bucket through its access list, and through a
policy where the bucket is no file system.

* `createBucket`, `changeBucketPlan` -- both change nothing before the parameters are checked;
* `addUser`, `removeUser` -- both write back the list that they read, changed for one user only.
-/

namespace StorageBroker.Broker

open Management

variable (b : Broker)

/-! ## 1. Creation and change -/

def bucketExists (id : Value) : Operation Bool := reporting do
  Bucket.exist (← b.nameOf id) b.home

/-- Sets the quota of a new bucket, if there is one in the parameters. -/
def applyBucketQuota (name parameters : Value) : Operation Unit := do
  let quota ← parameters.get Settings.quota
  if !quota.isNull then
    let limit ← quota.get Settings.limit
    let warn ← quota.get Settings.warn
    Bucket.createQuota name b.home limit warn

/-- Sets the retention of a new bucket, if there is one in the parameters. -/
def applyBucketRetention (name parameters : Value) : Operation Unit := do
  let period ← parameters.get Settings.defaultRetention
  if !period.isNull then Bucket.updateRetention b.home name period

/-- **Creates a bucket** for an instance and gives its effective parameters. -/
def createBucket (id : Value) (service : ServiceDefinition) (plan : Plan) (parameters : Value) :
    Operation Value := do
  note parameters parameters
  reporting do
    let name ← b.nameOf id
    if ← b.bucketExists id then throw (.instanceExists id service.id)
    let effective ← effective parameters plan service
    checkPolicy effective
    let d ← discovered
    let body ← Record.bucketCreate name b.home d.replicationGroupId effective
    Bucket.create body.toValue
    b.applyBucketQuota name effective
    b.applyBucketRetention name effective
    return effective

/-- The size of a quota, `unset` where there is none. -/
def sizeOf (parameters : Value) (name : Text) : Except Malformed Value := do
  let quota := (← parameters.get Settings.quota).orElse (.mapping [])
  let size ← quota.get name
  return if size.isNull then .int Settings.unset else size

/-- Whether a size stands for a quota that is not set. -/
def isUnset (size : Value) : Bool := size.equal (.int Settings.unset)

/-- **Applies a plan to a bucket**: its quota is replaced, or removed if there is neither a limit
nor a warning. -/
def changeBucketPlan (id : Value) (service : ServiceDefinition) (plan : Plan)
    (parameters : Value) : Operation Value := do
  note parameters parameters
  reporting do
    let effective ← effective parameters plan service
    checkPolicy effective
    let name ← b.nameOf id
    let limit ← sizeOf effective Settings.limit
    let warn ← sizeOf effective Settings.warn
    if isUnset limit && isUnset warn then
      let effective ← without effective Settings.quota
      note parameters effective
      Bucket.deleteQuota name b.home
      return effective
    else
      Bucket.createQuota name b.home limit warn
      return effective

def deleteBucket (id : Value) : Operation Unit := reporting do
  Bucket.delete (← b.nameOf id) b.home

/-! ## 2. Access -/

/-- Whether a bucket can be used as a file system. -/
def bucketFileEnabled (id : Value) : Operation Bool := reporting do
  let info ← Bucket.get (← b.nameOf id) b.home
  return (info.field "fs_access_enabled").truthy

/-- The permissions to grant, everything where none are named. -/
def permissionsOr (permissions : Value) : Value :=
  if permissions.isNull then .list [.text Record.fullControl] else permissions

/-- An access list with one more entry. -/
def withEntry (acl : Record) (entry : Record) : Except Malformed Record := do
  let entries ← (acl.field "user_acl").items
  return acl.setField "user_acl" (.list (entries ++ [entry.toValue]))

/-- An access list without the entries of a user. -/
def withoutUser (acl : Record) (user : Value) : Except Malformed Record := do
  let entries ← (acl.field "user_acl").items
  let kept ← entries.filterM fun entry => do
    return !(← Record.fieldOf entry "user").equal user
  return acl.setField "user_acl" (.list kept)

/-- **Lets a user into a bucket.** -/
def addUser (bucketId userId permissions : Value) : Operation Unit := reporting do
  let name ← b.nameOf bucketId
  let user ← b.nameOf userId
  let acl ← Bucket.getAcl name b.home
  let entry ← Record.userAcl user (permissionsOr permissions)
  let acl ← withEntry acl entry
  Bucket.updateAcl name acl.toValue
  if !(← b.bucketFileEnabled bucketId) then
    Bucket.updatePolicy name (Record.allowAll user name).toValue b.home

/-- **Takes a user out of a bucket.** -/
def removeUser (bucketId userId : Value) : Operation Unit := reporting do
  let name ← b.nameOf bucketId
  let user ← b.nameOf userId
  let acl ← Bucket.getAcl name b.home
  let acl ← withoutUser acl user
  Bucket.updateAcl name acl.toValue

/-! ## 3. File shares -/

/-- The path of an export in a bucket. -/
def exportPath (name relative : Value) : Text :=
  "/" ++ b.home.plain ++ "/" ++ name.plain ++ "/" ++ (relative.orElse (.text "")).plain

/-- **Makes sure that a path in a bucket is exported**, and gives the whole path. -/
def addExport (id relative : Value) : Operation Text := reporting do
  let path := b.exportPath (← b.nameOf id) relative
  match ← Export.list (.text path) with
  | some _ => return path
  | none => do
    Export.create (.text path)
    return path

end StorageBroker.Broker
