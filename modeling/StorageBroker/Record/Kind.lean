import StorageBroker.Text
/-!
# Kinds of records

The management API exchanges records: bodies of requests and the details it answers with. A kind
fixes the names of a record's fields and their order.

* `ofName?_name` -- a kind is told by its name;
* `fields_nodup` -- no kind names a field twice.
-/

namespace StorageBroker

inductive RecordKind where
  | bare
  | bucketCreate
  | bucketInfo
  | userAcl
  | bucketAcl
  | bucketPolicy
  | namespaceCreate
  | namespaceUpdate
  | namespaceQuota
  | retentionClass
  | userSecretKey
  | baseUrl
  | baseUrlInfo
  | replicationGroup
  | nfsExport
deriving DecidableEq, Repr, Inhabited

namespace RecordKind

def all : List RecordKind :=
  [.bare, .bucketCreate, .bucketInfo, .userAcl, .bucketAcl, .bucketPolicy, .namespaceCreate,
   .namespaceUpdate, .namespaceQuota, .retentionClass, .userSecretKey, .baseUrl, .baseUrlInfo,
   .replicationGroup, .nfsExport]

theorem mem_all (k : RecordKind) : k ∈ all := by cases k <;> decide

/-- The name that messages show. -/
def name : RecordKind → Text
  | .bare => "Model"
  | .bucketCreate => "BucketCreate"
  | .bucketInfo => "BucketInfo"
  | .userAcl => "UserAcl"
  | .bucketAcl => "BucketAcl"
  | .bucketPolicy => "BucketPolicy"
  | .namespaceCreate => "NamespaceCreate"
  | .namespaceUpdate => "NamespaceUpdate"
  | .namespaceQuota => "NamespaceQuota"
  | .retentionClass => "RetentionClass"
  | .userSecretKey => "UserSecretKey"
  | .baseUrl => "BaseUrl"
  | .baseUrlInfo => "BaseUrlInfo"
  | .replicationGroup => "ReplicationGroup"
  | .nfsExport => "NFSExport"

def ofName? (s : Text) : Option RecordKind := all.find? fun k => k.name == s

theorem ofName?_name (k : RecordKind) : ofName? k.name = some k := by cases k <;> decide

/-- The fields in order. -/
def fields : RecordKind → List Text
  | .bare => []
  | .bucketCreate => ["name", "namespace", "vpool", "filesystem_enabled", "head_type",
      "is_stale_allowed", "is_encryption_enabled", "is_tso_read_only"]
  | .bucketInfo => ["name", "id", "namespace", "vpool", "fs_access_enabled", "block_size",
      "notification_size", "default_retention", "created", "softquota", "owner"]
  | .userAcl => ["user", "permission"]
  | .bucketAcl => ["bucket", "namespace", "user_acl", "group_acl", "customgroup_acl"]
  | .bucketPolicy => ["version", "id", "sid", "effect", "principal", "actions", "resources"]
  | .namespaceCreate => ["namespace", "default_data_services_vpool", "namespace_admins",
      "is_encryption_enabled", "is_stale_allowed", "compliance_enabled",
      "default_bucket_block_size"]
  | .namespaceUpdate => ["namespace_admins", "is_encryption_enabled", "is_stale_allowed",
      "compliance_enabled", "default_bucket_block_size"]
  | .namespaceQuota => ["namespace", "blockSize", "notificationSize"]
  | .retentionClass => ["name", "period"]
  | .userSecretKey => ["secret_key", "key_timestamp", "key_expiry_timestamp"]
  | .baseUrl => ["id", "name", "link"]
  | .baseUrlInfo => ["id", "name", "baseurl", "namespace_in_host"]
  | .replicationGroup => ["id", "name", "description"]
  | .nfsExport => ["id", "path", "export_configs"]

theorem fields_nodup (k : RecordKind) : k.fields.Nodup := by cases k <;> decide

end RecordKind

end StorageBroker
