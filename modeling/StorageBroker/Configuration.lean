import StorageBroker.Fault
import StorageBroker.Value.Mapping
/-!
# Broker settings

The broker has a fixed set of settings with defaults. A configuration gives values for some of
them, by names that may be spelled with dashes; a name that is no setting is refused, and so is a
configuration that leaves a needed setting without a value.

* `ofEntries_eq` -- names are checked first, in order, then what is missing;
* `shown` -- how a configuration is shown: every setting but the password.
-/

namespace StorageBroker

/-! ## 1. The settings -/

inductive Setting where
  | managementEndpoint
  | username
  | password
  | verifySsl
  | namespaceName
  | replicationGroup
  | idPrefix
  | baseUrl
  | objectEndpoint
  | repositoryEndpoint
  | repositoryBucket
  | repositoryUser
  | repositoryServiceId
  | repositoryPlanId
  | defaultReclaimPolicy
  | nfsMountHost
deriving DecidableEq, Repr

namespace Setting

def all : List Setting :=
  [.managementEndpoint, .username, .password, .verifySsl, .namespaceName, .replicationGroup,
   .idPrefix, .baseUrl, .objectEndpoint, .repositoryEndpoint, .repositoryBucket,
   .repositoryUser, .repositoryServiceId, .repositoryPlanId, .defaultReclaimPolicy,
   .nfsMountHost]

theorem mem_all (s : Setting) : s ∈ all := by cases s <;> decide

def name : Setting → Text
  | .managementEndpoint => "management_endpoint"
  | .username => "username"
  | .password => "password"
  | .verifySsl => "verify_ssl"
  | .namespaceName => "namespace"
  | .replicationGroup => "replication_group"
  | .idPrefix => "prefix"
  | .baseUrl => "base_url"
  | .objectEndpoint => "object_endpoint"
  | .repositoryEndpoint => "repository_endpoint"
  | .repositoryBucket => "repository_bucket"
  | .repositoryUser => "repository_user"
  | .repositoryServiceId => "repository_service_id"
  | .repositoryPlanId => "repository_plan_id"
  | .defaultReclaimPolicy => "default_reclaim_policy"
  | .nfsMountHost => "nfs_mount_host"

def ofName? (s : Text) : Option Setting := all.find? fun k => k.name == s

theorem ofName?_name (k : Setting) : ofName? k.name = some k := by cases k <;> decide

/-- The value of a setting that is not given. -/
def default : Setting → Value
  | .username => .text "root"
  | .verifySsl => .bool false
  | .idPrefix => .text "ecs-cf-broker-"
  | .repositoryBucket => .text "repository"
  | .repositoryUser => .text "user"
  | _ => .null

/-- The settings that need a value. -/
def needed : List Setting := [.managementEndpoint, .namespaceName, .replicationGroup]

/-- The settings that are shown, in alphabetical order of their names. -/
def shown : List Setting :=
  [.baseUrl, .defaultReclaimPolicy, .managementEndpoint, .namespaceName, .nfsMountHost,
   .objectEndpoint, .idPrefix, .replicationGroup, .repositoryBucket, .repositoryEndpoint,
   .repositoryPlanId, .repositoryServiceId, .repositoryUser, .username, .verifySsl]

theorem mem_shown_iff (k : Setting) : k ∈ shown ↔ k ≠ .password := by cases k <;> decide

theorem shown_sorted : (shown.filterMap fun k => k.name.string?).Pairwise (· < ·) := by decide

end Setting

/-! ## 2. Configurations -/

/-- A value for every setting. -/
structure Configuration where
  value : Setting → Value

namespace Configuration

def defaults : Configuration := ⟨Setting.default⟩

/-- Gives a setting a value. -/
def set (c : Configuration) (k : Setting) (v : Value) : Configuration :=
  ⟨fun j => if j = k then v else c.value j⟩

theorem value_set (c : Configuration) (k j : Setting) (v : Value) :
    (c.set k v).value j = if j = k then v else c.value j := rfl

/-- The name of a setting as a configuration may spell it. -/
def canonicalName (name : Text) : Text :=
  name.map fun c => if c = '-' then '_' else c

/-- Gives the setting of a name a value. -/
def setNamed (c : Configuration) (entry : Text × Value) : Except Fault Configuration :=
  let name := canonicalName entry.1
  match Setting.ofName? name with
  | some k => .ok (c.set k entry.2)
  | none => .error (.configuration ("Unknown broker setting: " ++ name))

/-- The needed settings whose value counts as false. -/
def missing (c : Configuration) : List Setting :=
  Setting.needed.filter fun k => !(c.value k).truthy

/-- The configuration if nothing is missing in it. -/
def complete (c : Configuration) : Except Fault Configuration :=
  match c.missing with
  | [] => .ok c
  | ks => .error (.configuration
      ("Missing broker settings: " ++ Value.commaSeparated (ks.map Setting.name)))

/-- **The configuration that named values give.** -/
def ofEntries (entries : List (Text × Value)) : Except Fault Configuration := do
  (← entries.foldlM setNamed defaults).complete

theorem ofEntries_eq (entries : List (Text × Value)) :
    ofEntries entries = entries.foldlM setNamed defaults >>= complete := rfl

/-- The names and values of a mapping whose keys are all texts, none of them reserved. -/
def namedEntries (m : Mapping) : Except Malformed (List (Text × Value)) := do
  let entries ← Mapping.named m
  if entries.any fun e => e.1 == "self" then
    throw (.kind "got multiple values for argument 'self'")
  return entries

/-- **The configuration in data**; what counts as false gives no settings. -/
def ofData (data : Value) : Except Fault Configuration := do
  match data.orElse (.mapping []) with
  | .mapping m => ofEntries (← namedEntries m)
  | v => throw (.malformed (.kind ("argument must be a mapping, not " ++ v.kindName)))

/-- Every setting by name. -/
def describe (c : Configuration) : Mapping :=
  Mapping.ofNamed (Setting.all.map fun k => (k.name, c.value k))

/-- How a configuration is shown. -/
def shown (c : Configuration) : Text :=
  "BrokerConfig(" ++ Value.commaSeparated
    (Setting.shown.map fun k => k.name ++ "=" ++ (c.value k).quoted) ++ ")"

end Configuration

end StorageBroker
