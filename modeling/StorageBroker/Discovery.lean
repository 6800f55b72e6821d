import StorageBroker.Configuration
import StorageBroker.Management.BaseUrl
import StorageBroker.Management.ReplicationGroup
import StorageBroker.Record.Parameters
import StorageBroker.ReclaimPolicy.Check
/-!
# Discovery

When the broker starts it finds out what the configuration leaves open: the address of the object
storage, the id of the replication group, and the policy that applies where no request names one.

* `findNamed` -- among base URLs of one name the first one counts;
* `objectEndpoint` -- a configured address wins; else the configured base URL, or the one with the
  standard name, or the first one, gives it;
* `discover` -- address, group and policy, in this order.
-/

namespace StorageBroker

/-- What the broker knows after its start. -/
structure Discovery where
  objectEndpoint : Value
  repositoryEndpoint : Value
  baseUrl : Value
  replicationGroupId : Value
  defaultReclaimPolicy : Value
  repositorySecret : Value

namespace Discovery

variable {σ : Type}

open Management (Calls)

/-- What is known, by name. -/
def describe (d : Discovery) : Mapping :=
  Mapping.ofNamed
    [("object_endpoint", d.objectEndpoint), ("repository_endpoint", d.repositoryEndpoint),
     ("base_url", d.baseUrl), ("replication_group_id", d.replicationGroupId),
     ("default_reclaim_policy", d.defaultReclaimPolicy),
     ("repository_secret", d.repositorySecret)]

/-! ## 1. The object endpoint -/

/-- The first base URL of a name; places without one are passed over. -/
def findNamed (name : Value) (urls : List (Option Record)) : Option Record :=
  (urls.filterMap id).find? fun url => (url.field "name").equal name

/-- The base URL that is taken where none is configured. -/
def standardName : Value := .text "DefaultBaseUrl"

/-- The base URL to use: the configured one, which must exist, or else the one with the standard
name or the first one. -/
def chooseBaseUrl (configured : Value) (first : Record) (urls : List (Option Record)) :
    Except Fault Record :=
  if configured.truthy then
    match findNamed configured urls with
    | some url => .ok url
    | none => .error (.resourceNotFound ("Configured ECS Base URL not found: " ++ configured.plain))
  else .ok ((findNamed standardName urls).getD first)

/-- The report of a listing without a base URL. -/
def noBaseUrls : Fault :=
  .resourceNotFound ("Cannot determine object endpoint url: base URLs list is empty, "
    ++ "check ECS server settings")

/-- **The address of the object storage** and the name of the base URL that it comes from. -/
def findObjectEndpoint (config : Configuration) : Calls σ (Value × Value) := do
  let configured := config.value .baseUrl
  if (config.value .objectEndpoint).truthy then
    return (config.value .objectEndpoint, configured)
  else
    match ← Management.BaseUrl.list with
    | [] => throw noBaseUrls
    | first :: rest =>
      let url ← chooseBaseUrl configured first ((first :: rest).map some)
      let info ← Management.BaseUrl.get (url.field "id")
      let endpoint := info.namespaceUrl (config.value .namespaceName) false
      return (.text endpoint, (info.field "name").orElse configured)

/-! ## 2. Replication group and reclaim policy -/

/-- Whether a replication group goes by a name or an id. -/
def goesBy (wanted : Value) (group : Record) : Bool :=
  wanted.equal (group.field "name") || wanted.equal (group.field "id")

/-- **The id of the configured replication group.** -/
def findReplicationGroup (config : Configuration) : Calls σ Value := do
  let wanted := config.value .replicationGroup
  match (← Management.ReplicationGroup.list).find? (goesBy wanted) with
  | some group => return group.field "id"
  | none =>
    throw (.resourceNotFound ("Configured ECS replication group not found: " ++ wanted.plain))

/-- **The reclaim policy of requests that name none.** -/
def findReclaimPolicy (config : Configuration) : Except Fault ReclaimPolicy :=
  let configured := config.value .defaultReclaimPolicy
  if configured.truthy then
    match ReclaimPolicy.parse configured with
    | .ok p => .ok p
    | .error (.content d) => .error (.configuration d)
    | .error m => .error (.malformed m)
  else .ok .standard

/-! ## 3. All of it -/

/-- **What the broker finds out when it starts.** The secret of the repository is not known yet. -/
def discover (config : Configuration) : Calls σ Discovery := do
  let (endpoint, baseUrl) ← findObjectEndpoint config
  let group ← findReplicationGroup config
  let policy ← findReclaimPolicy config
  return {
    objectEndpoint := endpoint
    repositoryEndpoint := (config.value .repositoryEndpoint).orElse endpoint
    baseUrl := baseUrl
    replicationGroupId := group
    defaultReclaimPolicy := .policy policy
    repositorySecret := .null }

end Discovery

end StorageBroker
