import StorageBroker.Broker
import StorageBroker.Management.Namespace
/-!
# Namespaces of instances

A namespace is created with its quota and its retention classes. A change of plan goes through the
retention classes of the parameters one by one: a class whose period is `unset` is removed, any
other one is created or changed.

* `reconcile` -- what becomes of each retention class, in order.
-/

namespace StorageBroker.Broker

open Management

variable (b : Broker)

def namespaceExists (id : Value) : Operation Bool := reporting do
  Namespace.exist (← b.nameOf id)

/-! ## 1. Creation -/

/-- Sets the quota of a new namespace, if there is one in the parameters. -/
def applyNamespaceQuota (name parameters : Value) : Operation Unit := do
  let quota ← parameters.get Settings.quota
  if !quota.isNull then
    let limit ← quota.get Settings.limit
    let warn ← quota.get Settings.warn
    Namespace.createQuota name (Record.namespaceQuota name limit warn).toValue

/-- Creates retention classes in order. -/
def createClasses (name : Value) : Mapping → Operation Unit
  | [] => return
  | (className, period) :: rest => do
    Namespace.createRetention name className period
    createClasses name rest

/-- The retention classes in parameters. -/
def classesIn (parameters : Value) : Except Malformed Mapping := do
  ((← parameters.get Settings.retention).orElse (.mapping [])).entriesFor "items"

/-- **Creates a namespace** for an instance and gives its effective parameters. -/
def createNamespace (id : Value) (service : ServiceDefinition) (plan : Plan)
    (parameters : Value) : Operation Value := do
  note parameters parameters
  reporting do
    if ← b.namespaceExists id then throw (.instanceExists id service.id)
    let effective ← effective parameters plan service
    let name ← b.nameOf id
    let d ← discovered
    let body ← Record.namespaceCreate name d.replicationGroupId effective
    Namespace.create body.toValue
    applyNamespaceQuota name effective
    createClasses name (← classesIn effective)
    return effective

/-! ## 2. Change -/

/-- Brings retention classes in order to what is asked for. The classes leave the parameters as
soon as one of them has been removed. -/
def reconcile (given name : Value) : Mapping → Value → Operation Value
  | [], effective => return effective
  | (className, period) :: rest, effective => do
    let there ← Namespace.retentionExist name className
    if period.equal (.int Settings.unset) then
      if there then
        Namespace.deleteRetention name className
        let effective ← without effective Settings.retention
        note given effective
        reconcile given name rest effective
      else reconcile given name rest effective
    else
      if there then Namespace.updateRetention name className period
      else Namespace.createRetention name className period
      reconcile given name rest effective

/-- **Applies a plan to a namespace.** -/
def changeNamespacePlan (id : Value) (service : ServiceDefinition) (plan : Plan)
    (parameters : Value) : Operation Value := do
  note parameters parameters
  reporting do
    let name ← b.nameOf id
    let effective ← effective parameters plan service
    let body ← Record.namespaceUpdate effective
    Namespace.update name body.toValue
    reconcile parameters name (← classesIn effective) effective

def deleteNamespace (id : Value) : Operation Unit := reporting do
  Namespace.delete (← b.nameOf id)

/-! ## 3. Addresses -/

/-- The report of a base URL that does not exist. -/
def noBaseUrl (name : Value) : Fault :=
  failure ("Failed to configure namespace - base URL not found: " ++ name.plain)

/-- **The address of a namespace** on the base URL that the parameters name, or else on the
discovered one. -/
def namespaceUrl (ns parameters settings : Value) : Operation Text := reporting do
  let own ← (parameters.orElse (.mapping [])).toMapping
  let merged ← Settings.merge (.mapping own) [settings]
  let d ← discovered
  let name ← merged.getD Settings.baseUrl d.baseUrl
  let ssl := (← merged.getD Settings.useSsl (.bool false)).truthy
  let urls ← BaseUrl.list
  match Discovery.findNamed name (urls.map some) with
  | none => throw (noBaseUrl name)
  | some url =>
    if name.isNull then throw (noBaseUrl name)
    else
      let info ← BaseUrl.get (url.field "id")
      return info.namespaceUrl ns ssl

end StorageBroker.Broker
