import StorageBroker.Settings.Merge
import StorageBroker.Fault
/-!
# The catalog

The services that the broker offers, each with its plans. Both are read from the data of the
configuration and both may force settings on the requests for an instance.

* `Catalog.addTo` -- a definition replaces an earlier one of the same id, in its place;
* `Catalog.ofDefinitions_nil` -- the empty catalog.
-/

namespace StorageBroker

/-! ## 1. Plans -/

/-- A variant of a service. -/
structure Plan where
  id : Value
  name : Value
  description : Value
  serviceSettings : Mapping
  repository : Bool

/-- Turns a missing key into a fault of the configuration. -/
def missingIn (what : Text) (m : Malformed) : Fault :=
  match m with
  | .key k => .configuration (what ++ " is missing " ++ k.quoted)
  | m => .malformed m

namespace Plan

/-- The data of a plan. -/
def read (data : Value) : Except Malformed Plan := do
  let id ← data.required "id"
  let name ← data.required "name"
  let description ← data.get "description"
  let settings ← ((← data.get "service-settings").orElse (.mapping [])).toMapping
  let repository ← data.getD "repository" (.bool false)
  return ⟨id, name, description, settings, repository.truthy⟩

/-- **The plan in data.** -/
def ofData (data : Value) : Except Fault Plan := (read data).mapError (missingIn "Plan")

/-- What is known of a plan, by name. -/
def describe (p : Plan) : Mapping :=
  Mapping.ofNamed
    [("id", p.id), ("name", p.name), ("description", p.description),
     ("service_settings", .mapping p.serviceSettings), ("repository", .bool p.repository)]

end Plan

/-! ## 2. Services -/

/-- A service that instances are made of. -/
structure ServiceDefinition where
  id : Value
  name : Value
  type : Value
  description : Value
  serviceSettings : Mapping
  repository : Bool
  plans : List Plan

namespace ServiceDefinition

/-- A look-up whose missing key is a fault of the definition. -/
def reading (x : Except Malformed α) : Except Fault α :=
  x.mapError (missingIn "Service definition")

/-- **The service in data.** -/
def ofData (data : Value) : Except Fault ServiceDefinition := do
  let id ← reading (data.required "id")
  let name ← reading (data.required "name")
  let type ← reading (data.getD "type" (.text "bucket"))
  let description ← reading (data.get "description")
  let settings ← reading do ((← data.get "service-settings").orElse (.mapping [])).toMapping
  let repository ← reading (data.getD "repository" (.bool false))
  let plans ← reading do ((← data.get "plans").orElse (.list [])).items
  return ⟨id, name, type, description, settings, repository.truthy, ← plans.mapM Plan.ofData⟩

/-- What is known of a service, by name. -/
def describe (s : ServiceDefinition) : Mapping :=
  Mapping.ofNamed
    [("id", s.id), ("name", s.name), ("type", s.type), ("description", s.description),
     ("service_settings", .mapping s.serviceSettings), ("repository", .bool s.repository),
     ("plans", .list (s.plans.map fun p => .mapping p.describe))]

/-- The first plan of an id. -/
def findPlan (s : ServiceDefinition) (id : Value) : Except Fault Plan :=
  match s.plans.find? fun p => p.id.equal id with
  | some p => .ok p
  | none => .error (.configuration ("No plan matching plan id: " ++ id.plain))

/-- The first plan for the repository of the broker itself. -/
def repositoryPlan (s : ServiceDefinition) : Except Fault Plan :=
  match s.plans.find? Plan.repository with
  | some p => .ok p
  | none => .error (.configuration ("No repository plan configured for service " ++ s.id.plain))

end ServiceDefinition

/-- **Request parameters with the settings of plan and service forced on them**, the service's
last. -/
def Settings.mergeFor (parameters : Value) (plan : Plan) (service : ServiceDefinition) :
    Except Malformed Value :=
  Settings.merge parameters [.mapping plan.serviceSettings, .mapping service.serviceSettings]

/-! ## 3. The catalog -/

/-- Service definitions with distinct ids. -/
structure Catalog where
  services : List ServiceDefinition

namespace Catalog

def empty : Catalog := ⟨[]⟩

/-- Puts a definition in the place of one with the same id, else at the end. -/
def addTo : List ServiceDefinition → ServiceDefinition → List ServiceDefinition
  | [], s => [s]
  | t :: rest, s => if s.id.equal t.id then s :: rest else t :: addTo rest s

/-- Adds a definition, whose id must be able to serve as a key. -/
def add (c : Catalog) (s : ServiceDefinition) : Except Fault Catalog :=
  if s.id.isKey then .ok ⟨addTo c.services s⟩ else .error (.malformed (.noKey s.id))

/-- The catalog of a list of definitions. -/
def ofDefinitions (ss : List ServiceDefinition) : Except Fault Catalog := ss.foldlM add empty

/-- **The catalog in data.** -/
def ofData (data : Value) : Except Fault Catalog := do
  let entries ← (data.orElse (.list [])).items
  entries.foldlM (fun c entry => do c.add (← ServiceDefinition.ofData entry)) empty

theorem ofDefinitions_nil : ofDefinitions [] = .ok empty := rfl

/-- The definition of an id, if the id can be one and the catalog has it. -/
def find? (c : Catalog) (id : Value) : Except Malformed (Option ServiceDefinition) :=
  if id.isKey then .ok (c.services.find? fun s => id.equal s.id) else .error (.noKey id)

/-- The first service for the repository of the broker itself. -/
def repositoryService (c : Catalog) : Except Fault ServiceDefinition :=
  match c.services.find? ServiceDefinition.repository with
  | some s => .ok s
  | none => .error (.configuration "No repository service configured")

end Catalog

end StorageBroker
