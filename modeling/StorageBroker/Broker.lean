import StorageBroker.Catalog
import StorageBroker.Discovery
import StorageBroker.Settings.Check
import StorageBroker.Value.Joined
/-!
# The broker

The broker turns the requests of a platform for buckets, namespaces and users into calls of the
management API. Calls are made one after the other, and the first one that fails ends the
operation; nothing is rolled back. To the platform every failure of the library itself is reported
as one of the broker (`reporting`).

* `State` -- what the broker has discovered, whether it can wipe buckets, and what has become of
  the parameters of the last request;
* `effective` -- the parameters that a request comes to: forced settings applied, then checked.
-/

namespace StorageBroker

/-- What a broker is set up with. -/
structure Broker where
  config : Configuration
  catalog : Catalog

namespace Broker

/-- What changes while a broker works. -/
structure State where
  /-- Nothing unless the last start succeeded. -/
  discovery : Option Discovery
  wipeReady : Bool
  /-- The parameters that came with the last request, as the request has left them. -/
  parameters : Value

namespace State

def start : State := ⟨none, false, .null⟩

end State

/-- Operations of a broker. -/
abbrev Operation := Action Remote State

/-! ## 1. Failures and names -/

/-- **An operation as the platform sees it**: the library's failures are those of the broker. -/
def reporting {α : Type} (x : Operation α) : Operation α := x.mapFault Fault.wrap

/-- A failure of the broker itself. -/
def failure (message : Text) : Fault := .broker (some message) none

/-- What has been discovered, which an operation may need. -/
def discovered : Operation Discovery := do
  match (← get).discovery with
  | some d => return d
  | none => throw (failure "ECS service is not initialized")

variable (b : Broker)

/-- The name on the storage of what the platform knows by an id. -/
def nameOf (id : Value) : Except Malformed Value := (b.config.value .idPrefix).joined id

/-- The namespace of the broker. -/
def home : Value := b.config.value .namespaceName

/-- **The service definition of an id.** -/
def findService (id : Value) : Except Fault ServiceDefinition := do
  match ← b.catalog.find? id with
  | some s => return s
  | none => throw (failure ("No service matching service id: " ++ id.plain))

/-! ## 2. Parameters -/

/-- Notes what has become of parameters that came with a request; where none came there is nothing
to note. -/
def note (given now : Value) : Operation Unit :=
  modify fun s => { s with parameters := if given.isNull then .null else now }

/-- **The parameters that a request comes to**: the settings of plan and service are forced on
them, and what is left is checked. -/
def effective (given : Value) (plan : Plan) (service : ServiceDefinition) : Operation Value := do
  let merged ← Settings.mergeFor given plan service
  note given merged
  let checked := Settings.check merged
  note given checked.parameters
  match checked.fault with
  | some f => throw f
  | none => return checked.parameters

/-- The message of a refused reclaim policy, without the policy. -/
def refusal : ReclaimPolicy.Failure → Text
  | .malformedPolicy => "Invalid reclaim-policy: "
  | .malformedAllowed => "Invalid reclaim-policies: "
  | .rejected => "Reclaim Policy is not allowed: "

/-- Fails unless parameters ask for a reclaim policy that they allow. -/
def checkPolicy (parameters : Value) : Operation Unit := do
  let d ← discovered
  let c ← ReclaimPolicy.Check.ofParameters parameters d.defaultReclaimPolicy
  match c.failure with
  | none => return
  | some f => throw (.policyRefused (some (refusal f ++ c.value.plain)) (some f))

/-- Parameters without a setting. -/
def without (parameters : Value) (name : Text) : Except Malformed Value := do
  return .mapping (Mapping.erase (← parameters.entriesFor "pop") name)

end Broker

end StorageBroker
