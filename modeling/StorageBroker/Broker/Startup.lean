import StorageBroker.Broker.Users
import StorageBroker.Broker.Wiping
/-!
# Starting a broker

Before it serves requests a broker discovers what its configuration leaves open and makes sure that
its own repository exists: a bucket, and a user with access to it. A start that fails leaves the
broker without what it has discovered.

* `launch` -- the discovery is kept only when the start succeeds.
-/

namespace StorageBroker.Broker

variable (b : Broker)

/-- The service and the plan of the repository's bucket. -/
def repositoryOffer : Except Fault (ServiceDefinition × Plan) := do
  let serviceId := b.config.value .repositoryServiceId
  let planId := b.config.value .repositoryPlanId
  let service ← if serviceId.isNull then b.catalog.repositoryService else b.findService serviceId
  let plan ← if planId.isNull then service.repositoryPlan else service.findPlan planId
  return (service, plan)

/-- Creates the bucket of the repository unless it exists. -/
def prepareRepositoryBucket : Operation Unit := do
  let bucket := b.config.value .repositoryBucket
  if !(← b.bucketExists bucket) then
    let (service, plan) ← b.repositoryOffer
    let _ ← b.createBucket bucket service plan .null

/-- **Makes sure that the repository exists**, and gives the secret of its user. -/
def prepareRepository : Operation Value := do
  let user := b.config.value .repositoryUser
  b.prepareRepositoryBucket
  if !(← b.userExists user) then
    let key ← b.createUser user .null
    b.addUser (b.config.value .repositoryBucket) user .null
    return key.field "secret_key"
  else b.secretOf user

/-- Keeps a discovery. -/
def keep (d : Discovery) : Operation Unit := modify fun s => { s with discovery := some d }

/-- The start, not yet undone where it fails. -/
def startUp : Operation Discovery := do
  let d ← Discovery.discover b.config
  keep d
  let secret ← b.prepareRepository
  let d := { d with repositorySecret := secret }
  keep d
  b.prepareWipe
  return d

/-- The report of a start that failed; the broker's own failures are wrapped as well. -/
def startFailure (f : Fault) : Fault := if f.isOwn then Fault.reportOf f else f

/-- **Starts the broker.** -/
def launch : Operation Discovery := do
  match ← b.startUp.attempt with
  | .ok d => return d
  | .error f =>
    modify fun s => { s with discovery := none }
    throw (startFailure f)

end StorageBroker.Broker
