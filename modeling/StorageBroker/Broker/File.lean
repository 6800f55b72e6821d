import StorageBroker.Broker
import StorageBroker.Session
import StorageBroker.Yaml.Document
/-!
# Brokers from files

A file sets up a broker: its section `broker` holds the configuration, its section `catalog` the
service definitions. A file that is missing or is no document fails the configuration; what a
document holds fails as data does anywhere else.

* `ofFile_none` -- a missing file;
* `ofData_of_not_truthy` -- an empty file leaves every setting out, those that are needed as well.
-/

namespace StorageBroker

/-- What a document that cannot be read means for a configuration. -/
def Yaml.Problem.toFault : Yaml.Problem → Fault
  | .grammar | .cut => .configuration "Could not read configuration file"
  | .content m => .malformed m

namespace Broker

/-- **The broker that data sets up**; what counts as false holds no section. -/
def ofData (data : Value) : Except Fault Broker := do
  let sections := data.orElse (.mapping [])
  let config ← Configuration.ofData (← sections.get "broker")
  let catalog ← Catalog.ofData (← sections.get "catalog")
  return ⟨config, catalog⟩

theorem ofData_of_not_truthy {data : Value} (h : data.truthy = false) :
    ofData data = ofData (.mapping []) := by
  have horElse : data.orElse (.mapping []) = .mapping [] := by simp [Value.orElse, h]
  unfold ofData
  rw [horElse]
  rfl

/-- **The broker that a file sets up**, given by its content unless it is missing. -/
def ofFile (content : Option (List UInt8)) : Except Fault Broker := do
  match content with
  | none => throw Yaml.Problem.grammar.toFault
  | some bs => ofData (← (Yaml.read bs).mapError Yaml.Problem.toFault)

theorem ofFile_none :
    ofFile none = .error (.configuration "Could not read configuration file") := rfl

/-- The session that the configuration asks for. -/
def session (b : Broker) : Except Malformed Session :=
  Session.start (b.config.value .managementEndpoint) (b.config.value .username)
    (b.config.value .password) (b.config.value .verifySsl) Session.standardTimeout
    (some Retry.standard)

end Broker

end StorageBroker
