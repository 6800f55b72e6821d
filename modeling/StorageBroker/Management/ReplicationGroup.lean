import StorageBroker.Management
/-!
# Replication groups

The call that lists the groups of sites which hold the objects.
-/

namespace StorageBroker.Management.ReplicationGroup

def list {σ : Type} : Calls σ (List Record) := do
  recordsIn .replicationGroup (← fetch { path := .text "/vdc/data-service/vpools" })
    "data_service_vpool"

end StorageBroker.Management.ReplicationGroup
