import StorageBroker.Text
/-!
# Names of settings

The names under which request parameters, plans and services give their settings.
-/

namespace StorageBroker.Settings

def quota : Text := "quota"
def limit : Text := "limit"
def warn : Text := "warn"
def retention : Text := "retention"
def defaultRetention : Text := "default-retention"
def reclaimPolicy : Text := "reclaim-policy"
def allowedReclaimPolicies : Text := "allowed-reclaim-policies"
def baseUrl : Text := "base-url"
def useSsl : Text := "use-ssl"
def fileAccessible : Text := "file-accessible"
def headType : Text := "head-type"
def encrypted : Text := "encrypted"
def accessDuringOutage : Text := "access-during-outage"
def staleAllowed : Text := "stale-allowed"
def complianceEnabled : Text := "compliance-enabled"
def domainGroupAdmins : Text := "domain-group-admins"
def defaultBucketBlockSize : Text := "default-bucket-block-size"

/-- Stands for a quota that is not set and for a retention class that is to be removed. -/
def unset : Int := -1

end StorageBroker.Settings
