import StorageBroker.Json.Tagged
import StorageBroker.Value.Nesting
import StorageBroker.Fault
/-!
# Descriptions of faults

A script describes a fault by its kind and by what belongs to that kind: a message, a status or a
code, and for a report of the broker the fault behind it.

* `fault` -- the fault of a description.
-/

namespace StorageBroker.Rehearsal.Script

/-- The part of a document under a name. -/
def part? (document : Value) (name : Text) : Option Value :=
  match document with
  | .mapping m => Mapping.get m name
  | _ => none

def part (document : Value) (name : Text) : Value := (part? document name).getD .null

/-- The part of a document as a text. -/
def textPart (document : Value) (name : Text) : Text := (part document name).plain

/-- The message of a report of the broker, which has to be a text unless it counts as false. -/
def reportMessage (v : Value) : Except Malformed (Option Text) :=
  match v with
  | .null => .ok none
  | .text s => .ok (some s)
  | v => if v.truthy then .error (.kind "a message must be a text") else .ok (some "")

/-- Why a policy was refused, if that is said. -/
def refusal (v : Value) : Except Malformed (Option ReclaimPolicy.Failure) :=
  match v with
  | .null => .ok none
  | v => match ReclaimPolicy.Failure.ofName? v.plain with
    | some k => .ok (some k)
    | none => .error (.content (v.quoted ++ " is not a valid Failure"))

/-- The fault of a description with a message, where the fault behind it is known. -/
def faultWith (spec message : Value) (cause : Option Fault) : Except Fault Fault := do
  let value := fun (name : Text) => Json.Tagged.read (part spec name)
  match textPart spec "kind" with
  | "create_http_exception" => return .http (← HttpFault.ofStatus (← value "status") message)
  | "Error" => return .general message.plain
  | "Configuration" => return .configuration message.plain
  | "ManagementClient" => return .management message.plain
  | "ResourceNotFound" => return .resourceNotFound message.plain
  | "KeyError" => return .malformed (.key message)
  | "ValueError" => return .malformed (.content message.plain)
  | "TypeError" => return .malformed (.kind message.plain)
  | "RuntimeError" => return .malformed (.stopped message.plain)
  | "ClientError" =>
    return .storage (.refused (textPart spec "code") message.plain (textPart spec "operation"))
  | "BotoCoreError" => return .storage .unspecified
  | "EndpointConnectionError" => return .storage (.unreachable (textPart spec "endpoint_url"))
  | "ServiceBroker" =>
    match ← reportMessage message, cause with
    | none, some f => return .reportOf f
    | m, cause => return .broker m cause
  | "InstanceExists" => return .instanceExists (← value "instance_id") (← value "service_id")
  | "ReclaimPolicyError" =>
    return .policyRefused (← reportMessage message) (← refusal (part spec "failure"))
  | "BucketWipeFailed" =>
    return .wipeFailed (← value "bucket") (← (← value "wipe_errors").items)
  | name => match HttpKind.ofName? name with
    | some k => return .http (HttpFault.make k message (← value "code"))
    | none => throw (.malformed (.operation ("there are no faults named '" ++ name ++ "'")))

/-- The fault of a description, with the faults behind it down to a depth. -/
def faultWithin : (depth : Nat) → Value → Except Fault Fault
  | 0, spec => do faultWith spec (← Json.Tagged.read (part spec "message")) none
  | depth + 1, spec => do
    let message ← Json.Tagged.read (part spec "message")
    let cause ← match part spec "cause" with
      | .null => pure none
      | v => some <$> faultWithin depth v
    faultWith spec message cause

/-- **The fault of a description.** -/
def fault (spec : Value) : Except Fault Fault := faultWithin spec.nesting spec

end StorageBroker.Rehearsal.Script
