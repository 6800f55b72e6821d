import StorageBroker.Fault.Http
/-!
# Faults

Every way in which an operation can fail, by cause. The broker reports to the platform only faults
of its own family (`Fault.isBroker`); a fault of the management API, of the configuration or of a
look-up is wrapped into one, which keeps it as its cause (`Fault.wrap`).

* `isBroker_wrap` -- wrapping gives a fault of the broker's family;
* `wrap_of_isBroker` -- and changes none that belongs to it already.
-/

namespace StorageBroker

/-- A failure of the object storage client. -/
inductive StorageFault where
  /-- The storage refused an operation. -/
  | refused (code message operation : Text)
  | unspecified
  | unreachable (endpoint : Text)
deriving DecidableEq, Repr

namespace StorageFault

def text : StorageFault → Text
  | .refused code message operation =>
    "An error occurred (" ++ code ++ ") when calling the " ++ operation ++ " operation: "
      ++ message
  | .unspecified => "An unspecified error occurred"
  | .unreachable endpoint => "Could not connect to the endpoint URL: \"" ++ endpoint ++ "\""

end StorageFault

inductive Fault where
  /-- Data has not the shape that an operation needs. -/
  | malformed (m : Malformed)
  | storage (f : StorageFault)
  | general (message : Text)
  /-- Settings or catalog. -/
  | configuration (message : Text)
  /-- The management API cannot be used, or answers what cannot be read. -/
  | management (message : Text)
  /-- Something looked up by name does not exist. -/
  | resourceNotFound (message : Text)
  | http (f : HttpFault)
  /-- The broker's own report, with the fault behind it if there is one. -/
  | broker (message : Option Text) (cause : Option Fault)
  | instanceExists (instanceId serviceId : Value)
  | policyRefused (message : Option Text) (failure : Option ReclaimPolicy.Failure)
  | wipeFailed (bucket : Value) (errors : List Value)
deriving Inhabited

namespace Fault

/-- A message, or a word in place of a missing or an empty one. -/
def messageOr (message : Option Text) (word : Text) : Text :=
  match message with
  | some m => if m = "" then word else m
  | none => word

/-- **The text of a fault.** -/
def text : Fault → Text
  | .malformed m => m.text
  | .storage f => f.text
  | .general m | .configuration m | .management m | .resourceNotFound m => m
  | .http f => f.text
  | .broker m _ => messageOr m "ServiceBroker"
  | .instanceExists i s =>
    "Service instance with id " ++ i.plain ++ " already exists for service " ++ s.plain
  | .policyRefused m _ => messageOr m "ReclaimPolicyError"
  | .wipeFailed _ es =>
    "BucketWipe Failed with " ++ toString es.length ++ " errors: "
      ++ (match es with
        | [] => ""
        | e :: _ => e.plain)

/-- The faults that the broker reports to the platform. -/
def isBroker : Fault → Bool
  | .broker .. | .instanceExists .. | .policyRefused .. | .wipeFailed .. => true
  | _ => false

/-- The faults that come from using the management API. -/
def isManagement : Fault → Bool
  | .management _ | .resourceNotFound _ | .http _ => true
  | _ => false

/-- The faults that the library itself raises, as against data without the shape it needs. -/
def isOwn : Fault → Bool
  | .general _ | .configuration _ => true
  | f => f.isManagement || f.isBroker

/-- The broker's report of another fault. -/
def reportOf (cause : Fault) : Fault := .broker (some cause.text) (some cause)

/-- **A fault as the broker reports it**: its own faults unchanged, the library's other ones
wrapped, malformed data as it is. -/
def wrap (f : Fault) : Fault :=
  if f.isBroker then f else if f.isOwn then reportOf f else f

theorem wrap_of_isBroker {f : Fault} (h : f.isBroker) : f.wrap = f := by simp [wrap, h]

theorem isBroker_wrap {f : Fault} (h : f.isOwn) : f.wrap.isBroker := by
  by_cases hb : f.isBroker
  · rw [wrap_of_isBroker hb, hb]
  · rw [wrap, if_neg hb, if_pos h]; rfl

theorem wrap_wrap (f : Fault) : f.wrap.wrap = f.wrap := by
  by_cases ho : f.isOwn
  · exact wrap_of_isBroker (isBroker_wrap ho)
  · have hb : ¬ f.isBroker := fun h => ho (by cases f <;> simp_all [isOwn, isBroker])
    simp [wrap, ho, hb]

/-- A request of the management API whose answer says that the thing asked for is not there. -/
def isAbsence : Fault → Bool
  | .http f => f.kind == .notFound || f.kind == .badRequest
  | _ => false

/-- A failure of the storage client, as against any other fault that comes up beside it. -/
def isStorage : Fault → Bool
  | .storage _ => true
  | _ => false

end Fault

/-- Malformed data as a fault. -/
instance : MonadLift (Except Malformed) (Except Fault) where
  monadLift
    | .ok a => .ok a
    | .error m => .error (.malformed m)

end StorageBroker
