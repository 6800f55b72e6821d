import StorageBroker.Value.Integer
/-!
# HTTP failures

A request that the management API answers with an unexpected status fails with that status. Some
statuses have a kind of their own: those that may vanish by themselves are transient, those that
will not are fatal.

* `ofStatus_int` -- the failure of a numeric status;
* `mem_retryCodes_iff` -- the codes worth a retry are those of the transient kinds.
-/

namespace StorageBroker

inductive HttpKind where
  | plain
  | fatal
  | transient
  | requestTimeout
  | internalServer
  | badGateway
  | serviceUnavailable
  | gatewayTimeout
  | notFound
  | badRequest
  | forbidden
  | unauthorized
  | conflict
  | tooManyRequests
deriving DecidableEq, Repr

/-- What a kind of failure says about sending the request again. -/
inductive HttpFamily where
  | fatal
  | transient
deriving DecidableEq, Repr

namespace HttpKind

def all : List HttpKind :=
  [.plain, .fatal, .transient, .requestTimeout, .internalServer, .badGateway,
   .serviceUnavailable, .gatewayTimeout, .notFound, .badRequest, .forbidden, .unauthorized,
   .conflict, .tooManyRequests]

theorem mem_all (k : HttpKind) : k ∈ all := by cases k <;> decide

/-- The name of a kind. -/
def name : HttpKind → Text
  | .plain => "Http"
  | .fatal => "Fatal"
  | .transient => "Transient"
  | .requestTimeout => "RequestTimeout"
  | .internalServer => "InternalServer"
  | .badGateway => "BadGateway"
  | .serviceUnavailable => "ServiceUnavailable"
  | .gatewayTimeout => "GatewayTimeout"
  | .notFound => "NotFound"
  | .badRequest => "BadRequest"
  | .forbidden => "Forbidden"
  | .unauthorized => "Unauthorized"
  | .conflict => "Conflict"
  | .tooManyRequests => "TooManyRequests"

def ofName? (s : Text) : Option HttpKind := all.find? fun k => k.name == s

theorem ofName?_name (k : HttpKind) : ofName? k.name = some k := by cases k <;> decide

/-- The kinds that have a status of their own. -/
def coded : List HttpKind :=
  [.requestTimeout, .internalServer, .badGateway, .serviceUnavailable, .gatewayTimeout, .notFound,
   .badRequest, .forbidden, .unauthorized, .conflict, .tooManyRequests]

/-- The status of a kind. -/
def code? : HttpKind → Option Int
  | .plain | .fatal | .transient => none
  | .requestTimeout => some 408
  | .internalServer => some 500
  | .badGateway => some 502
  | .serviceUnavailable => some 503
  | .gatewayTimeout => some 504
  | .notFound => some 404
  | .badRequest => some 400
  | .forbidden => some 403
  | .unauthorized => some 401
  | .conflict => some 409
  | .tooManyRequests => some 429

def family? : HttpKind → Option HttpFamily
  | .plain => none
  | .fatal | .notFound | .badRequest | .forbidden | .unauthorized | .conflict => some .fatal
  | .transient | .requestTimeout | .internalServer | .badGateway | .serviceUnavailable
  | .gatewayTimeout | .tooManyRequests => some .transient

/-- The kind of a status. -/
def ofCode? (code : Int) : Option HttpKind := coded.find? fun k => k.code? == some code

theorem code?_of_ofCode? {code : Int} {k : HttpKind} (h : ofCode? code = some k) :
    k.code? = some code := by
  simpa using List.find?_some h

theorem ofCode?_of_code? {code : Int} {k : HttpKind} (h : k.code? = some code) :
    ofCode? code = some k := by
  cases k <;> simp [code?] at h <;> subst h <;> decide

/-- The codes that are worth sending a request again. -/
def retryCodes : List Int :=
  (coded.filter fun k => k.family? == some .transient).filterMap code?

theorem mem_retryCodes_iff {code : Int} :
    code ∈ retryCodes ↔ ∃ k, ofCode? code = some k ∧ k.family? = some .transient := by
  constructor
  · intro h
    simp only [retryCodes, List.mem_filterMap, List.mem_filter, beq_iff_eq] at h
    obtain ⟨k, ⟨_, hf⟩, hc⟩ := h
    exact ⟨k, ofCode?_of_code? hc, hf⟩
  · rintro ⟨k, hk, hf⟩
    simp only [retryCodes, List.mem_filterMap, List.mem_filter, beq_iff_eq]
    exact ⟨k, ⟨List.mem_of_find?_eq_some hk, hf⟩, code?_of_ofCode? hk⟩

end HttpKind

/-- A failure with a status; the message is usually the body of the answer. -/
structure HttpFault where
  kind : HttpKind
  message : Value
  code : Value

namespace HttpFault

/-- A failure of a kind. A code that counts as false gives way to the code of the kind. -/
def make (kind : HttpKind) (message code : Value) : HttpFault :=
  { kind, message,
    code := if code.truthy then code
      else match kind.code? with
        | some c => .int c
        | none => .null }

/-- The failure of a numeric status. -/
def ofCode (code : Int) (message : Value) : HttpFault :=
  match HttpKind.ofCode? code with
  | some kind => make kind message .null
  | none => make .plain message (.int code)

/-- **The failure of any status.** What reads as an integer is taken as one; a text or a number
that does not is kept as it is; anything else is refused. -/
def ofStatus (status message : Value) : Except Malformed HttpFault :=
  match status with
  | .int i => .ok (ofCode i message)
  | .bool b => .ok (make .plain message (.bool b))
  | status => match status.toInteger with
    | .ok i => .ok (ofCode i message)
    | .error (.content _) => .ok (make .plain message status)
    | .error m => .error m

theorem ofStatus_int (code : Int) (message : Value) :
    ofStatus (.int code) message = .ok (ofCode code message) := rfl

/-- The text of the failure. -/
def text (f : HttpFault) : Text :=
  "HTTP Error " ++ f.code.plain ++ if f.message.truthy then ": " ++ f.message.plain else ""

end HttpFault

end StorageBroker
