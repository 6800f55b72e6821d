import StorageBroker.Completeness
import StorageBroker.Remote
import StorageBroker.Retry
/-!
# Sessions

A session is the broker's standing with the management API: where it is, who logs in, and the token
that the last login gave. The token is fetched when the first request needs it and given up when a
request is refused for it; then the session logs in once more and sends the request again.

* `logout` -- the token is given up even if the farewell fails;
* `exchange` -- one attempt of a call: at most two logins and two requests;
* `request` -- reading calls are tried again, all others are made once.
-/

namespace StorageBroker

/-! ## 1. The session -/

structure Session where
  endpoint : Value
  username : Value
  password : Value
  verifySsl : Value
  timeout : Value
  retry : Option Retry.Policy
  token : Option Text

namespace Session

/-- A text without slashes at its end. -/
def withoutSlashes (s : Text) : Text :=
  Text.ofList (s.toList.reverse.dropWhile (· == .scalar '/')).reverse

/-- The address of an endpoint; slashes at its end do not count. -/
def address (endpoint : Value) : Except Malformed Value :=
  if endpoint.truthy then
    match endpoint with
    | .text s => .ok (.text (withoutSlashes s))
    | .bytes _ => .error (.kind "a bytes-like object is required, not 'str'")
    | v => .error (.lacks v "rstrip")
  else .ok endpoint

/-- The seconds that a request may take where nothing else is said. -/
def standardTimeout : Value := .int 60

/-- A session that has not logged in yet. -/
def start (endpoint username password verifySsl : Value) (timeout : Value)
    (retry : Option Retry.Policy) : Except Malformed Session := do
  return ⟨← address endpoint, username, password, verifySsl, timeout, retry, none⟩

/-- Whether the session holds a token. -/
def isLoggedIn (s : Session) : Bool := s.token.isSome

/-- The address of a path. -/
def url (s : Session) (path : Value) : Except Malformed Value := s.endpoint.joined path

/-- The address of a path as a text. -/
def urlText (s : Session) (path : Value) : Except Malformed Text := do
  match ← s.url path with
  | .text u => return u
  | v => throw (.kind ("an address must be a text, not " ++ v.kindName))

/-- The session as a text. -/
def text (s : Session) : Value := s.endpoint.orElse (.text "")

/-- How a session is shown; the password is not. -/
def shown (s : Session) : Text :=
  "ecs_broker.connection.Connection('" ++ s.endpoint.plain ++ "', '" ++ s.username.plain ++ "')"

/-! ## 2. Logging in -/

/-- The attributes that a login needs. -/
def loginNeeds : Value := .list [.text "endpoint", .text "username", .text "password"]

def loginAttributes (s : Session) : Mapping :=
  Mapping.ofNamed [("endpoint", s.endpoint), ("username", s.username), ("password", s.password)]

/-- Steps of a session. -/
abbrev Step := Action Wire Session

/-- Gives up the token. -/
def forget : Step Unit := modify fun s => { s with token := none }

/-- The token in the response to a login. -/
def tokenOf (r : Response) : Except Fault Text :=
  if r.status = 200 then
    match r.header? Request.tokenHeader with
    | some t =>
      if t = "" then .error (.management "Management login response has no auth token") else .ok t
    | none => .error (.management "Management login response has no auth token")
  else .error r.fault

/-- **Logs in** and keeps the token. -/
def login : Step Unit := do
  let s ← get
  Completeness.check "login" loginNeeds s.loginAttributes
  let u ← s.urlText (.text "/login")
  match ← Action.perform (Wire.send (.login u s.username s.password s.verifySsl s.timeout)) with
  | .impossible m => throw (.malformed m)
  | .failure m => throw (.management ("Login to " ++ s.endpoint.plain ++ " failed: " ++ m))
  | .response r =>
    let t ← tokenOf r
    modify fun s => { s with token := some t }

/-! ## 3. Requests -/

/-- A caller's headers, none if what stands for them counts as false. -/
def ownHeaders (headers : Value) : Except Malformed Mapping :=
  if headers.truthy then headers.entriesFor "copy" else .ok []

/-- The headers of a request: a caller's, the wanted kind of document unless the caller names one,
and the token. -/
def headersWith (own : Mapping) (token : Option Text) : Mapping :=
  let accepting :=
    if Mapping.contains own Request.acceptHeader then own
    else Mapping.set own Request.acceptHeader Request.documentType
  Mapping.set accepting Request.tokenHeader (match token with
    | some t => .text t
    | none => .null)

/-- Sends one request with the token that the session holds. -/
def send (method : Value) (url : Text) (params : Mapping) (body headers : Value) :
    Step Response := do
  let own ← ownHeaders headers
  let s ← get
  let q : Request := .resource method url params (headersWith own s.token) body s.verifySsl s.timeout
  match ← Action.perform (Wire.send q) with
  | .impossible m => throw (.malformed m)
  | .failure m => throw (.management (method.plain ++ " " ++ url ++ " failed: " ++ m))
  | .response r => return r

/-- **Logs out**: says farewell if there is a token, and gives it up in any case. -/
def logout : Step Unit := do
  if (← get).isLoggedIn then
    let farewell : Step Unit := do
      let u ← (← get).urlText (.text "/logout")
      let _ ← send "GET" u [] .null .null
    let outcome ← farewell.attempt
    forget
    match outcome with
    | .ok _ => return
    | .error f => throw f

/-- The parameters that have a value. -/
def given (params : Mapping) : Mapping := params.filter fun e => !e.2.isNull

/-- What a call makes of a response: it must have an accepted status and, where the call asks for
it, be a document. -/
def accept (c : Call) (r : Response) : Except Fault Response := do
  if ← c.accepted.holds (.int r.status) then
    if c.parse && r.document?.isNone then
      throw (.management ("Management response is not JSON: " ++ (Value.bytes r.body).plain))
    else return r
  else throw r.fault

/-- The request of a call, sent once more after a new login if it is refused for its token. -/
def deliver (c : Call) (url : Text) : Step Response := do
  let first ← send c.method url (given c.params) c.body c.headers
  if first.status = 401 then
    forget
    login
    send c.method url (given c.params) c.body c.headers
  else return first

/-- **One attempt of a call.** -/
def exchange (c : Call) : Step Response := do
  if !(← get).isLoggedIn then login
  let u ← (← get).urlText c.path
  accept c (← deliver c u)

/-- **A call**, tried again as the session's policy says if it only reads. -/
def request (c : Call) : Step Response :=
  if c.isReading then do
    Retry.retrying (← get).retry Retry.standardCodes (exchange c)
  else exchange c

/-! ## 4. Carrying out operations -/

/-- The answer of a session to a question of an operation. -/
def serve : (q : Remote.Question) → Session → Dialogue Wire (q.Answer × Session)
  | .call c, s => (request c).run s
  | .storage q, s => Wire.askStorage q >>= fun a => .done (a, s)

/-- **An operation carried out over a session.** -/
def carryOut {α : Type} (d : Dialogue Remote α) (s : Session) : Dialogue Wire (α × Session) :=
  d.delegate (S := Remote) serve s

end Session

end StorageBroker
