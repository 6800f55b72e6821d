import StorageBroker.Dialogue
import StorageBroker.Storage
import StorageBroker.Value.Mapping
import StorageBroker.Json.Reader
/-!
# The wire

What the broker asks of the outside: it sends HTTP requests to the management API, uses the object
storage, waits, and draws random numbers. Login requests carry a user name and a password, all
others a token in their headers.

* `Response.header?` -- header names are told regardless of case;
* `Response.document` -- the value of the JSON document in a body.
-/

namespace StorageBroker

/-! ## 1. Requests and responses -/

/-- An HTTP request as it is sent. -/
inductive Request where
  | login (url : Text) (username password verify timeout : Value)
  | resource (method : Value) (url : Text) (params headers : Mapping) (body verify timeout : Value)

namespace Request

/-- The name of the header that asks for a kind of document. -/
def acceptHeader : Text := "Accept"

/-- The kind of document that the broker asks for. -/
def documentType : Value := .text "application/json"

/-- The name of the header with the token, in requests and in the response to a login. -/
def tokenHeader : Text := "X-SDS-AUTH-TOKEN"

def method : Request → Value
  | .login .. => .text "GET"
  | .resource m .. => m

def url : Request → Text
  | .login u .. => u
  | .resource _ u .. => u

/-- The headers that the broker gives a request. -/
def headers : Request → Mapping
  | .login .. => Mapping.ofNamed [(acceptHeader, documentType)]
  | .resource _ _ _ hs .. => hs

def isLogin : Request → Bool
  | .login .. => true
  | .resource .. => false

end Request

structure Response where
  status : Int
  headers : List (Text × Text)
  body : List UInt8

namespace Response

/-- The name of a header in small letters; one sign outside ASCII has the small letter `k` too. -/
def headerKey (name : Text) : Text :=
  name.map fun c => if c = '\u212A' then 'k' else c.toLower

/-- The value of a header; of several the last one counts. -/
def header? (r : Response) (name : Text) : Option Text :=
  (r.headers.reverse.find? fun h => headerKey h.1 == headerKey name).map Prod.snd

/-- The value of the document in the body, if the body is one. -/
def document? (r : Response) : Option Value := Json.readBytes r.body

/-- The value of the document in the body; nothing if the body is none. -/
def document (r : Response) : Value := r.document?.getD .null

/-- The failure that a response with an unexpected status is. -/
def fault (r : Response) : Fault := .http (HttpFault.ofCode r.status (.bytes r.body))

end Response

/-- What comes of sending a request. -/
inductive Reply where
  | response (r : Response)
  /-- The transport failed, with a report of it. -/
  | failure (message : Text)
  /-- There is no way to send the request. -/
  | impossible (m : Malformed)

/-! ## 2. Questions -/

inductive Wire.Question where
  | http (r : Request)
  | storage (q : Storage.Question)
  | pause (seconds : Float)
  /-- A number from zero up to, but not including, one. -/
  | random

def Wire.Question.Answer : Wire.Question → Type
  | .http _ => Reply
  | .storage q => q.Answer
  | .pause _ => Unit
  | .random => Float

/-- The questions that the broker asks of the outside. -/
def Wire : Signature := ⟨Wire.Question, Wire.Question.Answer⟩

namespace Wire

variable {σ : Type}

/-- Sends a request. -/
def send (r : Request) : Dialogue Wire Reply := @Dialogue.question Wire (.http r)

/-- Asks the object storage. -/
def askStorage (q : Storage.Question) : Dialogue Wire q.Answer := @Dialogue.question Wire (.storage q)

def pause (seconds : Float) : Dialogue Wire Unit := @Dialogue.question Wire (.pause seconds)

def random : Dialogue Wire Float := @Dialogue.question Wire .random

end Wire

end StorageBroker
