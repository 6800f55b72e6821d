import StorageBroker.Action
import StorageBroker.Wire
/-!
# Calls of the management API

The operations of the broker do not send requests themselves. They make calls, which a session
carries out: it logs in where needed, adds what belongs to every request, tries again after a
failure that may pass, and fails where the response is not the expected one. So an operation is a
dialogue of calls and questions to the object storage.

* `Call` -- what is left to a caller: method, path, body, parameters and the statuses it accepts.
-/

namespace StorageBroker

/-- A call of the management API. Parameters without a value are not sent. -/
structure Call where
  method : Value := "GET"
  path : Value
  body : Value := .null
  /-- Whether the body of the response has to be a document. -/
  parse : Bool := false
  /-- The statuses of a success. -/
  accepted : Value := .list [.int 200]
  headers : Value := .null
  params : Mapping := []

namespace Call

/-- Whether a call only reads. -/
def isReading (c : Call) : Bool :=
  match c.method with
  | .text m => m == "GET"
  | _ => false

/-- A call with one more named part; a name of no part is that of a parameter. -/
def withPart (c : Call) (name : Text) (v : Value) : Except Malformed Call :=
  match name with
  | "op" => .ok { c with method := v }
  | "path" => .ok { c with path := v }
  | "body" => .ok { c with body := v }
  | "parse" => .ok { c with parse := v.truthy }
  | "ok" => .ok { c with accepted := v }
  | "headers" => .ok { c with headers := v }
  | "self" => .error (.kind "got multiple values for argument 'self'")
  | name => .ok { c with params := Mapping.set c.params name v }

/-- The call that named parts make. -/
def ofNamed (parts : List (Text × Value)) : Except Malformed Call :=
  parts.foldlM (fun c e => c.withPart e.1 e.2) { path := "" }

theorem withPart_parameter (c : Call) (v : Value) {name : Text}
    (h : name ∉ (["op", "path", "body", "parse", "ok", "headers", "self"] : List Text)) :
    c.withPart name v = .ok { c with params := Mapping.set c.params name v } := by
  unfold withPart
  split <;> simp_all

end Call

inductive Remote.Question where
  | call (c : Call)
  | storage (q : Storage.Question)

def Remote.Question.Answer : Remote.Question → Type
  | .call _ => Except Fault Response
  | .storage q => q.Answer

/-- The questions that the broker's operations ask. -/
def Remote : Signature := ⟨Remote.Question, Remote.Question.Answer⟩

namespace Remote

/-- Makes a call, and leaves it open whether it fails. -/
def tryCall (c : Call) : Dialogue Remote (Except Fault Response) :=
  @Dialogue.question Remote (.call c)

/-- Asks the object storage. -/
def askStorage (q : Storage.Question) : Dialogue Remote q.Answer :=
  @Dialogue.question Remote (.storage q)

/-- **Makes a call**, and fails if it does. -/
def call {σ : Type} (c : Call) : Action Remote σ Response := fun s =>
  tryCall c >>= fun r => .done (r, s)

theorem call_run {σ : Type} (c : Call) (s : σ) :
    (call c : Action Remote σ Response).run s =
      @Dialogue.ask Remote _ (.call c) fun r => .done (r, s) := rfl

end Remote

end StorageBroker
