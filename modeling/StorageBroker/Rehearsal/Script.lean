import StorageBroker.Json.Tagged
import StorageBroker.Rehearsal.Failure
import StorageBroker.Json.Writer
import StorageBroker.Rehearsal
/-!
# Scripts of rehearsals

The answers of a rehearsal can be laid down in a document. What is not laid down has a default: an
empty object as the answer of the management API, and success for a deletion.

* `stage` -- the rehearsal of a document.
-/

namespace StorageBroker.Rehearsal.Script

open Json.Tagged (listOf)

def entriesIn (document : Value) : List (Text × Value) :=
  match document with
  | .mapping m => m.map fun e => (e.1.plain, e.2)
  | _ => []

/-! ## 1. The management API -/

/-- The body of a response: a document, bytes or a text. -/
def body (r : Value) : Except Malformed (List UInt8) := do
  match part? r "json", part? r "hex", part? r "text" with
  | some v, _, _ => return (Json.write (← Json.Tagged.read v)).toUTF8.toList
  | none, some h, _ => return Json.Tagged.readHex h.plain.scalars
  | none, none, some t => match Text.Utf8.encode? t.plain with
    | some bs => return bs
    | none => throw (.unencodable "surrogates not allowed")
  | none, none, none => return []

/-- The headers of a response, a token last if there is one. -/
def headers (r : Value) : List (Text × Text) :=
  let own := (entriesIn (part r "headers")).map fun h => (h.1, h.2.plain)
  match part? r "token" with
  | some t => own ++ [(Request.tokenHeader, t.plain)]
  | none => own

/-- The names of the failures of a transport. -/
def transportFailures : List Text :=
  ["RequestException", "ConnectionError", "ConnectTimeout", "HTTPError", "ReadTimeout", "Timeout",
   "TooManyRedirects", "URLRequired"]

/-- The failure of a name: one of the transport, or one before it comes to that. -/
def failed (name message : Text) : Reply :=
  if transportFailures.contains name then .failure message
  else .impossible (.operation ("there is no failure named '" ++ name ++ "'"))

/-- What comes of a request. -/
def reply (r : Value) : Except Malformed Reply := do
  match part? r "exception" with
  | some name => return failed name.plain (part r "message").plain
  | none =>
    let status := match part r "status" with
      | .int i => i
      | _ => 200
    return .response ⟨status, headers r, ← body r⟩

def route (v : Value) : Except Malformed Route := do
  match v with
  | .list (r :: rest) => return .inTurn (← reply r) (← rest.mapM reply)
  | v => return .always (← reply v)

def server (v : Value) : Except Malformed Server := do
  let logins ← (listOf (part v "login")).mapM reply
  let queue ← (listOf (part v "queue")).mapM reply
  let routes ← (entriesIn (part v "routes")).mapM fun e => do return (e.1, ← route e.2)
  let otherwise ← match part? v "default" with
    | some r => reply r
    | none => pure (Server.plainResponse 200 "\x7b\x7d")
  return ⟨logins, 0, queue, routes, otherwise⟩

/-! ## 2. The object storage -/

/-- The keys of a numbered range of objects. -/
def numbered (start : Text) (low high : Int) : List Value :=
  (List.range (high - low).toNat).map fun (n : Nat) => .text (start ++ toString (low + (n : Int)))

/-- A page of a listing with the given keys. -/
def pageOf (keys : List Value) : Value :=
  .mapping [(.text "Contents", .list (keys.map fun k => .mapping [(.text "Key", k)]))]

/-- A page of a listing or the answer to a deletion, or the failure in its place. -/
def stored (v : Value) : Except Fault (Except Fault Value) := do
  match v with
  | .mapping [(.text "error", spec)] => return .error (← fault spec)
  | .mapping [(.text "range", .list [start, .int low, .int high])] =>
    return .ok (pageOf (numbered start.plain low high))
  | v => return .ok (← Json.Tagged.read v)

def depot (v : Value) : Except Fault Depot := do
  let connectFault ← match part v "client_error" with
    | .null => pure none
    | spec => some <$> fault spec
  let pages ← (listOf (part v "pages")).mapM stored
  let deletions ← (listOf (part v "deletes")).mapM stored
  return ⟨connectFault, pages, deletions⟩

/-! ## 3. The whole -/

/-- The random number of a rehearsal, one half where none is laid down. -/
def randomNumber (v : Option Value) : Except Malformed Float := do
  match v with
  | none => return 0.5
  | some v =>
    match (← Json.Tagged.read v).number? with
    | some (.float x) => return x
    | some (.int i) => return Float.ofInt i
    | none => return 0.5

/-- **The rehearsal of a document.** -/
def stage (document : Value) : Except Fault State := do
  let http ← server (part document "http")
  let storage ← depot (part document "s3")
  return ⟨http, storage, ← randomNumber (part? document "random")⟩

end StorageBroker.Rehearsal.Script
