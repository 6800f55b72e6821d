import StorageBroker.Wire
/-!
# A rehearsed management API

Answers of the management API that are laid down in advance. Logins have answers of their own and
then succeed with a fresh token each; other requests take the next answer of a queue while there is
one, and then the answer that stands for their method and path.

* `reply` -- which answer a request gets, and what is left for the requests after it.
-/

namespace StorageBroker.Rehearsal

/-- The answers that stand for a method and path. -/
inductive Route where
  | always (r : Reply)
  /-- One after the other, the last one for ever. -/
  | inTurn (first : Reply) (rest : List Reply)

namespace Route

/-- The answer of a route, and the route for the next request. -/
def take : Route → Reply × Route
  | .always r => (r, .always r)
  | .inTurn r [] => (r, .always r)
  | .inTurn r (next :: rest) => (r, .inTurn next rest)

end Route

structure Server where
  logins : List Reply
  /-- How many logins there have been. -/
  loginCount : Nat
  queue : List Reply
  routes : List (Text × Route)
  otherwise : Reply

namespace Server

/-- A response without headers. -/
def plainResponse (status : Int) (text : String) : Reply :=
  .response ⟨status, [], text.toUTF8.toList⟩

/-- The answer to a login when none is laid down. -/
def freshToken (count : Nat) : Reply :=
  .response ⟨200, [(Request.tokenHeader, "tok" ++ toString count)], []⟩

/-- What follows the first `://` of an address, or all of it if there is none. -/
def afterScheme : List Character → Option (List Character)
  | .scalar ':' :: .scalar '/' :: .scalar '/' :: cs => some cs
  | _ :: cs => afterScheme cs
  | [] => none

/-- The path of an address. -/
def path (url : Text) : Text :=
  let cs := url.toList
  Text.ofList (((afterScheme cs).getD cs).dropWhile (· != .scalar '/'))

/-- The answer to a login. -/
def replyToLogin (s : Server) : Reply × Server :=
  let count := s.loginCount + 1
  match s.logins with
  | r :: rest => (r, { s with logins := rest, loginCount := count })
  | [] => (freshToken count, { s with loginCount := count })

/-- Takes an answer from the route of a name. -/
def takeRoute (name : Text) : List (Text × Route) → Option (Reply × List (Text × Route))
  | [] => none
  | (n, route) :: rest =>
    if n = name then some (route.take.1, (n, route.take.2) :: rest)
    else (takeRoute name rest).map fun r => (r.1, (n, route) :: r.2)

/-- The answer to a request that is no login. -/
def replyToResource (s : Server) (method path : Text) : Reply × Server :=
  match s.queue with
  | r :: rest => (r, { s with queue := rest })
  | [] => match takeRoute (method ++ " " ++ path) s.routes with
    | some (r, routes) => (r, { s with routes })
    | none => (s.otherwise, s)

/-- **The answer to a request.** -/
def reply (s : Server) (q : Request) : Reply × Server :=
  if q.isLogin && path q.url == "/login" then s.replyToLogin
  else s.replyToResource q.method.plain (path q.url)

end Server

end StorageBroker.Rehearsal
