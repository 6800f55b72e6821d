import StorageBroker.Rehearsal.Server
/-!
# Rehearsals

A world in which every answer is laid down in advance: those of the management API, those of the
object storage, and one random number that is drawn every time.

* `world` -- the rehearsal as a world that dialogues can be run in.
-/

namespace StorageBroker.Rehearsal

/-- Answers of the object storage. -/
structure Depot where
  /-- Why no client can be built. -/
  connectFault : Option Fault
  pages : List (Except Fault Value)
  deletions : List (Except Fault Value)

namespace Depot

/-- The pages up to the first failure, which ends a listing. -/
def upToFailure : List (Except Fault Value) → List (Except Fault Value)
  | [] => []
  | .ok p :: rest => .ok p :: upToFailure rest
  | .error f :: _ => [.error f]

/-- The answer to a question; a deletion for which none is laid down succeeds. -/
def answer (d : Depot) : (q : Storage.Question) → q.Answer × Depot
  | .connect .. => match d.connectFault with
    | some f => (.error f, d)
    | none => (.ok (), d)
  | .list .. => (upToFailure d.pages, d)
  | .delete .. => match d.deletions with
    | r :: rest => (r, { d with deletions := rest })
    | [] => (.ok (.mapping []), d)

end Depot

/-- Everything that is laid down. -/
structure State where
  server : Server
  depot : Depot
  random : Float

/-- The answer to a question. -/
def answer : (q : Wire.Question) → State → q.Answer × State
  | .http r, s =>
    let (reply, server) := s.server.reply r
    (reply, { s with server })
  | .storage q, s =>
    let (a, depot) := s.depot.answer q
    (a, { s with depot })
  | .pause _, s => ((), s)
  | .random, s => (s.random, s)

/-- **The world of a rehearsal.** -/
def world : Dialogue.World Wire State := ⟨answer⟩

end StorageBroker.Rehearsal
