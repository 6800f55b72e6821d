import StorageBroker.Dialogue
import StorageBroker.Fault
/-!
# Actions

An action keeps a state, talks to the outside world and may fail. What it has done to the state
and to the world before a failure stays done: nothing is rolled back.

* `bind_run` -- the second of two actions runs in the state that the first one left, and not at
  all if the first one failed;
* `attempt_run` -- a failure can be taken as a result.
-/

namespace StorageBroker

/-- A computation with a state `σ` and the questions of `S`, which gives a result or fails. -/
def Action (S : Signature) (σ α : Type) := σ → Dialogue S (Except Fault α × σ)

namespace Action

variable {S : Signature} {σ τ α β : Type}

/-- The dialogue of an action from a state. -/
def run (x : Action S σ α) (s : σ) : Dialogue S (Except Fault α × σ) := x s

/-- An action given by its dialogues. -/
def of (f : σ → Dialogue S (Except Fault α × σ)) : Action S σ α := f

/-! ## 1. Sequencing -/

/-- Goes on after a success. -/
def bind (x : Action S σ α) (f : α → Action S σ β) : Action S σ β := fun s =>
  x.run s >>= fun r => match r with
    | (.ok a, s') => (f a).run s'
    | (.error e, s') => .done (.error e, s')

instance : Monad (Action S σ) where
  pure a := fun s => .done (.ok a, s)
  bind := bind

theorem pure_run (a : α) (s : σ) : (pure a : Action S σ α).run s = .done (.ok a, s) := rfl

theorem bind_run (x : Action S σ α) (f : α → Action S σ β) (s : σ) :
    (x >>= f).run s = (x.run s >>= fun r => match r with
      | (.ok a, s') => (f a).run s'
      | (.error e, s') => .done (.error e, s')) := rfl

/-! ## 2. Failure -/

/-- Fails. -/
def fail (e : Fault) : Action S σ α := fun s => .done (.error e, s)

/-- Goes on after a failure. -/
def recover (x : Action S σ α) (f : Fault → Action S σ α) : Action S σ α := fun s =>
  x.run s >>= fun r => match r with
    | (.ok a, s') => .done (.ok a, s')
    | (.error e, s') => (f e).run s'

instance : MonadExceptOf Fault (Action S σ) where
  throw := fail
  tryCatch := recover

instance : MonadLift (Except Fault) (Action S σ) where
  monadLift x := fun s => .done (x, s)

instance : MonadLift (Except Malformed) (Action S σ) where
  monadLift x := fun s => .done (x.mapError .malformed, s)

/-- The failure or the result of an action, as a result. -/
def attempt (x : Action S σ α) : Action S σ (Except Fault α) := fun s =>
  x.run s >>= fun r => .done (.ok r.1, r.2)

theorem attempt_run (x : Action S σ α) (s : σ) :
    x.attempt.run s = (x.run s >>= fun r => .done (.ok r.1, r.2)) := rfl

/-- Changes the fault of a failure. -/
def mapFault (f : Fault → Fault) (x : Action S σ α) : Action S σ α := fun s =>
  x.run s >>= fun r => .done (r.1.mapError f, r.2)

theorem mapFault_run (f : Fault → Fault) (x : Action S σ α) (s : σ) :
    (x.mapFault f).run s = (x.run s >>= fun r => .done (r.1.mapError f, r.2)) := rfl

/-! ## 3. State and questions -/

instance : MonadStateOf σ (Action S σ) where
  get := fun s => .done (.ok s, s)
  set s' := fun _ => .done (.ok (), s')
  modifyGet f := fun s => .done (.ok (f s).1, (f s).2)

/-- Holds a dialogue that leaves the state alone. -/
def perform (d : Dialogue S α) : Action S σ α := fun s => d >>= fun a => .done (.ok a, s)

theorem perform_run (d : Dialogue S α) (s : σ) :
    (perform d : Action S σ α).run s = (d >>= fun a => .done (.ok a, s)) := rfl

/-- Runs an action on a state of its own and gives what becomes of that state. -/
def stateAfter (x : Action S τ Unit) (t : τ) : Action S σ τ := fun s =>
  x.run t >>= fun r => .done (.ok r.2, s)

theorem stateAfter_run (x : Action S τ Unit) (t : τ) (s : σ) :
    (x.stateAfter t : Action S σ τ).run s = (x.run t >>= fun r => .done (.ok r.2, s)) := rfl

end Action

end StorageBroker
