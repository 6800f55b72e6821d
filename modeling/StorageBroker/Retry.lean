import StorageBroker.Action
import StorageBroker.Wire
import StorageBroker.Value.Joined
/-!
# Sending again

A request that failed in a way that may pass is sent again after a while. The wait grows by a
factor with each failure until it reaches its greatest length, and a random part is added so that
several clients do not come back all at once.

* `retrying_none` -- without a policy there is one attempt;
* `retrying_int` -- with a count of retries there are that many further ones;
* `loop` -- as many further attempts as the policy allows, one pause before each;
* `invoke` -- an operation of an object, under the policy that it finds there.

A policy holds what its settings give. What has to be a number is looked at when a failure makes it
count, so a wrong one does no harm to an action that succeeds.
-/

namespace StorageBroker.Retry

/-! ## 1. Policies -/

/-- When and how often to try again; all times are in seconds. -/
structure Policy where
  maxRetries : Value := .int 3
  initialDelay : Value := .int 1
  maxBackoff : Value := .int 8
  factor : Value := .int 2
  randomize : Value := .bool true

/-- The policy of a session that is given none. -/
def standard : Policy := {}

namespace Policy

/-- A policy with a setting of a name; there are no others than its five. -/
def set (p : Policy) (name : Text) (v : Value) : Except Malformed Policy :=
  match name with
  | "max_retries" => .ok { p with maxRetries := v }
  | "initial_delay" => .ok { p with initialDelay := v }
  | "max_backoff" => .ok { p with maxBackoff := v }
  | "backoff_factor" => .ok { p with factor := v }
  | "randomize" => .ok { p with randomize := v }
  | _ => .error (.kind ("a retry policy has no setting '" ++ name ++ "'"))

/-- The policy in data, standard where it says nothing. -/
def ofData (data : Mapping) : Except Malformed Policy := do
  (← Mapping.named data).foldlM (fun p e => p.set e.1 e.2) standard

def toData (p : Policy) : Mapping :=
  Mapping.ofNamed
    [("max_retries", p.maxRetries), ("initial_delay", p.initialDelay),
     ("max_backoff", p.maxBackoff), ("backoff_factor", p.factor), ("randomize", p.randomize)]

end Policy

/-- The codes that are worth another attempt where nothing else is said. -/
def standardCodes : Value := .tuple (HttpKind.retryCodes.map .int)

/-- Whether a failure is worth another attempt. -/
def isRetryable (codes : Value) : Fault → Except Malformed Bool
  | .http f => codes.holds f.code
  | _ => .ok false

theorem isRetryable_standard (f : HttpFault) :
    isRetryable standardCodes (.http f) = .ok ((HttpKind.retryCodes.map .int).any f.code.equal) :=
  rfl

/-! ## 2. Delays -/

/-- A value that has to be a number. -/
def asNumber (v : Value) : Except Malformed Number :=
  match v.number? with
  | some n => .ok n
  | none => .error (.kind ("must be real number, not " ++ v.kindName))

/-- A number that has to be a double. -/
def asFloat (n : Number) : Except Malformed Float :=
  match n.toFloat? with
  | some x => .ok x
  | none => .error (.magnitude "int too large to convert to float")

/-- A power of a finite number has to be finite. -/
def power (x y : Float) : Except Malformed Float :=
  let z := x.pow y
  if z.isInf && x.isFinite then .error (.magnitude "math range error") else .ok z

/-- The delay after `n` retries: the next step of the growth, cut at the greatest delay. A delay
that has reached the greatest one stays. -/
def nextDelay (p : Policy) (n : Nat) (delay : Number) : Except Malformed Number := do
  let most ← asNumber p.maxBackoff
  if delay.lt most then
    let growth ← power (← asFloat (← asNumber p.factor)) (Float.ofNat n)
    return most.min (.float (growth * (← asFloat (← asNumber p.initialDelay))))
  else return delay

variable {σ α : Type}

/-- Waits for a delay and a random part of the initial one. -/
def wait (p : Policy) (delay : Number) : Action Wire σ Unit := do
  let extra ← if p.randomize.truthy then do
      let r ← Action.perform Wire.random
      let d ← asFloat (← asNumber p.initialDelay)
      pure (Number.float (r * d))
    else pure (.int 0)
  match delay.add extra with
  | some total => Action.perform (Wire.pause (← asFloat total))
  | none => throw (.malformed (.magnitude "int too large to convert to float"))

/-! ## 3. Attempts -/

/-- Attempts with a number of retries left. -/
def loop (p : Policy) (codes : Value) (x : Action Wire σ α) :
    (left : Nat) → (n : Nat) → (delay : Number) → Action Wire σ α
  | 0, _, _ => x
  | left + 1, n, delay => do
    match ← x.attempt with
    | .ok a => return a
    | .error f =>
      if ← isRetryable codes f then
        let delay ← nextDelay p n delay
        wait p delay
        loop p codes x left (n + 1) delay
      else throw f

/-- One attempt whose failure cannot be counted. -/
def uncounted (m : Malformed) (x : Action Wire σ α) : Action Wire σ α := do
  match ← x.attempt with
  | .ok a => return a
  | .error (.http _) => throw (.malformed m)
  | .error f => throw f

/-- **An action that is tried again** after a failure with one of the codes, as often as the policy
says. -/
def retrying (policy : Option Policy) (codes : Value) (x : Action Wire σ α) : Action Wire σ α :=
  match policy with
  | none => x
  | some p => match asNumber p.maxRetries with
    | .ok most => loop p codes x most.countBelow 0 (.int 0)
    | .error m => uncounted m x

theorem retrying_none (codes : Value) (x : Action Wire σ α) : retrying none codes x = x := rfl

theorem retrying_int {p : Policy} {m : Int} (h : p.maxRetries = .int m) (codes : Value)
    (x : Action Wire σ α) : retrying (some p) codes x = loop p codes x m.toNat 0 (.int 0) := by
  simp [retrying, asNumber, h, Value.number?, Number.countBelow_int]

/-! ## 4. Operations of objects -/

/-- Where an operation takes its policy from. It comes with the operation, which may say that there
is none, or is kept by the object under a name. -/
inductive Source where
  | fixed (policy : Option Policy)
  | attribute (name : Text)

/-- The name under which an object keeps its policy where nothing else is said. -/
def Source.usual : Source := .attribute "_retry_params"

/-- **The policy of an operation** of an object with some attributes; where the object keeps none
under the name, a fallback takes its place. -/
def Source.policy (attributes : List (Text × Option Policy)) (fallback : Option Policy) :
    Source → Option Policy
  | .fixed p => p
  | .attribute name => (attributes.lookup name).getD fallback

/-- **An operation of an object**, tried again as its policy says. -/
def invoke (attributes : List (Text × Option Policy)) (fallback : Option Policy)
    (source : Source) (codes : Value) (x : Action Wire σ α) : Action Wire σ α :=
  retrying (source.policy attributes fallback) codes x

end StorageBroker.Retry
