import StorageBroker.Proofs.Broker.Life
import StorageBroker.Proofs.Broker.Wiping
/-!
# Wiping takes a start

A wipe needs the tool that a start prepares. Before the first start that succeeds there is none, and
every wipe is refused before anything is sent. A start that fails behind one that has succeeded does
not take the tool back, so only there can a wipe follow a start that failed.

* `refused_of_not_ready` -- without the tool a wipe is refused;
* `wipe_refused_unless_started` -- what this means for a wipe anywhere in the life of a broker.
-/

namespace StorageBroker.Broker

/-! ## 1. Refusals -/

/-- The report of a wipe for which there is no tool. -/
def notStarted : Fault :=
  failure "Bucket wipe is not available, ECS service is not initialized"

/-- **The deed was refused for want of a start**: the broker reports it, and nothing was sent. -/
structure Refused (a : Account) : Prop where
  result : a.result = .error notStarted
  events : a.events = []

/-- The last start failed, although one before it had succeeded. -/
def Lost (ends : List Bool) : Prop := true ∈ ends ∧ ends.getLast? = some false

instance (ends : List Bool) : Decidable (Lost ends) := inferInstanceAs (Decidable (_ ∧ _))

/-- The last start succeeded if any did, unless it failed behind that one. -/
theorem getLast?_of_not_lost {ends : List Bool} (hkept : ¬ Lost ends) (h : true ∈ ends) :
    ends.getLast? = some true := by
  cases hlast : ends.getLast? with
  | none =>
    rw [List.getLast?_eq_none_iff.1 hlast] at h
    cases h
  | some last =>
    cases last with
    | true => rfl
    | false => exact absurd ⟨h, hlast⟩ hkept

variable {b : Broker} {σ : Type} {w : Dialogue.World Wire σ}

/-- **Without the tool a wipe is refused.** -/
theorem refused_of_not_ready {id : Value} {bs : State} (hready : bs.wipeReady = false) (s : Session)
    (st : σ) : Refused ((Deed.wipe id).account b w bs s st) := by
  obtain ⟨d, ready, parameters⟩ := bs
  cases hready
  exact ⟨rfl, rfl⟩

/-! ## 2. Wipes in the life of a broker -/

/-- **A wipe is refused unless the last start before it succeeded**, whatever else the broker was
told, in every world. What is left out is a start that fails behind one that succeeded: it leaves
the tool of the earlier one in place. -/
theorem wipe_refused_unless_started {deeds : List Deed} {s : Session} {st : σ}
    {before after : List Account} {a : Account} {id : Value}
    (h : b.life w deeds .start s st = before ++ a :: after) (hwipe : a.deed = .wipe id)
    (hkept : ¬ Lost (launches before)) :
    (launches before).getLast? = some true ∨ Refused a := by
  obtain ⟨bs', s', st', ha, _, hready⟩ := life_split h
  by_cases hstarted : true ∈ launches before
  · exact .inl (getLast?_of_not_lost hkept hstarted)
  · have hnot : bs'.wipeReady = false := by
      rw [hready, State.start, Bool.false_or, List.any_eq_false]
      rintro _ hmem rfl
      exact hstarted hmem
    rw [hwipe] at ha
    rw [ha]
    exact .inr (refused_of_not_ready hnot s' st')

/-- Whether a result is a failure of a kind. -/
def isFailure {α : Type} (kind : Fault → Bool) (r : Except Fault α) : Bool :=
  match r with
  | .error f => kind f
  | .ok _ => false

theorem failure_of_isFailure {α : Type} {kind : Fault → Bool} {r : Except Fault α}
    (h : isFailure kind r) : ∃ f, r = .error f ∧ kind f := by
  cases r with
  | error f => exact ⟨f, rfl, h⟩
  | ok a => cases h

/-- A broker that only has to discover its replication group. -/
def resident : Broker :=
  ⟨(bare.config.set .replicationGroup (.text "rg")).set .objectEndpoint (.text "https://s3"), ⟨[]⟩⟩

/-- A response that is a document. -/
def documented (text : String) : Reply := Rehearsal.Server.plainResponse 200 text

def emptyDocument : Reply := documented "\x7b\x7d"

def groupListing : Reply :=
  documented "\x7b\"data_service_vpool\":[\x7b\"id\":\"urn:rg\",\"name\":\"rg\"\x7d]\x7d"

def secretListing : Reply := documented "\x7b\"secret_key_1\":\"k\"\x7d"

def emptyList : Reply := documented "\x7b\"acl\":\x7b\x7d\x7d"

/-- A response without content to a request that is not granted. -/
def forbidden : Reply := Rehearsal.Server.plainResponse 403 ""

/-- A management API with a repository, and a bucket that can be wiped; the replication groups are
listed as a route says. -/
def housing (groups : Rehearsal.Route) : Rehearsal.State where
  server := ⟨[], 0, [],
    [("GET /vdc/data-service/vpools", groups),
      ("GET /object/user-secret-keys/ecs-cf-broker-user", .always secretListing),
      ("GET /object/bucket/ecs-cf-broker-b/acl", .always emptyList)],
    emptyDocument⟩
  depot := ⟨none, [], []⟩
  random := 0.5

/-- A wipe before the start is refused, the same wipe behind it is carried out. -/
theorem wipe_refused_unless_started_between :
    ∃ a₁ a₂ a₃, resident.life Rehearsal.world [.wipe (.text "b"), .launch, .wipe (.text "b")] .start
        (Session.expired.withToken none) (housing (.always groupListing)) = [a₁, a₂, a₃] ∧
      Refused a₁ ∧ launches [a₁, a₂] = [true] ∧ a₃.events.length = 6 := by
  obtain ⟨a₁, a₂, a₃, hlife, hwipe, hrun⟩ :
      ∃ a₁ a₂ a₃, resident.life Rehearsal.world [.wipe (.text "b"), .launch, .wipe (.text "b")]
          .start (Session.expired.withToken none) (housing (.always groupListing)) = [a₁, a₂, a₃] ∧
        a₁.deed = .wipe (.text "b") ∧ launches [a₁, a₂] = [true] ∧ a₃.events.length = 6 :=
    ⟨_, _, _, rfl, rfl, by decide +kernel⟩
  have hrefused := wipe_refused_unless_started (show _ = [] ++ a₁ :: [a₂, a₃] from hlife) hwipe
    (by decide)
  exact ⟨a₁, a₂, a₃, hlife, hrefused.resolve_left nofun, hrun⟩

/-- **A wipe can be carried out behind a start that failed**: where one before it has succeeded. -/
theorem wiped_behind_lost_start :
    ∃ a₁ a₂ a₃, resident.life Rehearsal.world [.launch, .launch, .wipe (.text "b")] .start
        (Session.expired.withToken none)
        (housing (.inTurn groupListing [forbidden])) = [a₁, a₂, a₃] ∧
      a₃.deed = .wipe (.text "b") ∧ launches [a₁, a₂] = [true, false] ∧ ¬ Refused a₃ := by
  obtain ⟨a₁, a₂, a₃, hlife, hwipe, hends, hsent⟩ :
      ∃ a₁ a₂ a₃, resident.life Rehearsal.world [.launch, .launch, .wipe (.text "b")] .start
          (Session.expired.withToken none)
          (housing (.inTurn groupListing [forbidden])) = [a₁, a₂, a₃] ∧
        a₃.deed = .wipe (.text "b") ∧ launches [a₁, a₂] = [true, false] ∧ a₃.events.length = 6 :=
    ⟨_, _, _, rfl, rfl, by decide +kernel⟩
  refine ⟨a₁, a₂, a₃, hlife, hwipe, hends, fun hrefused => ?_⟩
  rw [hrefused.events] at hsent
  cases hsent

end StorageBroker.Broker
