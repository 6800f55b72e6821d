import StorageBroker.Broker.Startup
import StorageBroker.Proofs.Broker.Commands
/-!
# The life of a broker

A broker is started, does what the platform tells it, and may be started again: one deed after the
other, each from what the one before has left. What a start has set up -- what was discovered and
the tool for wiping -- is set up by starts alone, and a start that fails takes only the first of the
two back.

* `Leaves` -- operations that leave alone what is told of the broker;
* `Command.leaves`, `leaves_wipeAndDelete` -- no command changes what a start has set up;
* `launch_cases` -- what a start that succeeds has done, and what one that fails leaves behind;
* `life`, `Account` -- deeds in a row, with what each of them sent and came to;
* `life_split` -- every deed of a life is carried out with what the deeds before it have left.
-/

namespace StorageBroker.Broker

open Management

/-! ## 1. What is left alone -/

section Leaves

variable {α β γ : Type} {p : State → γ} {P : Call → Prop}
  {R : Except Fault Response → Except Fault α → Prop}

/-- **The operation leaves alone what is told of the broker.** -/
def Leaves (p : State → γ) (x : Operation α) : Prop :=
  ∀ s es r s', x.Course s es r s' → p s' = p s

theorem leaves_of_makes {x : Operation α} (h : Makes P R x) : Leaves p x := by
  intro s es r s' hcourse
  rw [(h _ _ _ _ hcourse).1]

theorem leaves_pure {a : α} : Leaves p (pure a : Operation α) := by
  intro s es r s' h
  rw [(Action.course_pure.1 h).2.2]

theorem leaves_throw {f : Fault} : Leaves p (throw f : Operation α) := by
  intro s es r s' h
  rw [(Action.course_throw.1 h).2.2]

/-- What stands behind a failure is not begun. -/
theorem leaves_throw_bind {f : Fault} {k : β → Operation α} :
    Leaves p (throw f >>= k : Operation α) := by
  intro s es r s' h
  obtain ⟨_, hthrow, _⟩ | ⟨_, _, _, _, hthrow, _⟩ := Action.course_bind.1 h
  · rw [(Action.course_throw.1 hthrow).2.2]
  · cases (Action.course_throw.1 hthrow).2.1

theorem leaves_lift {x : Except Malformed α} : Leaves p (liftM x : Operation α) := by
  intro s es r s' h
  rw [(Action.course_lift_malformed.1 h).2.2]

theorem leaves_lift_fault {x : Except Fault α} : Leaves p (liftM x : Operation α) := by
  intro s es r s' h
  rw [(Action.course_lift.1 h).2.2]

theorem leaves_perform {d : Dialogue Remote α} : Leaves p (Action.perform d : Operation α) := by
  intro s es r s' h
  obtain ⟨_, _, _, rfl⟩ := Action.course_perform.1 h
  rfl

theorem leaves_stateAfter {τ : Type} {x : Action Remote τ Unit} {t : τ} :
    Leaves p (x.stateAfter t : Operation τ) := by
  intro s es r s' h
  obtain ⟨_, _, _, _, rfl⟩ := Action.course_stateAfter.1 h
  rfl

theorem Leaves.bind {x : Operation β} {f : β → Operation α} (hx : Leaves p x)
    (hf : ∀ b, Leaves p (f b)) : Leaves p (x >>= f) := by
  intro s es r s' h
  obtain ⟨_, hfirst, _⟩ | ⟨_, b, s₁, _, hfirst, hnext, _⟩ := Action.course_bind.1 h
  · exact hx _ _ _ _ hfirst
  · exact (hf b _ _ _ _ hnext).trans (hx _ _ _ _ hfirst)

theorem Leaves.lift_bind {x : Except Malformed β} {f : β → Operation α}
    (hf : ∀ b, Leaves p (f b)) : Leaves p (liftM x >>= f) := leaves_lift.bind hf

theorem Leaves.get_bind {f : State → Operation α} (hf : ∀ s, Leaves p (f s)) :
    Leaves p (get >>= f) := fun s _ _ _ h => hf s _ _ _ _ (Action.course_get_bind.1 h)

theorem Leaves.mapFault {x : Operation α} {g : Fault → Fault} (hx : Leaves p x) :
    Leaves p (x.mapFault g) := by
  intro s es r s' h
  obtain ⟨_, hinner, _⟩ := Action.course_mapFault.1 h
  exact hx _ _ _ _ hinner

theorem Leaves.attempt {x : Operation α} (hx : Leaves p x) : Leaves p x.attempt := by
  intro s es r s' h
  obtain ⟨_, hinner, _⟩ := Action.course_attempt.1 h
  exact hx _ _ _ _ hinner

end Leaves

/-! ## 2. Commands -/

/-- **What a start sets up**: what was discovered, and whether there is a tool for wiping. -/
def setUp (s : State) : Option Discovery × Bool := (s.discovery, s.wipeReady)

variable (b : Broker)

theorem leaves_note {given now : Value} : Leaves setUp (note given now) := by
  intro s es r s' h
  rw [(Action.course_modify.1 h).2.2]
  rfl

theorem leaves_discovered : Leaves setUp discovered := by
  refine .get_bind fun s => ?_
  split
  · exact leaves_pure
  · exact leaves_throw

/-- What has been discovered is at hand. -/
theorem course_discovered_bind {α : Type} {f : Discovery → Operation α} {s s' : State}
    {es : List (Dialogue.Event Remote)} {r : Except Fault α} {d : Discovery}
    (hd : s.discovery = some d) (h : (discovered >>= f).Course s es r s') :
    (f d).Course s es r s' := by
  have hgiven : ∀ {es r s'}, discovered.Course s es r s' → es = [] ∧ r = .ok d ∧ s' = s := by
    intro es r s' hcourse
    rw [discovered, Action.course_get_bind, hd] at hcourse
    exact Action.course_pure.1 hcourse
  obtain ⟨f, hfirst, _⟩ | ⟨es₁, d', s₁, es₂, hfirst, hnext, rfl⟩ := Action.course_bind.1 h
  · cases (hgiven hfirst).2.1
  · obtain ⟨rfl, hd', rfl⟩ := hgiven hfirst
    cases hd'
    exact hnext

theorem leaves_effective {given : Value} {plan : Plan} {service : ServiceDefinition} :
    Leaves setUp (effective given plan service) := by
  refine .lift_bind fun merged => leaves_note.bind fun _ => leaves_note.bind fun _ => ?_
  split
  · exact leaves_throw
  · exact leaves_pure

theorem leaves_checkPolicy {parameters : Value} : Leaves setUp (checkPolicy parameters) := by
  refine leaves_discovered.bind fun d => .lift_bind fun c => ?_
  split
  · exact leaves_pure
  · exact leaves_throw

theorem leaves_bucketExists {id : Value} : Leaves setUp (b.bucketExists id) :=
  .mapFault <| .lift_bind fun _ => leaves_of_makes Bucket.makes_exist

theorem leaves_bucketFileEnabled {id : Value} : Leaves setUp (b.bucketFileEnabled id) :=
  .mapFault <| .lift_bind fun _ => (leaves_of_makes Bucket.makes_get).bind fun _ => leaves_pure

theorem leaves_applyBucketQuota {name parameters : Value} :
    Leaves setUp (b.applyBucketQuota name parameters) := by
  refine .lift_bind fun quota => ?_
  split
  · exact .lift_bind fun _ => .lift_bind fun _ => leaves_of_makes Bucket.makes_createQuota
  · exact leaves_pure

theorem leaves_applyBucketRetention {name parameters : Value} :
    Leaves setUp (b.applyBucketRetention name parameters) := by
  refine .lift_bind fun period => ?_
  split
  · exact leaves_of_makes Bucket.makes_updateRetention
  · exact leaves_pure

theorem leaves_createBucket {id parameters : Value} {service : ServiceDefinition} {plan : Plan} :
    Leaves setUp (b.createBucket id service plan parameters) := by
  refine leaves_note.bind fun _ => .mapFault <| .lift_bind fun name => ?_
  refine b.leaves_bucketExists.bind fun there => ?_
  dsimp only
  split
  · exact leaves_throw_bind
  refine leaves_effective.bind fun effective => leaves_checkPolicy.bind fun _ => ?_
  refine leaves_discovered.bind fun d => .lift_bind fun body => ?_
  refine (leaves_of_makes Bucket.makes_create).bind fun _ => ?_
  exact b.leaves_applyBucketQuota.bind fun _ => b.leaves_applyBucketRetention.bind fun _ =>
    leaves_pure

theorem leaves_changeBucketPlan {id parameters : Value} {service : ServiceDefinition}
    {plan : Plan} : Leaves setUp (b.changeBucketPlan id service plan parameters) := by
  refine leaves_note.bind fun _ => .mapFault <| leaves_effective.bind fun effective => ?_
  refine leaves_checkPolicy.bind fun _ => .lift_bind fun name => ?_
  refine .lift_bind fun limit => .lift_bind fun warn => ?_
  split
  · exact .lift_bind fun _ => leaves_note.bind fun _ =>
      (leaves_of_makes Bucket.makes_deleteQuota).bind fun _ => leaves_pure
  · exact (leaves_of_makes Bucket.makes_createQuota).bind fun _ => leaves_pure

theorem leaves_namespaceExists {id : Value} : Leaves setUp (b.namespaceExists id) :=
  .mapFault <| .lift_bind fun _ => leaves_of_makes Namespace.makes_exist

theorem leaves_applyNamespaceQuota {name parameters : Value} :
    Leaves setUp (applyNamespaceQuota name parameters) := by
  refine .lift_bind fun quota => ?_
  split
  · exact .lift_bind fun _ => .lift_bind fun _ => leaves_of_makes Namespace.makes_createQuota
  · exact leaves_pure

theorem leaves_createClasses {name : Value} (classes : Mapping) :
    Leaves setUp (createClasses name classes) := by
  induction classes with
  | nil => exact leaves_pure
  | cons entry rest ih => exact (leaves_of_makes Namespace.makes_createRetention).bind fun _ => ih

theorem leaves_reconcile {given name : Value} (classes : Mapping) (effective : Value) :
    Leaves setUp (reconcile given name classes effective) := by
  induction classes generalizing effective with
  | nil => exact leaves_pure
  | cons entry rest ih =>
    refine (leaves_of_makes Namespace.makes_retentionExist).bind fun there => ?_
    split
    · split
      · exact (leaves_of_makes Namespace.makes_deleteRetention).bind fun _ =>
          .lift_bind fun _ => leaves_note.bind fun _ => ih _
      · exact ih _
    · dsimp only
      split
      · exact (leaves_of_makes Namespace.makes_updateRetention).bind fun _ => ih _
      · exact (leaves_of_makes Namespace.makes_createRetention).bind fun _ => ih _

theorem leaves_createNamespace {id parameters : Value} {service : ServiceDefinition}
    {plan : Plan} : Leaves setUp (b.createNamespace id service plan parameters) := by
  refine leaves_note.bind fun _ => .mapFault <| b.leaves_namespaceExists.bind fun there => ?_
  dsimp only
  split
  · exact leaves_throw_bind
  refine leaves_effective.bind fun effective => .lift_bind fun name => ?_
  refine leaves_discovered.bind fun d => .lift_bind fun body => ?_
  refine (leaves_of_makes Namespace.makes_create).bind fun _ => ?_
  exact leaves_applyNamespaceQuota.bind fun _ => .lift_bind fun classes =>
    (leaves_createClasses classes).bind fun _ => leaves_pure

theorem leaves_changeNamespacePlan {id parameters : Value} {service : ServiceDefinition}
    {plan : Plan} : Leaves setUp (b.changeNamespacePlan id service plan parameters) := by
  refine leaves_note.bind fun _ => .mapFault <| .lift_bind fun name => ?_
  refine leaves_effective.bind fun effective => .lift_bind fun body => ?_
  exact (leaves_of_makes Namespace.makes_update).bind fun _ => .lift_bind fun classes =>
    leaves_reconcile classes effective

theorem leaves_addUser {bucketId userId permissions : Value} :
    Leaves setUp (b.addUser bucketId userId permissions) := by
  refine .mapFault <| .lift_bind fun name => .lift_bind fun user => ?_
  refine (leaves_of_makes Bucket.makes_getAcl).bind fun acl => .lift_bind fun entry => ?_
  refine .lift_bind fun acl => (leaves_of_makes Bucket.makes_updateAcl).bind fun _ => ?_
  refine b.leaves_bucketFileEnabled.bind fun enabled => ?_
  split
  · exact leaves_of_makes Bucket.makes_updatePolicy
  · exact leaves_pure

theorem leaves_startWipe {id : Value} : Leaves setUp (b.startWipe id) := by
  refine .mapFault <| .get_bind fun s => ?_
  dsimp only
  split
  · exact leaves_throw_bind
  · exact b.leaves_addUser

theorem leaves_addExport {id relative : Value} : Leaves setUp (b.addExport id relative) := by
  refine .mapFault <| .lift_bind fun name => ?_
  refine (leaves_of_makes Export.makes_list).bind fun exports => ?_
  cases exports with
  | some _ => exact leaves_pure
  | none => exact (leaves_of_makes Export.makes_create).bind fun _ => leaves_pure

theorem leaves_createUser {id namespaceId : Value} :
    Leaves setUp (b.createUser id namespaceId) := by
  refine .mapFault <| .lift_bind fun ns => .lift_bind fun user => ?_
  refine (leaves_of_makes User.makes_create).bind fun _ => ?_
  refine (leaves_of_makes User.makes_createSecret).bind fun _ => ?_
  exact (leaves_of_makes User.makes_listSecrets).bind fun _ => leaves_lift

theorem leaves_userExists {id : Value} : Leaves setUp (b.userExists id) :=
  .mapFault <| .lift_bind fun _ => leaves_of_makes User.makes_exist

theorem leaves_namespaceUrl {ns parameters settings : Value} :
    Leaves setUp (namespaceUrl ns parameters settings) := by
  refine .mapFault <| .lift_bind fun own => .lift_bind fun merged => ?_
  refine leaves_discovered.bind fun d => .lift_bind fun name => .lift_bind fun useSsl => ?_
  refine (leaves_of_makes BaseUrl.makes_list).bind fun urls => ?_
  split
  · exact leaves_throw
  · split
    · exact leaves_throw
    · exact (leaves_of_makes BaseUrl.makes_get).bind fun _ => leaves_pure

/-- **No command changes what a start has set up.** -/
theorem Command.leaves (cmd : Command) : Leaves setUp (cmd.perform b) := by
  cases cmd with
  | provision p id service plan parameters =>
    cases p with
    | createBucket => exact b.leaves_createBucket
    | changeBucketPlan => exact b.leaves_changeBucketPlan
    | createNamespace => exact b.leaves_createNamespace
    | changeNamespacePlan => exact b.leaves_changeNamespacePlan
  | bucketExists id => exact b.leaves_bucketExists
  | bucketFileEnabled id => exact b.leaves_bucketFileEnabled
  | deleteBucket id => exact .mapFault <| .lift_bind fun _ => leaves_of_makes Bucket.makes_delete
  | startWipe id => exact b.leaves_startWipe
  | addUser bucketId userId permissions => exact b.leaves_addUser
  | removeUser bucketId userId =>
    refine .mapFault <| .lift_bind fun name => .lift_bind fun user => ?_
    exact (leaves_of_makes Bucket.makes_getAcl).bind fun acl => .lift_bind fun acl =>
      leaves_of_makes Bucket.makes_updateAcl
  | addExport id relative => exact b.leaves_addExport
  | createUser id namespaceId => exact b.leaves_createUser
  | userExists id => exact b.leaves_userExists
  | deleteUser id => exact .mapFault <| .lift_bind fun _ => leaves_of_makes User.makes_delete
  | createUserMap id uid =>
    exact .mapFault <| .lift_bind fun _ => leaves_of_makes User.makes_createMap
  | deleteUserMap id uid =>
    exact .mapFault <| .lift_bind fun _ => leaves_of_makes User.makes_deleteMap
  | namespaceExists id => exact b.leaves_namespaceExists
  | deleteNamespace id =>
    exact .mapFault <| .lift_bind fun _ => leaves_of_makes Namespace.makes_delete
  | namespaceUrl ns parameters settings => exact leaves_namespaceUrl

/-- The deletion of a bucket with its objects does not either. -/
theorem leaves_wipeAndDelete {id : Value} : Leaves setUp (b.wipeAndDelete id) := by
  have hfinish : ∀ progress, Leaves setUp (b.finishWipe id progress) := by
    intro progress
    refine .lift_bind fun name => ?_
    split
    · exact .mapFault (leaves_of_makes Bucket.makes_delete)
    · exact leaves_throw
  refine b.leaves_startWipe.bind fun _ => .lift_bind fun name => ?_
  exact leaves_stateAfter.bind fun progress => (hfinish progress).attempt

/-! ## 3. Starts -/

section Starts

variable {γ : Type} {p : State → γ} {s s' : State} {es : List (Dialogue.Event Remote)}

/-- A discovery changes nothing. -/
theorem leaves_discover {config : Configuration} :
    Leaves p (Discovery.discover config : Operation Discovery) := by
  have hendpoint : Leaves p (Discovery.findObjectEndpoint config : Operation (Value × Value)) := by
    unfold Discovery.findObjectEndpoint
    dsimp only
    split
    · exact leaves_pure
    refine (leaves_of_makes BaseUrl.makes_list).bind fun urls => ?_
    cases urls with
    | nil => exact leaves_throw
    | cons first rest =>
      exact leaves_lift_fault.bind fun url => (leaves_of_makes BaseUrl.makes_get).bind fun info =>
        leaves_pure
  have hgroup : Leaves p (Discovery.findReplicationGroup config : Operation Value) := by
    refine (leaves_of_makes ReplicationGroup.makes_list).bind fun groups => ?_
    split
    · exact leaves_pure
    · exact leaves_throw
  exact hendpoint.bind fun found => hgroup.bind fun group => leaves_lift_fault.bind fun policy =>
    leaves_pure

theorem leaves_secretOf {id : Value} : Leaves setUp (b.secretOf id) := by
  refine .lift_bind fun user => (leaves_of_makes User.makes_listSecrets).bind fun keys => ?_
  split
  · exact leaves_pure
  · exact leaves_throw

theorem leaves_prepareRepositoryBucket : Leaves setUp b.prepareRepositoryBucket := by
  refine b.leaves_bucketExists.bind fun there => ?_
  split
  · exact leaves_lift_fault.bind fun offer => b.leaves_createBucket.bind fun _ => leaves_pure
  · exact leaves_pure

theorem leaves_prepareRepository : Leaves setUp b.prepareRepository := by
  refine b.leaves_prepareRepositoryBucket.bind fun _ => b.leaves_userExists.bind fun there => ?_
  split
  · exact b.leaves_createUser.bind fun key => b.leaves_addUser.bind fun _ => leaves_pure
  · exact b.leaves_secretOf

/-- The tool for wiping is there exactly behind its preparation. -/
theorem prepareWipe_cases {r : Except Fault Unit} (h : b.prepareWipe.Course s es r s') :
    (r = .ok () ∧ s' = { s with wipeReady := true }) ∨ ((∃ f, r = .error f) ∧ s' = s) := by
  have hprepare (d : Discovery) (user : Value) : Leaves id
      (Wipe.prepare d.repositoryEndpoint user d.repositorySecret : Operation Unit) := by
    refine .mapFault (leaves_perform.bind fun answer => ?_)
    split
    · exact leaves_pure
    · exact leaves_throw
  rw [prepareWipe, Action.course_get_bind] at h
  split at h
  · obtain ⟨_, hr, hs⟩ := Action.course_throw.1 h
    exact .inr ⟨⟨_, hr⟩, hs⟩
  · rw [Action.course_lift_malformed_bind] at h
    obtain ⟨m, _, _, hr, hs⟩ | ⟨user, _, h⟩ := h
    · exact .inr ⟨⟨_, hr⟩, hs⟩
    rw [Action.course_bind] at h
    obtain ⟨f, hfirst, rfl⟩ | ⟨_, _, s₁, _, hfirst, h, _⟩ := h
    · exact .inr ⟨⟨f, rfl⟩, hprepare _ _ _ _ _ _ hfirst⟩
    · obtain rfl : s₁ = s := hprepare _ _ _ _ _ _ hfirst
      obtain ⟨_, hr, hs⟩ := Action.course_modify.1 h
      exact .inl ⟨hr, hs⟩

/-- **What a start that succeeds has done**: it has discovered what was left open, prepared the
repository, and then the tool for wiping. -/
structure Started (s : State) (es : List (Dialogue.Event Remote)) (d : Discovery) (s' : State) :
    Prop where
  discovery : s'.discovery = some d
  wipeReady : s'.wipeReady = true
  steps : ∃ d₀ secret es₁ es₂ es₃ s₁ s₂ s₃ s₄,
    (Discovery.discover b.config : Operation Discovery).Course s es₁ (.ok d₀) s₁ ∧
      b.prepareRepository.Course s₂ es₂ (.ok secret) s₃ ∧
      b.prepareWipe.Course s₄ es₃ (.ok ()) s' ∧ es = es₁ ++ (es₂ ++ es₃) ∧
      d = { d₀ with repositorySecret := secret }

/-- **A start succeeds**, or fails without a change to the tool for wiping. -/
theorem startUp_cases {r : Except Fault Discovery} (h : b.startUp.Course s es r s') :
    (∃ d, r = .ok d ∧ b.Started s es d s') ∨
      ((∃ f, r = .error f) ∧ s'.wipeReady = s.wipeReady) := by
  rw [startUp, Action.course_bind] at h
  obtain ⟨f, hdiscover, rfl⟩ | ⟨es₁, d, s₁, _, hdiscover, h, rfl⟩ := h
  · exact .inr ⟨⟨f, rfl⟩, leaves_discover _ _ _ _ hdiscover⟩
  have hs₁ : s₁.wipeReady = s.wipeReady := leaves_discover _ _ _ _ hdiscover
  rw [keep, Action.course_modify_bind, Action.course_bind] at h
  obtain ⟨f, hrepository, rfl⟩ | ⟨es₂, secret, s₂, _, hrepository, h, rfl⟩ := h
  · have hs' := b.leaves_prepareRepository _ _ _ _ hrepository
    exact .inr ⟨⟨f, rfl⟩, (Prod.mk.inj hs').2.trans hs₁⟩
  have hs₂ := b.leaves_prepareRepository _ _ _ _ hrepository
  dsimp only at h
  rw [keep, Action.course_modify_bind, Action.course_bind] at h
  obtain ⟨f, hwipe, rfl⟩ | ⟨es₃, _, s₃, _, hwipe, h, rfl⟩ := h
  · obtain ⟨hf, _⟩ | ⟨_, rfl⟩ := b.prepareWipe_cases hwipe
    · cases hf
    · exact .inr ⟨⟨f, rfl⟩, (Prod.mk.inj hs₂).2.trans hs₁⟩
  · obtain ⟨_, rfl⟩ | ⟨⟨f, hf⟩, _⟩ := b.prepareWipe_cases hwipe
    · obtain ⟨rfl, rfl, rfl⟩ := Action.course_pure.1 h
      refine .inl ⟨_, rfl, rfl, rfl, d, secret, es₁, es₂, es₃, _, _, _, _, hdiscover, hrepository,
        hwipe, ?_, rfl⟩
      rw [List.append_nil]
    · cases hf

/-- **A start that fails takes back what was discovered**, and nothing else. -/
theorem launch_cases {r : Except Fault Discovery} (h : b.launch.Course s es r s') :
    (∃ d, r = .ok d ∧ b.Started s es d s') ∨
      ((∃ f, r = .error f) ∧ s'.discovery = none ∧ s'.wipeReady = s.wipeReady) := by
  rw [launch, Action.course_bind] at h
  obtain ⟨f, hstart, _⟩ | ⟨_, _, s₁, _, hstart, h, rfl⟩ := h
  · obtain ⟨_, _, hf⟩ := Action.course_attempt.1 hstart
    cases hf
  obtain ⟨r₁, hstart, hr⟩ := Action.course_attempt.1 hstart
  cases hr
  obtain ⟨d, rfl, hstarted⟩ | ⟨⟨f, rfl⟩, hready⟩ := b.startUp_cases hstart
  · obtain ⟨rfl, rfl, rfl⟩ := Action.course_pure.1 h
    rw [List.append_nil]
    exact .inl ⟨d, rfl, hstarted⟩
  · obtain ⟨rfl, rfl, rfl⟩ := Action.course_throw.1 (Action.course_modify_bind.1 h)
    exact .inr ⟨⟨_, rfl⟩, rfl, hready⟩

end Starts

/-! ## 4. Deeds in a row -/

/-- **What is done with a broker.** -/
inductive Deed where
  | launch
  | command (cmd : Command)
  | wipe (id : Value)

/-- What a deed gives. -/
def Deed.Result : Deed → Type
  | .launch => Discovery
  | .command cmd => cmd.Result
  | .wipe _ => Except Fault Unit

/-- The operation of a deed. -/
def Deed.perform : (x : Deed) → Operation x.Result
  | .launch => b.launch
  | .command cmd => cmd.perform b
  | .wipe id => b.wipeAndDelete id

/-- **A deed with what it came to and what it sent.** -/
structure Account where
  deed : Deed
  result : Except Fault deed.Result
  events : Session.Events

/-- Whether a deed is a start, and then whether it succeeded. -/
def Account.launched? (a : Account) : Option Bool :=
  match a.deed with
  | .launch => some a.result.isOk
  | _ => none

/-- How the starts in a row of deeds ended, in order. -/
def launches (as : List Account) : List Bool := as.filterMap Account.launched?

section Life

variable {σ : Type} (w : Dialogue.World Wire σ)

/-- A deed carried out over a session. -/
def Deed.run (x : Deed) (bs : State) (s : Session) (st : σ) :
    Dialogue.Outcome Wire σ ((Except Fault x.Result × State) × Session) :=
  Dialogue.run w (Session.carryOut ((x.perform b).run bs) s) st

/-- The account of a deed. -/
def Deed.account (x : Deed) (bs : State) (s : Session) (st : σ) : Account :=
  ⟨x, (x.run b w bs s st).result.1.1, (x.run b w bs s st).events⟩

/-- **Deeds one after the other**, each carried out with what the ones before have left. -/
def life : List Deed → State → Session → σ → List Account
  | [], _, _, _ => []
  | x :: xs, bs, s, st =>
    let o := x.run b w bs s st
    x.account b w bs s st :: life xs o.result.1.2 o.result.2 o.state

/-- What deeds one after the other leave of the broker's state. -/
def remains : List Deed → State → Session → σ → State
  | [], bs, _, _ => bs
  | x :: xs, bs, s, st =>
    let o := x.run b w bs s st
    remains xs o.result.1.2 o.result.2 o.state

variable {w} {b}

theorem course_of_run (x : Deed) (bs : State) (s : Session) (st : σ) :
    (x.perform b).Course bs
      ((Session.turns w ((x.perform b).run bs) s st).map Dialogue.Turn.event)
      (x.account b w bs s st).result (x.run b w bs s st).result.1.2 :=
  Session.course_carryOut w ((x.perform b).run bs) s st

/-- **The tool for wiping is there behind a deed if it was there before it**, or if the deed is a
start that succeeded. -/
theorem wipeReady_of_run (x : Deed) (bs : State) (s : Session) (st : σ) :
    (x.run b w bs s st).result.1.2.wipeReady =
      (bs.wipeReady || (launches [x.account b w bs s st]).any id) := by
  have hcourse := course_of_run (b := b) (w := w) x bs s st
  cases x with
  | launch =>
    have hlaunches : launches [Deed.launch.account b w bs s st] =
        [(Deed.launch.account b w bs s st).result.isOk] := rfl
    rw [hlaunches, List.any_cons, List.any_nil, Bool.or_false]
    obtain ⟨d, hd, hstarted⟩ | ⟨⟨f, hf⟩, _, hready⟩ := b.launch_cases hcourse
    · rw [hd, hstarted.wipeReady]
      exact (Bool.or_true _).symm
    · rw [hf, hready]
      exact (Bool.or_false _).symm
  | command cmd =>
    have hset := cmd.leaves b _ _ _ _ hcourse
    exact (Prod.mk.inj hset).2.trans (Bool.or_false _).symm
  | wipe id =>
    have hset := b.leaves_wipeAndDelete _ _ _ _ hcourse
    exact (Prod.mk.inj hset).2.trans (Bool.or_false _).symm

/-- **Every deed of a life is carried out with what the deeds before it have left**: the session is
the first one but for its token, and the tool for wiping is there if it was from the beginning, or
if a start before has succeeded. -/
theorem life_split {deeds : List Deed} {bs : State} {s : Session} {st : σ}
    {before after : List Account} {a : Account}
    (h : b.life w deeds bs s st = before ++ a :: after) :
    ∃ bs' s' st', a = a.deed.account b w bs' s' st' ∧ Session.Succeeds s s' ∧
      bs'.wipeReady = (bs.wipeReady || (launches before).any id) := by
  induction deeds generalizing bs s st before with
  | nil => simp [life] at h
  | cons x xs ih =>
    rw [life] at h
    cases before with
    | nil =>
      obtain ⟨rfl, _⟩ := List.cons.inj h
      exact ⟨bs, s, st, rfl, ⟨⟨s.token, rfl⟩, fun hs => hs⟩, (Bool.or_false _).symm⟩
    | cons first before =>
      obtain ⟨rfl, hrest⟩ := List.cons.inj h
      obtain ⟨bs', s', st', ha, ⟨⟨t, rfl⟩, hsound⟩, hready⟩ := ih hrest
      have hsession := (Session.turns_succeed w ((x.perform b).run bs) s st).2
      obtain ⟨⟨t', ht'⟩, hsound'⟩ := hsession
      refine ⟨bs', _, st', ha, ⟨⟨t, ?_⟩, fun hs => hsound (hsound' hs)⟩, ?_⟩
      · show (x.run b w bs s st).result.2.withToken t = s.withToken t
        rw [show (x.run b w bs s st).result.2 = s.withToken t' from ht']
        rfl
      · rw [hready, wipeReady_of_run, Bool.or_assoc, ← List.any_append, launches, launches,
          ← List.filterMap_append]
        rfl

/-- The deeds of a life are the ones that it was given. -/
theorem deeds_life {deeds : List Deed} {bs : State} {s : Session} {st : σ} :
    (b.life w deeds bs s st).map Account.deed = deeds := by
  induction deeds generalizing bs s st with
  | nil => rfl
  | cons x xs ih => exact congrArg (x :: ·) ih

end Life

end StorageBroker.Broker
