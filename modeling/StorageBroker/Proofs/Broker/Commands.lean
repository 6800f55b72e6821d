import StorageBroker.Proofs.Management.FailStop
import StorageBroker.Proofs.Session.Operations
import StorageBroker.Broker.Namespaces
import StorageBroker.Broker.Users
import StorageBroker.Broker.Wiping
/-!
# Commands

What the platform can tell a broker to do, as data. Whatever it is, the broker makes its calls one
after the other, stops at the first one that fails and reports that failure, wrapped once.

* `Provision`, `Command` -- the commands; those that provision an instance are alike;
* `Command.failStop`, `Command.wrapped` -- every command stops at a failure and reports it;
* `carryOut_stops_at_failure` -- the same for commands carried out over a session, in every world.
-/

namespace StorageBroker.Broker

open Management

/-! ## 1. Commands -/

/-- What provisions an instance or changes how it is provisioned. -/
inductive Provision where
  | createBucket
  | changeBucketPlan
  | createNamespace
  | changeNamespacePlan
deriving DecidableEq, Repr

/-- The operation of a provision. -/
def Provision.perform (b : Broker) : Provision → Value → ServiceDefinition → Plan → Value →
    Operation Value
  | .createBucket => b.createBucket
  | .changeBucketPlan => b.changeBucketPlan
  | .createNamespace => b.createNamespace
  | .changeNamespacePlan => b.changeNamespacePlan

/-- **What the platform can tell a broker to do.** Of the deletion of a bucket with its objects only
the start is a command; what comes of it is told later. -/
inductive Command where
  | provision (p : Provision) (id : Value) (service : ServiceDefinition) (plan : Plan)
      (parameters : Value)
  | bucketExists (id : Value)
  | bucketFileEnabled (id : Value)
  | deleteBucket (id : Value)
  | startWipe (id : Value)
  | addUser (bucketId userId permissions : Value)
  | removeUser (bucketId userId : Value)
  | addExport (id relative : Value)
  | createUser (id namespaceId : Value)
  | userExists (id : Value)
  | deleteUser (id : Value)
  | createUserMap (id uid : Value)
  | deleteUserMap (id uid : Value)
  | namespaceExists (id : Value)
  | deleteNamespace (id : Value)
  | namespaceUrl (ns parameters settings : Value)

/-- What a command gives. -/
def Command.Result : Command → Type
  | .provision .. => Value
  | .bucketExists _ | .bucketFileEnabled _ | .userExists _ | .namespaceExists _ => Bool
  | .addExport .. | .namespaceUrl .. => Text
  | .createUser .. => Record
  | _ => Unit

/-- **The operation of a command.** -/
def Command.perform (b : Broker) : (cmd : Command) → Operation cmd.Result
  | .provision p id service plan parameters => p.perform b id service plan parameters
  | .bucketExists id => b.bucketExists id
  | .bucketFileEnabled id => b.bucketFileEnabled id
  | .deleteBucket id => b.deleteBucket id
  | .startWipe id => b.startWipe id
  | .addUser bucketId userId permissions => b.addUser bucketId userId permissions
  | .removeUser bucketId userId => b.removeUser bucketId userId
  | .addExport id relative => b.addExport id relative
  | .createUser id namespaceId => b.createUser id namespaceId
  | .userExists id => b.userExists id
  | .deleteUser id => b.deleteUser id
  | .createUserMap id uid => b.createUserMap id uid
  | .deleteUserMap id uid => b.deleteUserMap id uid
  | .namespaceExists id => b.namespaceExists id
  | .deleteNamespace id => b.deleteNamespace id
  | .namespaceUrl ns parameters settings => Broker.namespaceUrl ns parameters settings

variable (b : Broker)

/-! ## 2. Parts of commands -/

theorem failStop_note {given now : Value} : FailStop (note given now) := failStop_modify

theorem failStop_discovered : FailStop discovered := by
  refine .get_bind fun s => ?_
  split
  · exact failStop_pure
  · exact failStop_throw

theorem failStop_effective {given : Value} {plan : Plan} {service : ServiceDefinition} :
    FailStop (effective given plan service) := by
  refine .lift_bind fun merged => failStop_note.bind fun _ => failStop_note.bind fun _ => ?_
  split
  · exact failStop_throw
  · exact failStop_pure

theorem failStop_checkPolicy {parameters : Value} : FailStop (checkPolicy parameters) := by
  refine failStop_discovered.bind fun d => .lift_bind fun c => ?_
  split
  · exact failStop_pure
  · exact failStop_throw

theorem failStop_bucketExists {id : Value} : FailStop (b.bucketExists id) :=
  .wrapped <| .lift_bind fun _ => Bucket.makes_exist.failStop_of_probed fun _ h => .bucket h

theorem failStop_namespaceExists {id : Value} : FailStop (b.namespaceExists id) :=
  .wrapped <| .lift_bind fun _ => Namespace.makes_exist.failStop_of_probed fun _ h => .ofNamespace h

theorem failStop_bucketFileEnabled {id : Value} : FailStop (b.bucketFileEnabled id) :=
  .wrapped <| .lift_bind fun _ => Bucket.makes_get.failStop.bind fun _ => failStop_pure

theorem failStop_applyBucketQuota {name parameters : Value} :
    FailStop (b.applyBucketQuota name parameters) := by
  refine .lift_bind fun quota => ?_
  split
  · exact .lift_bind fun _ => .lift_bind fun _ => Bucket.makes_createQuota.fails.failStop
  · exact failStop_pure

theorem failStop_applyBucketRetention {name parameters : Value} :
    FailStop (b.applyBucketRetention name parameters) := by
  refine .lift_bind fun period => ?_
  split
  · exact Bucket.makes_updateRetention.fails.failStop
  · exact failStop_pure

theorem failStop_applyNamespaceQuota {name parameters : Value} :
    FailStop (applyNamespaceQuota name parameters) := by
  refine .lift_bind fun quota => ?_
  split
  · exact .lift_bind fun _ => .lift_bind fun _ => Namespace.makes_createQuota.fails.failStop
  · exact failStop_pure

theorem failStop_createClasses {name : Value} (classes : Mapping) :
    FailStop (createClasses name classes) := by
  induction classes with
  | nil => exact failStop_pure
  | cons entry rest ih => exact Namespace.makes_createRetention.fails.failStop.bind fun _ => ih

/-- Each retention class is brought in order by a probe and at most one more call. -/
theorem failStop_reconcile {given name : Value} (classes : Mapping) (effective : Value) :
    FailStop (reconcile given name classes effective) := by
  induction classes generalizing effective with
  | nil => exact failStop_pure
  | cons entry rest ih =>
    have hprobe : FailStop (Namespace.retentionExist name entry.1 : Operation Bool) :=
      Namespace.makes_retentionExist.failStop_of_probed fun _ h => .retentionClass h
    refine hprobe.bind fun there => ?_
    split
    · split
      · exact Namespace.makes_deleteRetention.fails.failStop.bind fun _ =>
          .lift_bind fun _ => failStop_note.bind fun _ => ih _
      · exact ih _
    · dsimp only
      split
      · exact Namespace.makes_updateRetention.fails.failStop.bind fun _ => ih _
      · exact Namespace.makes_createRetention.fails.failStop.bind fun _ => ih _

/-! ## 3. Provisions -/

theorem failStop_createBucket {id parameters : Value} {service : ServiceDefinition} {plan : Plan} :
    FailStop (b.createBucket id service plan parameters) := by
  refine failStop_note.bind fun _ => .wrapped <| .lift_bind fun name => ?_
  refine (b.failStop_bucketExists).bind fun there => ?_
  dsimp only
  split
  · exact failStop_throw_bind
  refine failStop_effective.bind fun effective => failStop_checkPolicy.bind fun _ => ?_
  refine failStop_discovered.bind fun d => .lift_bind fun body => ?_
  refine Bucket.makes_create.fails.failStop.bind fun _ => ?_
  exact b.failStop_applyBucketQuota.bind fun _ => b.failStop_applyBucketRetention.bind fun _ =>
    failStop_pure

theorem failStop_changeBucketPlan {id parameters : Value} {service : ServiceDefinition}
    {plan : Plan} : FailStop (b.changeBucketPlan id service plan parameters) := by
  refine failStop_note.bind fun _ => .wrapped <| failStop_effective.bind fun effective => ?_
  refine failStop_checkPolicy.bind fun _ => .lift_bind fun name => ?_
  refine .lift_bind fun limit => .lift_bind fun warn => ?_
  split
  · exact .lift_bind fun _ => failStop_note.bind fun _ =>
      Bucket.makes_deleteQuota.fails.failStop.bind fun _ => failStop_pure
  · exact Bucket.makes_createQuota.fails.failStop.bind fun _ => failStop_pure

theorem failStop_createNamespace {id parameters : Value} {service : ServiceDefinition}
    {plan : Plan} : FailStop (b.createNamespace id service plan parameters) := by
  refine failStop_note.bind fun _ => .wrapped <| b.failStop_namespaceExists.bind fun there => ?_
  dsimp only
  split
  · exact failStop_throw_bind
  refine failStop_effective.bind fun effective => .lift_bind fun name => ?_
  refine failStop_discovered.bind fun d => .lift_bind fun body => ?_
  refine Namespace.makes_create.fails.failStop.bind fun _ => ?_
  exact failStop_applyNamespaceQuota.bind fun _ => .lift_bind fun classes =>
    (failStop_createClasses classes).bind fun _ => failStop_pure

theorem failStop_changeNamespacePlan {id parameters : Value} {service : ServiceDefinition}
    {plan : Plan} : FailStop (b.changeNamespacePlan id service plan parameters) := by
  refine failStop_note.bind fun _ => .wrapped <| .lift_bind fun name => ?_
  refine failStop_effective.bind fun effective => .lift_bind fun body => ?_
  exact Namespace.makes_update.fails.failStop.bind fun _ => .lift_bind fun classes =>
    failStop_reconcile classes effective

theorem Provision.failStop (p : Provision) {id parameters : Value} {service : ServiceDefinition}
    {plan : Plan} : FailStop (p.perform b id service plan parameters) := by
  cases p with
  | createBucket => exact b.failStop_createBucket
  | changeBucketPlan => exact b.failStop_changeBucketPlan
  | createNamespace => exact b.failStop_createNamespace
  | changeNamespacePlan => exact b.failStop_changeNamespacePlan

/-! ## 4. The other commands -/

theorem failStop_addUser {bucketId userId permissions : Value} :
    FailStop (b.addUser bucketId userId permissions) := by
  refine .wrapped <| .lift_bind fun name => .lift_bind fun user => ?_
  refine Bucket.makes_getAcl.failStop.bind fun acl => .lift_bind fun entry => ?_
  refine .lift_bind fun acl => Bucket.makes_updateAcl.fails.failStop.bind fun _ => ?_
  refine b.failStop_bucketFileEnabled.bind fun enabled => ?_
  split
  · exact Bucket.makes_updatePolicy.fails.failStop
  · exact failStop_pure

theorem failStop_removeUser {bucketId userId : Value} :
    FailStop (b.removeUser bucketId userId) := by
  refine .wrapped <| .lift_bind fun name => .lift_bind fun user => ?_
  exact Bucket.makes_getAcl.failStop.bind fun acl => .lift_bind fun acl =>
    Bucket.makes_updateAcl.fails.failStop

theorem failStop_startWipe {id : Value} : FailStop (b.startWipe id) := by
  refine .wrapped <| .get_bind fun s => ?_
  dsimp only
  split
  · exact failStop_throw_bind
  · exact b.failStop_addUser

theorem failStop_addExport {id relative : Value} : FailStop (b.addExport id relative) := by
  refine .wrapped <| .lift_bind fun name => Export.makes_list.failStop.bind fun exports => ?_
  cases exports with
  | some _ => exact failStop_pure
  | none => exact Export.makes_create.fails.failStop.bind fun _ => failStop_pure

theorem failStop_createUser {id namespaceId : Value} : FailStop (b.createUser id namespaceId) := by
  refine .wrapped <| .lift_bind fun ns => .lift_bind fun user => ?_
  refine User.makes_create.fails.failStop.bind fun _ => ?_
  exact User.makes_createSecret.failStop.bind fun _ => User.makes_listSecrets.failStop.bind fun _ =>
    quiet_lift.failStop

theorem failStop_userExists {id : Value} : FailStop (b.userExists id) :=
  .wrapped <| .lift_bind fun _ => User.makes_exist.failStop_of_probed fun _ h => .user h

theorem failStop_namespaceUrl {ns parameters settings : Value} :
    FailStop (namespaceUrl ns parameters settings) := by
  refine .wrapped <| .lift_bind fun own => .lift_bind fun merged => ?_
  refine failStop_discovered.bind fun d => .lift_bind fun name => .lift_bind fun useSsl => ?_
  refine BaseUrl.makes_list.failStop.bind fun urls => ?_
  split
  · exact failStop_throw
  · split
    · exact failStop_throw
    · exact BaseUrl.makes_get.failStop.bind fun _ => failStop_pure

/-- **Every command stops at a failure.** -/
theorem Command.failStop (cmd : Command) : FailStop (cmd.perform b) := by
  cases cmd with
  | provision p id service plan parameters => exact p.failStop b
  | bucketExists id => exact b.failStop_bucketExists
  | bucketFileEnabled id => exact b.failStop_bucketFileEnabled
  | deleteBucket id => exact .wrapped <| .lift_bind fun _ => Bucket.makes_delete.fails.failStop
  | startWipe id => exact b.failStop_startWipe
  | addUser bucketId userId permissions => exact b.failStop_addUser
  | removeUser bucketId userId => exact b.failStop_removeUser
  | addExport id relative => exact b.failStop_addExport
  | createUser id namespaceId => exact b.failStop_createUser
  | userExists id => exact b.failStop_userExists
  | deleteUser id => exact .wrapped <| .lift_bind fun _ => User.makes_delete.fails.failStop
  | createUserMap id uid =>
    exact .wrapped <| .lift_bind fun _ => User.makes_createMap.fails.failStop
  | deleteUserMap id uid =>
    exact .wrapped <| .lift_bind fun _ => User.makes_deleteMap.fails.failStop
  | namespaceExists id => exact b.failStop_namespaceExists
  | deleteNamespace id =>
    exact .wrapped <| .lift_bind fun _ => Namespace.makes_delete.fails.failStop
  | namespaceUrl ns parameters settings => exact failStop_namespaceUrl

/-- **Every command fails as the broker reports failures.** -/
theorem Command.wrapped (cmd : Command) : Wrapped (cmd.perform b) := by
  cases cmd with
  | provision p id service plan parameters =>
    cases p with
    | createBucket => exact wrapped_mapFault.modify_bind
    | changeBucketPlan => exact wrapped_mapFault.modify_bind
    | createNamespace => exact wrapped_mapFault.modify_bind
    | changeNamespacePlan => exact wrapped_mapFault.modify_bind
  | _ => exact wrapped_mapFault

/-! ## 5. Commands over a session -/

/-- A fault of a session that the library raised itself is reported with itself as the cause. -/
theorem wrap_of_isOfSession {f : Fault} (h : f.isOfSession) (hown : f.isOwn) :
    f.wrap = .broker (some f.text) (some f) := by
  have hbroker : ¬ f.isBroker := by
    rw [Fault.not_isBroker_of_isOfSession h]
    exact Bool.false_ne_true
  rw [Fault.wrap, if_neg hbroker, if_pos hown]
  rfl

/-- **A command stops at the first call that fails and reports its failure, wrapped once**, in every
world, for every session and whatever the broker knows. The calls of the command are those that the
session answers in turn, and nothing else is sent; no fault of the library but those of the broker
comes out. -/
theorem carryOut_stops_at_failure {σ : Type} (w : Dialogue.World Wire σ) (st : σ) (s : Session)
    (bs : State) (cmd : Command) :
    let d := (cmd.perform b).run bs
    let o := Dialogue.run w (Session.carryOut d s) st
    let turns := Session.turns w d s st
    o.events = turns.flatMap Dialogue.Turn.sent ∧
      (∀ turn ∈ turns, ∀ c a, turn.event = called c a →
        ∃ s₁ s₂, (Session.request c).Course s₁ turn.sent a s₂) ∧
      (∀ before c f after, turns.map Dialogue.Turn.event = before ++ called c (.error f) :: after →
        f.isOwn → ¬ Absorbed c f →
          after = [] ∧ o.result.1.1 = .error (.broker (some f.text) (some f))) ∧
      ∀ f, o.result.1.1 = .error f → f.isOwn → f.isBroker := by
  intro d o turns
  have hcourse : (cmd.perform b).Course bs (turns.map Dialogue.Turn.event) o.result.1.1
      o.result.1.2 := Session.course_carryOut w d s st
  have hwrapped : ∀ f, o.result.1.1 = .error f → f.wrap = f := by
    intro f hf
    rw [hf] at hcourse
    exact cmd.wrapped b _ _ _ _ hcourse
  refine ⟨Session.events_carryOut w d s st, ?_, ?_, ?_⟩
  · intro turn hturn c a h
    obtain ⟨s₁, s₂, _, hrequest⟩ := Session.turn_of_call w d s st hturn h
    exact ⟨s₁, s₂, hrequest⟩
  · intro before c f after hes hown habsorbed
    have hmem : called c (.error f) ∈ turns.map Dialogue.Turn.event := by
      rw [hes]
      exact List.mem_append_right _ List.mem_cons_self
    obtain ⟨turn, hturn, h⟩ := List.mem_map.1 hmem
    obtain ⟨s₁, s₂, _, hrequest⟩ := Session.turn_of_call w d s st hturn h
    have hsession := (Session.served_of_request hrequest).fault f rfl
    obtain ⟨rfl, f', hf', hwrap⟩ := cmd.failStop b _ _ _ _ hcourse _ _ _ _ hes habsorbed
    rw [hwrapped f' hf'] at hwrap
    exact ⟨rfl, by rw [hf', hwrap, wrap_of_isOfSession hsession hown]⟩
  · intro f hf hown
    rw [← hwrapped f hf]
    exact Fault.isBroker_wrap hown

end StorageBroker.Broker
