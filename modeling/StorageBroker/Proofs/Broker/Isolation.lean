import Mathlib.Data.Set.Basic
import StorageBroker.Proofs.Broker.Provisioning
import StorageBroker.Proofs.Broker.Wiping
import StorageBroker.Proofs.Management.Instance
/-!
# Isolation of instances

What is done for one instance reaches no other one. The name of its resource is the id behind the
prefix; every request of a task either creates the resource of that name or leads to an address of
it, and the object storage is asked for no other bucket. Since an address leads to one resource
only, tasks for two ids never meet, whatever characters the ids are made of.

* `Task` -- what is done for a bucket or a namespace of an instance;
* `own_of_course` -- a task keeps to the resource of its instance, call by call;
* `Touches`, `touched` -- the resources that events are about, read off the events alone;
* `instance_isolated` -- tasks keep to their instances over a session, in every world.
-/

namespace StorageBroker.Broker

open Management

/-! ## 1. Tasks -/

/-- **What is done for a bucket or a namespace of an instance**, besides asking for it. -/
inductive Task where
  | provision (p : Provision) (service : ServiceDefinition) (plan : Plan) (parameters : Value)
  | deleteBucket
  | addUser (userId permissions : Value)
  | removeUser (userId : Value)
  | wipe
  | deleteNamespace

namespace Task

/-- What a task gives. -/
def Result : Task → Type
  | .provision .. => Value
  | .wipe => Except Fault Unit
  | _ => Unit

/-- **The operation of a task** for the instance of an id. -/
def perform (b : Broker) (id : Value) : (t : Task) → Operation t.Result
  | .provision p service plan parameters => p.perform b id service plan parameters
  | .deleteBucket => b.deleteBucket id
  | .addUser userId permissions => b.addUser id userId permissions
  | .removeUser userId => b.removeUser id userId
  | .wipe => b.wipeAndDelete id
  | .deleteNamespace => b.deleteNamespace id

/-- The kind of resource that a task is about. -/
def kind : Task → Resource
  | .provision .createNamespace .. | .provision .changeNamespacePlan .. | .deleteNamespace => .space
  | _ => .bucket

end Task

variable (b : Broker) {i : Text}

/-- The name of an instance whose id is a text is the id behind the prefix, which is a text too. -/
theorem nameOf_text {name : Value} (h : b.nameOf (.text i) = .ok name) :
    ∃ p, b.config.value .idPrefix = .text p ∧ name = .text (p ++ i) :=
  Session.joined_eq_text h

/-- **A call for the resource of an instance.** -/
def Own (k : Resource) (i : Text) (c : Call) : Prop :=
  ∃ p, b.config.value .idPrefix = .text p ∧ Keeps k (p ++ i) c

/-- What is asked for under a name that an instance has is its own. -/
theorem own_of_keeps {α : Type} {k : Resource} {p : Text} {x : Operation α}
    (hp : b.config.value .idPrefix = .text p) (h : Asks (Keeps k (p ++ i)) x) :
    Asks (b.Own k i) x :=
  h.mono fun _ hc => ⟨p, hp, hc⟩

/-- The same behind the question for that name. -/
theorem asks_own {α : Type} {k : Resource} {f : Value → Operation α}
    (hf : ∀ p, b.config.value .idPrefix = .text p → Asks (Keeps k (p ++ i)) (f (.text (p ++ i)))) :
    Asks (b.Own k i) (liftM (b.nameOf (.text i)) >>= f) := by
  refine .lift_bind fun name hname => ?_
  obtain ⟨p, hp, rfl⟩ := b.nameOf_text hname
  exact b.own_of_keeps hp (hf p hp)

/-! ## 2. Parts that make no calls -/

section Quiet

variable {P : Call → Prop}

theorem asks_note {given now : Value} : Asks P (note given now) := asks_modify

theorem asks_effective {given : Value} {plan : Plan} {service : ServiceDefinition} :
    Asks P (effective given plan service) := by
  refine .lift_bind fun merged _ => asks_note.bind fun _ => asks_note.bind fun _ => ?_
  split
  · exact asks_throw
  · exact asks_pure

theorem asks_checkPolicy {parameters : Value} : Asks P (checkPolicy parameters) := by
  refine asks_discovered.bind fun d => .lift_bind fun c _ => ?_
  split
  · exact asks_pure
  · exact asks_throw

end Quiet

/-! ## 3. Buckets -/

section Buckets

variable {n : Text} {parameters : Value}

theorem keeps_bucketExist {ns : Value} :
    Asks (Keeps .bucket n) (Bucket.exist (.text n) ns : Operation Bool) :=
  Bucket.makes_exist.asks.mono fun _ =>
    keeps_of_filled (bucket_resource "/info") (fun _ => rfl) (.inr ⟨by decide, fun _ => rfl⟩)

theorem keeps_bucketGet {ns : Value} :
    Asks (Keeps .bucket n) (Bucket.get (.text n) ns : Operation Record) :=
  Bucket.makes_get.asks.mono fun _ =>
    keeps_of_filled (bucket_resource "/info") (fun _ => rfl) (.inr ⟨by decide, fun _ => rfl⟩)

theorem keeps_getAcl {ns : Value} :
    Asks (Keeps .bucket n) (Bucket.getAcl (.text n) ns : Operation Record) :=
  Bucket.makes_getAcl.asks.mono fun _ =>
    keeps_of_filled (bucket_resource "/acl") (fun _ => rfl) (.inr ⟨by decide, fun _ => rfl⟩)

/-- A new bucket is named in the body that creates it. -/
theorem keeps_bucketCreate {ns group : Value} {r : Record}
    (hr : Record.bucketCreate (.text n) ns group parameters = .ok r) :
    Asks (Keeps .bucket n) (Bucket.create r.toValue : Operation Unit) := by
  refine Bucket.makes_create.asks.mono fun c hc => ?_
  obtain ⟨body, hbody, rfl⟩ := hc
  rw [Record.bodyOf_toValue (kind_bucketCreate hr) (by decide) (by decide)] at hbody
  obtain rfl := Except.ok.inj hbody
  simp only [Record.bucketCreate, bind_eq_ok, pure_eq_ok] at hr
  obtain ⟨_, _, _, _, _, _, _, _, _, _, rfl⟩ := hr
  exact .creation rfl rfl Record.entry_plainData

theorem keeps_createQuota {ns limit warn : Value} :
    Asks (Keeps .bucket n) (Bucket.createQuota (.text n) ns limit warn : Operation Unit) :=
  Bucket.makes_createQuota.asks.mono fun _ =>
    keeps_of_filled (bucket_resource "/quota") (fun _ => rfl) (.inl (.own (by decide)))

theorem keeps_deleteQuota {ns : Value} :
    Asks (Keeps .bucket n) (Bucket.deleteQuota (.text n) ns : Operation Unit) :=
  Bucket.makes_deleteQuota.asks.mono fun _ =>
    keeps_of_filled (bucket_resource "/quota") (fun _ => rfl) (.inl (.own (by decide)))

theorem keeps_applyBucketQuota :
    Asks (Keeps .bucket n) (b.applyBucketQuota (.text n) parameters) := by
  refine .lift_bind fun quota _ => ?_
  split
  · exact .lift_bind fun _ _ => .lift_bind fun _ _ => keeps_createQuota
  · exact asks_pure

theorem keeps_applyBucketRetention :
    Asks (Keeps .bucket n) (b.applyBucketRetention (.text n) parameters) := by
  refine .lift_bind fun period _ => ?_
  split
  · exact Bucket.makes_updateRetention.asks.mono fun _ =>
      keeps_of_filled (bucket_resource "/retention") (fun _ => rfl) (.inl (.own (by decide)))
  · exact asks_pure

theorem keeps_bucketDelete {ns : Value} :
    Asks (Keeps .bucket n) (Bucket.delete (.text n) ns : Operation Unit) :=
  Bucket.makes_delete.asks.mono fun _ =>
    keeps_of_filled (bucket_resource "/deactivate") (fun _ => rfl) (.inl (.own (by decide)))

theorem keeps_updateAcl {entries : Value} :
    Asks (Keeps .bucket n) (Bucket.updateAcl (.text n) entries : Operation Unit) :=
  Bucket.makes_updateAcl.asks.mono fun _ =>
    keeps_of_written (bucket_resource "/acl") (fun _ _ => rfl) (.own (by decide))

theorem own_bucketExists : Asks (b.Own .bucket i) (b.bucketExists (.text i)) :=
  .mapFault <| b.asks_own fun _ _ => keeps_bucketExist

theorem own_bucketFileEnabled : Asks (b.Own .bucket i) (b.bucketFileEnabled (.text i)) :=
  .mapFault <| b.asks_own fun _ _ => keeps_bucketGet.bind fun _ => asks_pure

theorem own_createBucket {service : ServiceDefinition} {plan : Plan} :
    Asks (b.Own .bucket i) (b.createBucket (.text i) service plan parameters) := by
  refine asks_note.bind fun _ => .mapFault <| .lift_bind fun name hname => ?_
  obtain ⟨p, hp, rfl⟩ := b.nameOf_text hname
  refine b.own_bucketExists.bind fun there => ?_
  dsimp only
  split
  · exact asks_throw_bind
  refine asks_effective.bind fun effective => asks_checkPolicy.bind fun _ => ?_
  refine asks_discovered.bind fun d => .lift_bind fun body hbody => ?_
  refine (b.own_of_keeps hp (keeps_bucketCreate hbody)).bind fun _ => ?_
  refine (b.own_of_keeps hp b.keeps_applyBucketQuota).bind fun _ => ?_
  exact (b.own_of_keeps hp b.keeps_applyBucketRetention).bind fun _ => asks_pure

theorem own_changeBucketPlan {service : ServiceDefinition} {plan : Plan} :
    Asks (b.Own .bucket i) (b.changeBucketPlan (.text i) service plan parameters) := by
  refine asks_note.bind fun _ => .mapFault <| asks_effective.bind fun effective => ?_
  refine asks_checkPolicy.bind fun _ => b.asks_own fun p _ => ?_
  refine .lift_bind fun limit _ => .lift_bind fun warn _ => ?_
  split
  · refine .lift_bind fun _ _ => asks_note.bind fun _ => ?_
    exact keeps_deleteQuota.bind fun _ => asks_pure
  · exact keeps_createQuota.bind fun _ => asks_pure

theorem own_deleteBucket : Asks (b.Own .bucket i) (b.deleteBucket (.text i)) :=
  .mapFault <| b.asks_own fun _ _ => keeps_bucketDelete

theorem own_addUser {userId permissions : Value} :
    Asks (b.Own .bucket i) (b.addUser (.text i) userId permissions) := by
  refine .mapFault <| .lift_bind fun name hname => ?_
  obtain ⟨p, hp, rfl⟩ := b.nameOf_text hname
  refine .lift_bind fun user _ => (b.own_of_keeps hp keeps_getAcl).bind fun acl => ?_
  refine .lift_bind fun entry _ => .lift_bind fun acl _ => ?_
  refine (b.own_of_keeps hp keeps_updateAcl).bind fun _ => ?_
  refine b.own_bucketFileEnabled.bind fun enabled => ?_
  split
  · exact b.own_of_keeps hp <| Bucket.makes_updatePolicy.asks.mono fun _ =>
      keeps_of_written (bucket_resource "/policy") (fun _ _ => rfl) (.own (by decide))
  · exact asks_pure

theorem own_removeUser {userId : Value} :
    Asks (b.Own .bucket i) (b.removeUser (.text i) userId) := by
  refine .mapFault <| b.asks_own fun p _ => .lift_bind fun user _ => ?_
  exact keeps_getAcl.bind fun acl => .lift_bind fun acl _ => keeps_updateAcl

theorem own_startWipe : Asks (b.Own .bucket i) (b.startWipe (.text i)) := by
  refine .mapFault <| .get_bind fun s => ?_
  dsimp only
  split
  · exact asks_throw_bind
  · exact b.own_addUser

theorem own_finishWipe {progress : Wipe.Progress} :
    Asks (b.Own .bucket i) (b.finishWipe (.text i) progress) := by
  refine b.asks_own fun p _ => ?_
  split
  · exact keeps_bucketDelete.mapFault
  · exact asks_throw

end Buckets

/-! ## 4. Namespaces -/

section Namespaces

variable {n : Text} {parameters : Value}

/-- A new namespace is named in the body that creates it. -/
theorem keeps_namespaceCreate {group : Value} {r : Record}
    (hr : Record.namespaceCreate (.text n) group parameters = .ok r) :
    Asks (Keeps .space n) (Namespace.create r.toValue : Operation Unit) := by
  refine Namespace.makes_create.asks.mono fun c hc => ?_
  obtain ⟨body, hbody, rfl⟩ := hc
  rw [Record.bodyOf_toValue (kind_namespaceCreate hr) (by decide) (by decide)] at hbody
  obtain rfl := Except.ok.inj hbody
  simp only [Record.namespaceCreate, bind_eq_ok, pure_eq_ok] at hr
  obtain ⟨_, _, rfl⟩ := hr
  exact .creation rfl rfl Record.entry_plainData

theorem keeps_applyNamespaceQuota :
    Asks (Keeps .space n) (applyNamespaceQuota (.text n) parameters) := by
  refine .lift_bind fun quota _ => ?_
  split
  · exact .lift_bind fun _ _ => .lift_bind fun _ _ =>
      Namespace.makes_createQuota.asks.mono fun _ =>
        keeps_of_written (namespace_resource "/quota") (fun _ _ => rfl) (.own (by decide))
  · exact asks_pure

theorem keeps_createRetention {className period : Value} :
    Asks (Keeps .space n)
      (Namespace.createRetention (.text n) className period : Operation Unit) :=
  Namespace.makes_createRetention.asks.mono fun _ =>
    keeps_of_filled (namespace_resource "/retention") (fun _ => rfl) (.inl (.own (by decide)))

theorem keeps_createClasses (classes : Mapping) :
    Asks (Keeps .space n) (createClasses (.text n) classes) := by
  induction classes with
  | nil => exact asks_pure
  | cons entry rest ih => exact keeps_createRetention.bind fun _ => ih

/-- Each retention class is one of the namespace, at its probe and at its change. -/
theorem keeps_reconcile {given : Value} (classes : Mapping) (effective : Value) :
    Asks (Keeps .space n) (reconcile given (.text n) classes effective) := by
  induction classes generalizing effective with
  | nil => exact asks_pure
  | cons entry rest ih =>
    refine (Namespace.makes_retentionExist.asks.mono fun _ =>
      keeps_of_class fun _ => rfl).bind fun there => ?_
    dsimp only
    split
    · split
      · exact (Namespace.makes_deleteRetention.asks.mono fun _ =>
          keeps_of_class fun _ => rfl).bind fun _ =>
            .lift_bind fun _ _ => asks_note.bind fun _ => ih _
      · exact ih _
    · split
      · exact (Namespace.makes_updateRetention.asks.mono fun _ =>
          keeps_of_class fun _ => rfl).bind fun _ => ih _
      · exact keeps_createRetention.bind fun _ => ih _

theorem own_namespaceExists : Asks (b.Own .space i) (b.namespaceExists (.text i)) :=
  .mapFault <| b.asks_own fun _ _ => Namespace.makes_exist.asks.mono fun _ =>
    keeps_of_filled (namespace_resource "") (fun _ => rfl) (.inr ⟨by decide, fun _ => rfl⟩)

theorem own_createNamespace {service : ServiceDefinition} {plan : Plan} :
    Asks (b.Own .space i) (b.createNamespace (.text i) service plan parameters) := by
  refine asks_note.bind fun _ => .mapFault <| b.own_namespaceExists.bind fun there => ?_
  dsimp only
  split
  · exact asks_throw_bind
  refine asks_effective.bind fun effective => b.asks_own fun p _ => ?_
  refine asks_discovered.bind fun d => .lift_bind fun body hbody => ?_
  refine (keeps_namespaceCreate hbody).bind fun _ => ?_
  exact keeps_applyNamespaceQuota.bind fun _ => .lift_bind fun classes _ =>
    (keeps_createClasses classes).bind fun _ => asks_pure

theorem own_changeNamespacePlan {service : ServiceDefinition} {plan : Plan} :
    Asks (b.Own .space i) (b.changeNamespacePlan (.text i) service plan parameters) := by
  refine asks_note.bind fun _ => .mapFault <| b.asks_own fun p _ => ?_
  refine asks_effective.bind fun effective => .lift_bind fun body _ => ?_
  refine (Namespace.makes_update.asks.mono fun _ =>
    keeps_of_written (namespace_resource "") (fun _ _ => rfl) (.own (by decide))).bind fun _ => ?_
  exact .lift_bind fun classes _ => keeps_reconcile classes effective

theorem own_deleteNamespace : Asks (b.Own .space i) (b.deleteNamespace (.text i)) :=
  .mapFault <| b.asks_own fun _ _ => Namespace.makes_delete.asks.mono fun _ =>
    keeps_of_filled (namespace_resource "/deactivate") (fun _ => rfl) (.inl (.own (by decide)))

end Namespaces

/-! ## 5. Whole tasks -/

/-- **What a task asks for on behalf of an instance**: calls for its resource and, in a wipe, the
listing of its bucket and deletions in it. -/
inductive OwnEvent (i : Text) : Resource → Dialogue.Event Remote → Prop where
  | call {k : Resource} {c : Call} {a : Except Fault Response} (hc : b.Own k i c) :
      OwnEvent i k (called c a)
  | listing {p : Text} {start : Value} {pages : List (Except Fault Value)}
      (hp : b.config.value .idPrefix = .text p) :
      OwnEvent i .bucket (Wipe.listed (.text (p ++ i)) start pages)
  | deletion {p : Text} {keys : List Value} {a : Except Fault Value}
      (hp : b.config.value .idPrefix = .text p) :
      OwnEvent i .bucket (Wipe.deleted (.text (p ++ i)) keys a)

section Course

variable {α : Type} {k : Resource} {bs bs' : State} {es : List (Dialogue.Event Remote)}

theorem own_of_asks {x : Operation α} {r : Except Fault α} (hx : Asks (b.Own k i) x)
    (h : x.Course bs es r bs') : ∀ e ∈ es, b.OwnEvent i k e := by
  intro e he
  obtain ⟨c, a, rfl, hc⟩ := hx _ _ _ _ h e he
  exact .call hc

/-- A wipe lets its user into the bucket, lists it, deletes in it and deletes it, and no other. -/
theorem own_wipeAndDelete {r : Except Fault (Except Fault Unit)}
    (h : (b.wipeAndDelete (.text i)).Course bs es r bs') : ∀ e ∈ es, b.OwnEvent i .bucket e := by
  rw [wipeAndDelete, Action.course_bind] at h
  obtain ⟨f, hstart, _⟩ | ⟨es₁, _, bs₁, es₂, hstart, h, rfl⟩ := h
  · exact b.own_of_asks b.own_startWipe hstart
  have hes₁ := b.own_of_asks b.own_startWipe hstart
  rw [Action.course_lift_malformed_bind] at h
  obtain ⟨m, _, rfl, _⟩ | ⟨name, hname, h⟩ := h
  · rw [List.append_nil]
    exact hes₁
  obtain ⟨p, hp, rfl⟩ := b.nameOf_text hname
  rw [Action.course_bind] at h
  obtain ⟨f, hwipe, _⟩ | ⟨es₃, progress, bs₂, es₄, hwipe, h, rfl⟩ := h
  · obtain ⟨_, _, _, hf, _⟩ := Action.course_stateAfter.1 hwipe
    cases hf
  have hes₃ : ∀ e ∈ es₃, b.OwnEvent i .bucket e := by
    intro e he
    obtain ⟨r', p', hwipe, _, _⟩ := Action.course_stateAfter.1 hwipe
    rcases Wipe.names_of_wipe ⟨0, rfl⟩ hwipe e he with ⟨pages, rfl⟩ | ⟨keys, a, rfl⟩
    · exact .listing hp
    · exact .deletion hp
  obtain ⟨r', hfinish, _⟩ := Action.course_attempt.1 h
  have hes₄ := b.own_of_asks b.own_finishWipe hfinish
  intro e he
  rcases List.mem_append.1 he with he | he
  · exact hes₁ e he
  · exact (List.mem_append.1 he).elim (hes₃ e) (hes₄ e)

/-- **A task keeps to the resource of its instance**, whatever the answers are. -/
theorem own_of_course (t : Task) {r : Except Fault t.Result}
    (h : (t.perform b (.text i)).Course bs es r bs') : ∀ e ∈ es, b.OwnEvent i t.kind e := by
  cases t with
  | provision p service plan parameters =>
    cases p with
    | createBucket => exact b.own_of_asks b.own_createBucket h
    | changeBucketPlan => exact b.own_of_asks b.own_changeBucketPlan h
    | createNamespace => exact b.own_of_asks b.own_createNamespace h
    | changeNamespacePlan => exact b.own_of_asks b.own_changeNamespacePlan h
  | deleteBucket => exact b.own_of_asks b.own_deleteBucket h
  | addUser userId permissions => exact b.own_of_asks b.own_addUser h
  | removeUser userId => exact b.own_of_asks b.own_removeUser h
  | wipe => exact b.own_wipeAndDelete h
  | deleteNamespace => exact b.own_of_asks b.own_deleteNamespace h

end Course

/-! ## 6. Over a session -/

/-- The bucket that a question to the object storage is about. -/
def bucketOf : Storage.Question → Option Value
  | .connect .. => none
  | .list bucket _ => some bucket
  | .delete bucket _ => some bucket

/-- **An event that touches a resource**: a request for it or for a part of it, or a listing of the
bucket or a deletion in it. -/
inductive Touches (k : Resource) (endpoint n : Text) : Dialogue.Event Wire → Prop where
  | request {q : Request} {x : Reply} (hq : q.isLogin = false)
      (h : Leads Resource.Below k endpoint n q) : Touches k endpoint n (Session.sent q x)
  | storage {q : Storage.Question} {a : q.Answer} (hk : k = .bucket)
      (h : bucketOf q = some (.text n)) : Touches k endpoint n ⟨.storage q, a⟩

/-- **The resources of a kind that events touch**, below an endpoint. -/
def touched (k : Resource) (endpoint : Text) (es : Session.Events) : Set Text :=
  {n | ∃ e ∈ es, Touches k endpoint n e}

variable {σ : Type} (w : Dialogue.World Wire σ) (st : σ) (s : Session)

/-- What is seen of a task on the wire belongs to a call for the resource of its instance, or is a
question to the object storage about its bucket. -/
theorem own_on_wire (t : Task) (i : Text) (bs : State) {e : Dialogue.Event Wire}
    (he : e ∈ (Dialogue.run w (Session.carryOut ((t.perform b (.text i)).run bs) s) st).events) :
    ∃ p, b.config.value .idPrefix = .text p ∧
      ((∃ c, Keeps t.kind (p ++ i) c ∧ Session.RequestOf s c e) ∨
        ∃ q a, e = ⟨.storage q, a⟩ ∧ bucketOf q = some (.text (p ++ i))) := by
  have hcourse := Action.course_iff.1
    (Session.course_carryOut w ((t.perform b (.text i)).run bs) s st)
  have hown := b.own_of_course t hcourse
  generalize t.kind = k at hown ⊢
  rcases Session.event_of_turns w _ s st he with ⟨c, a, hturn, hrequest⟩ | ⟨q, a, hturn, rfl⟩
  · generalize hev : (⟨.call c, a⟩ : Dialogue.Event Remote) = ev at hturn
    cases hown _ hturn with
    | call hc =>
      cases hev
      obtain ⟨p, hp, hkeeps⟩ := hc
      exact ⟨p, hp, .inl ⟨c, hkeeps, hrequest⟩⟩
    | listing hp => cases hev
    | deletion hp => cases hev
  · generalize hev : (⟨.storage q, a⟩ : Dialogue.Event Remote) = ev at hturn
    cases hown _ hturn with
    | call hc => cases hev
    | listing hp => cases hev; exact ⟨_, hp, .inr ⟨_, _, rfl, rfl⟩⟩
    | deletion hp => cases hev; exact ⟨_, hp, .inr ⟨_, _, rfl, rfl⟩⟩

/-- **A task touches the resource of its instance and no other.** -/
theorem eq_of_touched (t : Task) (i : Text) (bs : State) {endpoint n : Text}
    (hs : s.endpoint = .text endpoint)
    (hn : n ∈ touched t.kind endpoint
      (Dialogue.run w (Session.carryOut ((t.perform b (.text i)).run bs) s) st).events) :
    ∃ p, b.config.value .idPrefix = .text p ∧ n = p ++ i := by
  obtain ⟨e, he, htouches⟩ := hn
  obtain ⟨p, hp, ⟨c, hkeeps, hrequest⟩ | ⟨q, a, rfl, hq⟩⟩ := b.own_on_wire w st s t i bs he
  · refine ⟨p, hp, ?_⟩
    cases htouches with
    | request hlogin hleads =>
      rcases leads_of_requestOf hkeeps hrequest with h | ⟨e', he', hown, _⟩
      · rw [hlogin] at h
        cases h
      · rw [hs] at he'
        cases he'
        exact leads_unique hleads hown
    | storage => exact absurd ⟨_, _, rfl⟩ (not_isStorage_of_requestOf hrequest)
  · refine ⟨p, hp, ?_⟩
    generalize hev : (⟨.storage q, a⟩ : Dialogue.Event Wire) = ev at htouches
    cases htouches with
    | request => cases hev
    | storage hk h =>
      cases hev
      rw [hq] at h
      exact (Value.text.inj (Option.some.inj h)).symm

/-- **Instances are isolated from each other.** Every request of a task that does more than read
creates the resource of its instance, or leads to one of its parts that may be changed; the object
storage is asked for nothing but its bucket; and so two tasks on resources of a kind, for two ids,
touch none in common, whatever the ids are and whatever the answers. -/
theorem instance_isolated (t : Task) (i : Text) (bs : State) :
    let o := Dialogue.run w (Session.carryOut ((t.perform b (.text i)).run bs) s) st
    (∀ q x, Session.sent q x ∈ o.events → q.method ≠ "GET" → ∃ p endpoint,
      b.config.value .idPrefix = .text p ∧ s.endpoint = .text endpoint ∧
        Leads t.kind.Part t.kind endpoint (p ++ i) q) ∧
      (∀ q a, (⟨.storage q, a⟩ : Dialogue.Event Wire) ∈ o.events → ∃ p,
        b.config.value .idPrefix = .text p ∧ bucketOf q = some (.text (p ++ i))) ∧
      ∀ (t' : Task) (j : Text) (bs' : State) (τ : Type) (w' : Dialogue.World Wire τ) (st' : τ)
        (s' : Session) (endpoint : Text), t'.kind = t.kind → i ≠ j →
        s.endpoint = .text endpoint → s'.endpoint = .text endpoint →
        let o' := Dialogue.run w' (Session.carryOut ((t'.perform b (.text j)).run bs') s') st'
        ∀ n ∈ touched t.kind endpoint o.events, n ∉ touched t.kind endpoint o'.events := by
  intro o
  refine ⟨fun q x he hget => ?_, fun q a he => ?_, ?_⟩
  · obtain ⟨p, hp, ⟨c, hkeeps, hrequest⟩ | ⟨_, _, h, _⟩⟩ := b.own_on_wire w st s t i bs he
    · rcases leads_of_requestOf hkeeps hrequest with hlogin | ⟨e, hs, _, hleads⟩
      · cases q with
        | login => exact absurd rfl hget
        | resource => cases hlogin
      · exact ⟨p, e, hp, hs, hleads hget⟩
    · cases h
  · obtain ⟨p, hp, ⟨c, _, hrequest⟩ | ⟨_, _, h, hq⟩⟩ := b.own_on_wire w st s t i bs he
    · exact absurd ⟨q, a, rfl⟩ (not_isStorage_of_requestOf hrequest)
    · cases h
      exact ⟨p, hp, hq⟩
  · intro t' j bs' τ w' st' s' endpoint hkind hne hs hs' o' n hn hn'
    obtain ⟨p, hp, hi⟩ := b.eq_of_touched w st s t i bs hs hn
    obtain ⟨p', hp', hj⟩ := b.eq_of_touched w' st' s' t' j bs' hs' (hkind ▸ hn')
    rw [hp] at hp'
    cases hp'
    rw [hi, Text.append_right_inj] at hj
    exact hne hj

/-- The address of the request that an event is. -/
def addressOf (e : Dialogue.Event Wire) : Option Text :=
  match e.question with
  | .http q => some q.url
  | _ => none

/-- The deletions of two buckets of which one id continues the other as a path would: their requests
lead to different addresses, and no bucket is touched by both. -/
theorem instance_isolated_slash :
    let s := Session.expired.withToken none
    let o := fun i : Text => Dialogue.run Rehearsal.world (Session.carryOut
      ((Task.deleteBucket.perform bare (.text i)).run .start) s) singleObject
    (o "a").events.filterMap addressOf = (["https://ecs:4443/login",
      "https://ecs:4443/object/bucket/ecs-cf-broker-a/deactivate"] : List Text) ∧
    (o "a/deactivate").events.filterMap addressOf = (["https://ecs:4443/login",
      "https://ecs:4443/object/bucket/ecs-cf-broker-a%2Fdeactivate/deactivate"] : List Text) ∧
    ∀ n ∈ touched .bucket "https://ecs:4443" (o "a").events,
      n ∉ touched .bucket "https://ecs:4443" (o "a/deactivate").events := by
  intro s o
  refine ⟨by decide +kernel, by decide +kernel, ?_⟩
  exact (bare.instance_isolated Rehearsal.world singleObject s .deleteBucket "a" .start).2.2
    .deleteBucket "a/deactivate" .start _ Rehearsal.world singleObject s _ rfl (by decide)
    rfl rfl

end StorageBroker.Broker
