import StorageBroker.Proofs.Broker.Effective
import StorageBroker.Proofs.Broker.Forced
import StorageBroker.Proofs.Broker.Isolation
/-!
# New resources

A bucket or a namespace that is not there yet is created with what its effective parameters ask
for: first the resource itself, then its quota, then its retention. Nothing else is called, and
nothing is called any more once a call has been refused.

* `creationCalls` -- the calls that create a resource with settled parameters;
* `Creation` -- how the creation of a resource can go;
* `course_creation` -- every creation goes in one of these ways;
* `creation_applies_settings` -- a creation over a session, behind a probe that has found nothing.
-/

namespace StorageBroker.Broker

open Management
open Settings (Settled)
open Text (Template.Sendable)

/-! ## 1. The calls of a creation -/

/-- The provision that creates the resources of a kind. -/
def creationOf : Resource → Provision
  | .bucket => .createBucket
  | .space => .createNamespace

variable (b : Broker)

/-- The operation that asks whether a resource exists. -/
def existing (id : Value) : Resource → Operation Bool
  | .bucket => b.bucketExists id
  | .space => b.namespaceExists id

/-- The call by which it asks. -/
def probe (name : Value) : Resource → Call
  | .bucket => { path := .text (Resource.bucket.address name.plain "/info"),
                 params := Bucket.inNamespace b.home }
  | .space => { path := .text (Resource.space.address name.plain "") }

/-- The record that describes a new resource. -/
def description (name group parameters : Value) : Resource → Except Malformed Record
  | .bucket => Record.bucketCreate name b.home group parameters
  | .space => Record.namespaceCreate name group parameters

/-- **The calls that create a resource**, for its description and for settled parameters. -/
def creationCalls (name : Value) (r : Record) (m : Mapping) : Resource → List Call
  | .bucket =>
    { method := "POST", path := .text "/object/bucket", body := r.plainData } ::
      (((quotaIn m).toList.map fun q => b.bucketQuota name q.1 q.2) ++
        (periodIn m).toList.map fun period => b.bucketRetention name period)
  | .space =>
    { method := "POST", path := .text "/object/namespaces/namespace", body := r.plainData } ::
      (((quotaIn m).toList.map fun q => spaceQuota name q.1 q.2) ++
        (classesWithin m).map fun e => spaceClass name e.1 e.2)

/-- **How a creation can go.** It ends before it has asked anything, because the resource cannot be
named, or when the resource is not found to be absent, or with parameters that do not pass; or the
calls of the creation are tried. -/
inductive Creation (k : Resource) (id parameters : Value) (plan : Plan)
    (service : ServiceDefinition) (d : Option Discovery) :
    List (Dialogue.Event Remote) → Except Fault Value → Prop where
  | unasked {f : Fault} (h : b.Unnamable id) : Creation k id parameters plan service d [] (.error f)
  | there {name : Value} {a : Except Fault Response} {f : Fault}
      (ha : ∀ g, a = .error g → g.isAbsence = false) :
      Creation k id parameters plan service d [called (b.probe name k) a] (.error f)
  | unfit {name : Value} {g f : Fault} (hg : g.isAbsence)
      (h : d = none ∨ ∀ m, ¬ Fit (creationOf k) d parameters plan service m) :
      Creation k id parameters plan service d [called (b.probe name k) (.error g)] (.error f)
  | tried {name : Value} {g : Fault} {m m' : Mapping} {d' : Discovery} {r : Record}
      {es : List (Dialogue.Event Remote)} {u : Except Fault Unit}
      (hname : b.nameOf id = .ok name) (hsend : Template.Sendable name.plain) (hg : g.isAbsence)
      (heffective : EffectiveFor parameters plan service m m')
      (hadmits : (creationOf k).Admits d m) (hd : d = some d')
      (hr : b.description name d'.replicationGroupId (.mapping m') k = .ok r)
      (h : Tried (b.creationCalls name r m' k) es u) :
      Creation k id parameters plan service d (called (b.probe name k) (.error g) :: es)
        ((u.map fun _ => .mapping m').mapError Fault.wrap)

/-! ## 2. The probe -/

section Probe

variable {b} {id : Value} {s s' : State} {es : List (Dialogue.Event Remote)}

theorem course_probe (k : Resource) (part : String) (c : Value → Call) {r : Except Fault Bool}
    (h : (reporting (liftM (b.nameOf id) >>= fun name => path (k.template part) [name] >>=
      fun p => existence (c p))).Course s es r s') :
    s' = s ∧ ((es = [] ∧ (∃ f, r = .error f) ∧ b.Unnamable id) ∨
      ∃ name a r', b.nameOf id = .ok name ∧ Template.Sendable name.plain ∧
        es = [called (c (.text (k.address name.plain part))) a] ∧ Probed a r' ∧
        r = r'.mapError Fault.wrap) := by
  obtain ⟨r', hinner, rfl⟩ := Action.course_mapFault.1 h
  obtain ⟨m, hm, rfl, rfl, rfl⟩ | ⟨name, hname, hinner⟩ :=
    Action.course_lift_malformed_bind.1 hinner
  · exact ⟨rfl, .inl ⟨rfl, ⟨_, rfl⟩, unnamable_of_error hm⟩⟩
  obtain ⟨m, hm, rfl, rfl, rfl⟩ | ⟨p, hp, hinner⟩ := course_path_bind.1 hinner
  · exact ⟨rfl, .inl ⟨rfl, ⟨_, rfl⟩, unnamable_of_unfilled hname hm⟩⟩
  obtain ⟨cs, hcs, rfl⟩ := fill_template.1 hp
  obtain ⟨hsend, rfl⟩ := Text.Template.encoded_eq_ok.1 hcs
  obtain ⟨a, rfl, hprobed, rfl⟩ := course_existence hinner
  exact ⟨rfl, .inr ⟨name, a, r', hname, hsend, rfl, hprobed, rfl⟩⟩

/-- **Whether a resource exists is asked by its probe**, under the name that it would have. -/
theorem course_existing {k : Resource} {r : Except Fault Bool}
    (h : (b.existing id k).Course s es r s') :
    s' = s ∧ ((es = [] ∧ (∃ f, r = .error f) ∧ b.Unnamable id) ∨
      ∃ name a r', b.nameOf id = .ok name ∧ Template.Sendable name.plain ∧
        es = [called (b.probe name k) a] ∧ Probed a r' ∧ r = r'.mapError Fault.wrap) := by
  cases k with
  | bucket =>
    exact course_probe .bucket "/info"
      (fun p => { path := p, params := Bucket.inNamespace b.home }) h
  | space => exact course_probe .space "" (fun p => { path := p }) h

/-- **Behind the probe** the operation goes on with what the probe has found, unless it failed. -/
theorem course_existing_bind {α : Type} {k : Resource} {f : Bool → Operation α}
    {r : Except Fault α} (h : (b.existing id k >>= f).Course s es r s') :
    (es = [] ∧ (∃ e, r = .error e) ∧ b.Unnamable id) ∨
      (∃ name a, es = [called (b.probe name k) a] ∧ (∀ g, a = .error g → g.isAbsence = false) ∧
        ∃ e, r = .error e) ∨
      (∃ name x rest, es = called (b.probe name k) (.ok x) :: rest ∧
        (f true).Course s rest r s') ∨
      ∃ name g rest, b.nameOf id = .ok name ∧ Template.Sendable name.plain ∧ g.isAbsence ∧
        es = called (b.probe name k) (.error g) :: rest ∧ (f false).Course s rest r s' := by
  obtain ⟨e, hfirst, rfl⟩ | ⟨es₁, there, s₁, es₂, hfirst, hnext, rfl⟩ := Action.course_bind.1 h
  · obtain ⟨_, ⟨rfl, _, hid⟩ | ⟨name, a, r', _, _, rfl, hprobed, hr⟩⟩ := course_existing hfirst
    · exact .inl ⟨rfl, ⟨e, rfl⟩, hid⟩
    · refine .inr (.inl ⟨name, a, rfl, ?_, e, rfl⟩)
      rintro g rfl
      obtain ⟨_, ha, _⟩ | ⟨_, _, _, rfl⟩ | ⟨g', hg', hg, _⟩ := hprobed
      · cases ha
      · cases hr
      · cases hg'
        exact hg
  · obtain ⟨rfl, ⟨_, ⟨_, hr⟩, _⟩ | ⟨name, a, r', hname, hsend, rfl, hprobed, hr⟩⟩ :=
      course_existing hfirst
    · cases hr
    obtain rfl : r' = .ok there := mapError_eq_ok.1 hr.symm
    obtain ⟨x, rfl, hthere⟩ | ⟨g, rfl, hg, hthere⟩ | ⟨_, _, _, hthere⟩ := hprobed
    · cases hthere
      exact .inr (.inr (.inl ⟨name, x, es₂, rfl, hnext⟩))
    · cases hthere
      exact .inr (.inr (.inr ⟨name, g, es₂, hname, hsend, hg, rfl, hnext⟩))
    · cases hthere

/-- **Behind a probe that has found nothing** the operation goes on with that. -/
theorem course_existing_missing {α : Type} {k : Resource} {f : Bool → Operation α} {c : Call}
    {g : Fault} {rest : List (Dialogue.Event Remote)} {r : Except Fault α}
    (h : (b.existing id k >>= f).Course s (called c (.error g) :: rest) r s') (hg : g.isAbsence) :
    ∃ name, b.nameOf id = .ok name ∧ (f false).Course s rest r s' := by
  rcases course_existing_bind h with ⟨hnil, _⟩ | ⟨_, a, hone, ha, _⟩ | ⟨_, _, _, hthere, _⟩ |
    ⟨name, _, _, hname, _, _, hmissing, hbehind⟩
  · cases hnil
  · obtain ⟨hcalled, _⟩ := List.cons.inj hone
    obtain ⟨_, rfl⟩ := called_injective hcalled
    rw [ha g rfl] at hg
    cases hg
  · obtain ⟨hcalled, _⟩ := List.cons.inj hthere
    obtain ⟨_, ha⟩ := called_injective hcalled
    cases ha
  · obtain ⟨_, rfl⟩ := List.cons.inj hmissing
    exact ⟨name, hname, hbehind⟩

end Probe

/-! ## 3. Behind the probe -/

section Behind

variable {b} {id name parameters : Value} {plan : Plan} {service : ServiceDefinition}
  {m m' : Mapping} {s s' : State} {es : List (Dialogue.Event Remote)}

/-- **A new bucket is made by the calls of its creation.** -/
theorem performs_makeBucket {group : Value} {record : Record}
    (hname : Template.Sendable name.plain) (h : Settled m m')
    (hrecord : b.description name group (.mapping m') .bucket = .ok record) :
    Performs (b.creationCalls name record m' .bucket) (.mapping m') (do
      let body ← Record.bucketCreate name b.home group (.mapping m')
      Bucket.create body.toValue
      b.applyBucketQuota name (.mapping m')
      b.applyBucketRetention name (.mapping m')
      return .mapping m' : Operation Value) := by
  have hbody := Record.bodyOf_toValue (kind_bucketCreate hrecord) (by decide) (by decide)
  have hcreate : Performs
      [{ method := "POST", path := .text "/object/bucket", body := record.plainData }] ()
      (Bucket.create record.toValue : Operation Unit) := .lift_bind hbody performs_perform
  refine .lift_bind hrecord (hcreate.bind ((performs_applyBucketQuota hname h).bind ?_))
  exact (performs_applyBucketRetention hname).andReturn

/-- **A new namespace is made by the calls of its creation.** -/
theorem performs_makeNamespace {group : Value} {record : Record}
    (hname : Template.Sendable name.plain) (h : Settled m m')
    (hrecord : b.description name group (.mapping m') .space = .ok record) :
    Performs (b.creationCalls name record m' .space) (.mapping m') (do
      let body ← Record.namespaceCreate name group (.mapping m')
      Namespace.create body.toValue
      applyNamespaceQuota name (.mapping m')
      createClasses name (← classesIn (.mapping m'))
      return .mapping m' : Operation Value) := by
  have hbody := Record.bodyOf_toValue (kind_namespaceCreate hrecord) (by decide) (by decide)
  have hcreate : Performs
      [{ method := "POST", path := .text "/object/namespaces/namespace"
         body := record.plainData }] ()
      (Namespace.create record.toValue : Operation Unit) := .lift_bind hbody performs_perform
  refine .lift_bind hrecord (hcreate.bind ((performs_applyNamespaceQuota hname h).bind ?_))
  exact .lift_bind (classesIn_eq h) (performs_createClasses hname _).andReturn

/-- Settled parameters describe a new resource. -/
theorem description_mapping (b : Broker) (name group : Value) (m : Mapping) (k : Resource) :
    ∃ record, b.description name group (.mapping m) k = .ok record := by
  cases k with
  | bucket => exact ⟨_, rfl⟩
  | space => exact ⟨_, rfl⟩

theorem course_createBucket {r : Except Fault Value}
    (h : (b.createBucket id service plan parameters).Course s es r s') :
    Creation b .bucket id parameters plan service s.discovery es r := by
  obtain ⟨r', hinner, rfl⟩ := Action.course_mapFault.1 (Action.course_modify_bind.1 h)
  obtain ⟨m, hm, rfl, rfl, _⟩ | ⟨name, hname, hinner⟩ :=
    Action.course_lift_malformed_bind.1 hinner
  · exact .unasked (unnamable_of_error hm)
  rcases course_existing_bind (k := .bucket) hinner with ⟨rfl, ⟨e, rfl⟩, hid⟩ |
    ⟨_, a, rfl, ha, e, rfl⟩ | ⟨_, x, rest, rfl, hthrow⟩ |
    ⟨name', g, rest, hname', hsend, hg, rfl, hbehind⟩
  · exact .unasked hid
  · exact .there ha
  · obtain ⟨rfl, rfl⟩ := course_throw_bind hthrow
    exact .there nofun
  rw [hname] at hname'
  cases hname'
  obtain ⟨rfl, ⟨e, rfl⟩, hinvalid⟩ | ⟨m, m', s₁, heffective, hs₁, hbehind⟩ :=
    course_effective_bind hbehind
  · exact .unfit hg (.inr fun m hfit => hinvalid m hfit.1 hfit.2.valid)
  have hsettled := heffective.settled
  obtain ⟨rfl, ⟨e, rfl⟩, hrefused⟩ | ⟨d, hd, hallowed, hbehind⟩ := course_checkPolicy_bind hbehind
  · refine .unfit hg (.inr fun n hfit => ?_)
    have hn := hfit.1
    rw [heffective.merged] at hn
    cases hn
    obtain ⟨d, hd, hallowed⟩ := allowed_of_admits hsettled rfl hfit.2
    exact hrefused d (hs₁.trans hd) hallowed
  obtain ⟨record, hrecord⟩ := b.description_mapping name d.replicationGroupId m' .bucket
  obtain ⟨u, htried, rfl⟩ := performs_makeBucket hsend hsettled hrecord _ _ _ _
    (course_discovered_bind hd hbehind)
  have hdiscovery : s.discovery = some d := hs₁.symm.trans hd
  exact .tried hname hsend hg heffective (admits_of_allowed hsettled ⟨d, hdiscovery, hallowed⟩)
    hdiscovery hrecord htried

theorem course_createNamespace {r : Except Fault Value}
    (h : (b.createNamespace id service plan parameters).Course s es r s') :
    Creation b .space id parameters plan service s.discovery es r := by
  obtain ⟨r', hinner, rfl⟩ := Action.course_mapFault.1 (Action.course_modify_bind.1 h)
  rcases course_existing_bind (k := .space) hinner with ⟨rfl, ⟨e, rfl⟩, hid⟩ |
    ⟨_, a, rfl, ha, e, rfl⟩ | ⟨_, x, rest, rfl, hthrow⟩ |
    ⟨name, g, rest, hname, hsend, hg, rfl, hbehind⟩
  · exact .unasked hid
  · exact .there ha
  · obtain ⟨rfl, rfl⟩ := course_throw_bind hthrow
    exact .there nofun
  obtain ⟨rfl, ⟨e, rfl⟩, hinvalid⟩ | ⟨m, m', s₁, heffective, hs₁, hbehind⟩ :=
    course_effective_bind hbehind
  · exact .unfit hg (.inr fun m hfit => hinvalid m hfit.1 hfit.2.valid)
  have hsettled := heffective.settled
  obtain ⟨_, hx, _⟩ | ⟨name', hname', hbehind⟩ := Action.course_lift_malformed_bind.1 hbehind
  · rw [hname] at hx
    cases hx
  rw [hname] at hname'
  cases hname'
  cases hd : s₁.discovery with
  | none =>
    obtain ⟨rfl, _, e, rfl⟩ := course_undiscovered_bind hd hbehind
    exact .unfit hg (.inl (hs₁.symm.trans hd))
  | some d =>
    obtain ⟨record, hrecord⟩ := b.description_mapping name d.replicationGroupId m' .space
    obtain ⟨u, htried, rfl⟩ := performs_makeNamespace hsend hsettled hrecord _ _ _ _
      (course_discovered_bind hd hbehind)
    exact .tried hname hsend hg heffective ⟨hsettled.valid, nofun⟩ (hs₁.symm.trans hd) hrecord
      htried

/-- **Every creation goes in one of its ways.** -/
theorem course_creation (k : Resource) {r : Except Fault Value}
    (h : ((creationOf k).perform b id service plan parameters).Course s es r s') :
    Creation b k id parameters plan service s.discovery es r := by
  cases k with
  | bucket => exact course_createBucket h
  | space => exact course_createNamespace h

end Behind

/-! ## 4. Over a session -/

/-- **A creation applies exactly what the effective parameters ask for.** Where the probe has found
nothing, and the merged parameters pass, the calls behind the probe are those of the creation: the
resource with its description, then its quota if one has been merged, then its default retention if
one has been merged, or its retention classes in their order. They are all accepted, and the settled
parameters are the result; or the first one that is refused is the last one that is made, and its
failure is reported. -/
theorem creation_applies_settings (k : Resource) (id parameters : Value)
    (service : ServiceDefinition) (plan : Plan) {m : Mapping} {d : Discovery} {bs : State}
    (hd : bs.discovery = some d)
    (hmerge : Settings.mergeFor parameters plan service = .ok (.mapping m))
    (hadmits : (creationOf k).Admits (some d) m) {σ : Type} (w : Dialogue.World Wire σ) (st : σ)
    (s : Session) :
    let x := ((creationOf k).perform b id service plan parameters).run bs
    let o := Dialogue.run w (Session.carryOut x s) st
    ∀ c g es, (Session.turns w x s st).map Dialogue.Turn.event = called c (.error g) :: es →
      g.isAbsence → ∃ name m' record u, b.nameOf id = .ok name ∧ c = b.probe name k ∧
        Settings.check (.mapping m) = ⟨.mapping m', none⟩ ∧
        (quotaIn m' = none ↔ Settings.Absent (Mapping.get m Settings.quota)) ∧
        (periodIn m' = none ↔ Settings.Absent (Mapping.get m Settings.defaultRetention)) ∧
        b.description name d.replicationGroupId (.mapping m') k = .ok record ∧
        Tried (b.creationCalls name record m' k) es u ∧
        o.result.1.1 = (u.map fun _ => .mapping m').mapError Fault.wrap := by
  intro x o c g es hcalls hg
  have hcourse := course_creation k (Action.course_iff.1 (Session.course_carryOut w x s st))
  have hresult : o.result.1.1 = (Dialogue.run w (Session.carryOut x s) st).result.1.1 := rfl
  rw [hcalls, hd] at hcourse
  rw [hresult]
  generalize (Dialogue.run w (Session.carryOut x s) st).result.1.1 = r at hcourse
  generalize hevents : called c (.error g) :: es = events at hcourse
  cases hcourse with
  | unasked _ => cases hevents
  | there ha =>
    obtain ⟨hfirst, _⟩ := List.cons.inj hevents
    obtain ⟨_, rfl⟩ := called_injective hfirst
    rw [ha g rfl] at hg
    cases hg
  | unfit _ h =>
    rcases h with h | h
    · cases h
    · exact absurd ⟨hmerge, hadmits⟩ (h m)
  | tried hname _ _ heffective _ hd' hrecord htried =>
    obtain ⟨hfirst, rfl⟩ := List.cons.inj hevents
    obtain ⟨rfl, _⟩ := called_injective hfirst
    cases hd'
    have hm := heffective.merged
    rw [hmerge] at hm
    cases hm
    have hsettled := heffective.settled
    exact ⟨_, _, _, _, hname, rfl, heffective.checked, quotaIn_eq_none_iff hsettled,
      periodIn_eq_none_iff hsettled, hrecord, htried, rfl⟩

/-- A storage on which no resource of the id `b` exists, and which accepts everything. -/
def withoutB : Rehearsal.State where
  server := ⟨[], 0, [],
    [("GET /object/bucket/ecs-cf-broker-b/info",
        .always (Rehearsal.Server.plainResponse 404 "x")),
      ("GET /object/namespaces/namespace/ecs-cf-broker-b",
        .always (Rehearsal.Server.plainResponse 404 "x"))],
    Rehearsal.Server.plainResponse 200 "\x7b\x7d"⟩
  depot := ⟨none, [], []⟩
  random := 0.5

/-- A bucket with a forced quota and a retention that was asked for as a text. -/
theorem creation_applies_settings_forced :
    let asked : Mapping := [(.text "default-retention", .text "30")]
    let x := ((creationOf .bucket).perform bare (.text "b") unlimited limited
      (.mapping asked)).run discovering
    let s := Session.expired.withToken none
    let o := Dialogue.run Rehearsal.world (Session.carryOut x s) withoutB
    o.events.filterMap addressOf = (["https://ecs:4443/login",
      "https://ecs:4443/object/bucket/ecs-cf-broker-b/info", "https://ecs:4443/object/bucket",
      "https://ecs:4443/object/bucket/ecs-cf-broker-b/quota",
      "https://ecs:4443/object/bucket/ecs-cf-broker-b/retention"] : List Text) ∧
    ∃ m c g es, Settings.mergeFor (.mapping asked) limited unlimited = .ok (.mapping m) ∧
      (creationOf .bucket).Admits discovering.discovery m ∧
      (Session.turns Rehearsal.world x s withoutB).map Dialogue.Turn.event =
        called c (.error g) :: es ∧ g.isAbsence ∧
      ∃ m' record, Tried (bare.creationCalls (.text "ecs-cf-broker-b") record m' .bucket) es
        (.ok ()) ∧ o.result.1.1 = .ok (.mapping m') := by
  intro asked x s o
  have hrun : o.events.filterMap addressOf = (["https://ecs:4443/login",
      "https://ecs:4443/object/bucket/ecs-cf-broker-b/info", "https://ecs:4443/object/bucket",
      "https://ecs:4443/object/bucket/ecs-cf-broker-b/quota",
      "https://ecs:4443/object/bucket/ecs-cf-broker-b/retention"] : List Text) ∧ o.result.1.1.isOk ∧
      ((Session.turns Rehearsal.world x s withoutB).map Dialogue.Turn.event).head?.any
        isMissing := by decide +kernel
  obtain ⟨hevents, hok, hfirst⟩ := hrun
  refine ⟨hevents, ?_⟩
  cases hcalls : (Session.turns Rehearsal.world x s withoutB).map Dialogue.Turn.event with
  | nil =>
    rw [hcalls] at hfirst
    cases hfirst
  | cons e es =>
    rw [hcalls] at hfirst
    obtain ⟨c, g, rfl, _, hg⟩ := missing_of_isMissing hfirst
    have hmerge := mergeFor_of_given (.mapping asked) limited unlimited
    have hadmits : (creationOf .bucket).Admits discovering.discovery
        (Mapping.update (Mapping.update asked limited.serviceSettings)
          unlimited.serviceSettings) :=
      admits_discovering (by decide +kernel) (by decide +kernel)
    refine ⟨_, c, g, es, hmerge, hadmits, rfl, hg, ?_⟩
    obtain ⟨name, m', record, u, hname, _, _, _, _, _, htried, hresult⟩ :=
      bare.creation_applies_settings .bucket (.text "b") (.mapping asked) unlimited limited rfl
        hmerge hadmits Rehearsal.world withoutB s c g es hcalls hg
    cases hname
    replace hresult : o.result.1.1 = (u.map fun _ => .mapping m').mapError Fault.wrap := hresult
    cases u with
    | ok => exact ⟨m', record, htried, hresult⟩
    | error f =>
      rw [hresult] at hok
      cases hok

end StorageBroker.Broker
