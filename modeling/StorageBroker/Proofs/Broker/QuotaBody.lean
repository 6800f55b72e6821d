import StorageBroker.Proofs.Broker.Creation
import StorageBroker.Proofs.Broker.QuotaChange
/-!
# The body of a quota

The quota of a bucket is set in two places: behind its creation, and by a change of plan. A change
of plan sends `unset` for a size that is not given, so what it sends are always two integers. A
creation sends the sizes as they stand in the quota, so it sends integers only where both are given;
where one is not, the storage is told nothing for it, and the same parameters are told in another
way once the plan is changed.

* `setsQuota` -- the requests that set the quota of a bucket;
* `SizeGiven` -- what a creation sends for a size;
* `Integral`, `SetsBoth` -- bodies with two integers, and the parameters that give both sizes;
* `quota_bodies_agree_iff` -- what either operation sends, and when they send the same;
* `created_quota_not_integral` -- a quota without a warning, as a creation sends it.
-/

namespace StorageBroker.Broker

open Management
open Record (entry)
open Settings (Settled)

/-! ## 1. Bodies -/

/-- **What a creation sends for a size of the quota** in merged parameters: the integer that the
size is read as, and nothing where it is not given. -/
def SizeGiven (m : Mapping) (size : Text) (v : Value) : Prop :=
  match Settings.sizeIn m size with
  | none => v = .null
  | some w => ∃ i, Settings.Reads w i ∧ v = .int i

/-- Both sizes of the quota are given in merged parameters. -/
def SetsBoth (m : Mapping) : Prop :=
  (Settings.sizeIn m Settings.limit).isSome ∧ (Settings.sizeIn m Settings.warn).isSome

/-- **A body in which both sizes are integers.** -/
def Integral (body : Value) : Prop :=
  ∃ limit warn : Int, entry body "blockSize" = some (.int limit) ∧
    entry body "notificationSize" = some (.int warn)

variable (b : Broker)

/-- The body that sets the quota of a bucket to the given sizes. -/
def quotaBody (limit warn : Value) : Value :=
  .mapping (Mapping.ofNamed
    [("namespace", b.home), ("blockSize", limit), ("notificationSize", warn)])

variable {b} {m m' : Mapping} {size : Text} {limit warn limit' warn' v : Value}

theorem entry_quotaBody (b : Broker) (limit warn : Value) :
    entry (b.quotaBody limit warn) "blockSize" = some limit ∧
      entry (b.quotaBody limit warn) "notificationSize" = some warn := by
  rw [quotaBody, Record.entry_ofNamed, Record.entry_ofNamed]
  exact ⟨rfl, rfl⟩

/-- A body gives both sizes as integers where both are integers. -/
theorem integral_quotaBody : Integral (b.quotaBody limit warn) ↔
    (∃ i, limit = .int i) ∧ ∃ j, warn = .int j := by
  obtain ⟨hlimit, hwarn⟩ := entry_quotaBody b limit warn
  unfold Integral
  rw [hlimit, hwarn]
  constructor
  · rintro ⟨i, j, hi, hj⟩
    exact ⟨⟨i, Option.some.inj hi⟩, j, Option.some.inj hj⟩
  · rintro ⟨⟨i, rfl⟩, j, rfl⟩
    exact ⟨i, j, rfl, rfl⟩

/-- Two bodies are the same if both sizes are. -/
theorem quotaBody_inj :
    b.quotaBody limit warn = b.quotaBody limit' warn' ↔ limit = limit' ∧ warn = warn' := by
  constructor
  · intro h
    obtain ⟨hlimit, hwarn⟩ := entry_quotaBody b limit warn
    rw [h, (entry_quotaBody b limit' warn').1] at hlimit
    rw [h, (entry_quotaBody b limit' warn').2] at hwarn
    exact ⟨(Option.some.inj hlimit).symm, (Option.some.inj hwarn).symm⟩
  · rintro ⟨rfl, rfl⟩
    rfl

/-- **A creation sends a given size as an integer**, and no other one. -/
theorem SizeGiven.int_iff (h : SizeGiven m size v) :
    (∃ i, v = .int i) ↔ (Settings.sizeIn m size).isSome := by
  unfold SizeGiven at h
  split at h
  next hsize =>
    subst h
    rw [hsize]
    exact ⟨nofun, nofun⟩
  next w hsize =>
    obtain ⟨i, _, rfl⟩ := h
    rw [hsize]
    exact ⟨fun _ => rfl, fun _ => ⟨i, rfl⟩⟩

/-- **A creation and a change of plan send the same for a size that is given**, and for no other
one. -/
theorem SizeGiven.eq_iff {i : Int} (h : SizeGiven m size v) (hi : SizeRead m size i) :
    v = .int i ↔ (Settings.sizeIn m size).isSome := by
  refine ⟨fun heq => h.int_iff.1 ⟨i, heq⟩, fun hsome => ?_⟩
  obtain ⟨w, hw⟩ := Option.isSome_iff_exists.1 hsome
  unfold SizeGiven at h
  unfold SizeRead at hi
  rw [hw] at h hi
  obtain ⟨j, hj, rfl⟩ := h
  exact congrArg Value.int (Except.ok.inj (hj.2.symm.trans hi.2))

/-- **The sizes in a settled quota** are those that a creation sends. -/
theorem sizeGiven_of_quotaIn (h : Settled m m') (hquota : quotaIn m' = some (limit, warn)) :
    SizeGiven m Settings.limit limit ∧ SizeGiven m Settings.warn warn := by
  rcases h.quota_cases with ⟨habsent, _⟩ | ⟨q, q', hq, hq', hsizes⟩
  · unfold quotaIn at hquota
    rcases habsent with hnone | hnull
    · rw [hnone] at hquota
      cases hquota
    · rw [hnull] at hquota
      cases hquota
  · have hgiven : ∀ {size}, size = Settings.limit ∨ size = Settings.warn →
        SizeGiven m size ((Mapping.get q' size).getD .null) := by
      intro size hsize
      have hsizeIn : Settings.sizeIn m size = (Mapping.get q size).filter fun v => !v.isNull := by
        rw [Settings.sizeIn, hq]
      have hread := hsizes size hsize
      unfold SizeGiven
      rw [hsizeIn]
      generalize Mapping.get q size = a, Mapping.get q' size = a' at hread
      cases hread with
      | missing => rfl
      | null => rfl
      | read hv hcheck =>
        obtain ⟨i, hi, rfl⟩ := Settings.checkInteger_eq_ok.1 hcheck
        rw [Option.filter_some, hv]
        exact ⟨i, hi, rfl⟩
    rw [quotaIn, hq'] at hquota
    cases hquota
    exact ⟨hgiven (.inl rfl), hgiven (.inr rfl)⟩

/-! ## 2. Requests -/

/-- Whether a request sets the quota of a bucket. -/
def setsQuota (q : Request) : Bool :=
  match q.method with
  | .text m => m == "PUT" && ("/quota" : Text).toList.isSuffixOf q.url.toList
  | _ => false

theorem setsQuota_iff {q : Request} :
    setsQuota q ↔ q.method = "PUT" ∧ ("/quota" : Text).toList <:+ q.url.toList := by
  unfold setsQuota
  split
  next m hm => simp [hm]
  next hm => exact ⟨nofun, fun h => absurd h.1 (hm "PUT")⟩

variable {s : Session} {c : Call} {q : Request} {x : Reply}

/-- **A request that sets a quota** is that of a call with the same body, whose path leads to a
quota. -/
theorem call_of_setsQuota (h : Session.RequestOf s c (Session.sent q x)) (hq : setsQuota q) :
    c.method = "PUT" ∧ bodyIn q = c.body ∧
      ∀ p, c.path = .text p → ∃ e : Text, ("/quota" : Text).toList <:+ e.toList ++ p.toList := by
  obtain ⟨hmethod, hurl⟩ := setsQuota_iff.1 hq
  generalize hevent : Session.sent q x = e at h
  cases h with
  | login hu =>
    cases hevent
    exact absurd (Value.text.inj hmethod) (by decide)
  | pause => cases hevent
  | random => cases hevent
  | call hu =>
    cases hevent
    refine ⟨hmethod, rfl, fun p hp => ?_⟩
    rw [hp] at hu
    obtain ⟨e, _, rfl⟩ := urlText_eq_ok hu
    refine ⟨e, ?_⟩
    rw [← Text.toList_append]
    exact hurl

/-- An address ends in the part that it leads to. -/
theorem suffix_address (k : Resource) (name : Text) (part : String) :
    (part : Text).toList <:+ (k.address name part : Text).toList := by
  rw [Resource.address, Resource.path, Text.toList_plain, Text.toList_plain, String.toList_ofList]
  exact (List.suffix_append _ _).map _

/-- The call that sets a retention leads to no quota. -/
theorem not_setsQuota_of_retention {name period : Value}
    (h : Session.RequestOf s (b.bucketRetention name period) (Session.sent q x)) :
    ¬ setsQuota q := by
  intro hq
  obtain ⟨_, _, hpath⟩ := call_of_setsQuota h hq
  obtain ⟨e, hquota⟩ := hpath _ rfl
  have hretention : ("/retention" : Text).toList <:+
      e.toList ++ (Resource.bucket.address name.plain "/retention" : Text).toList :=
    List.suffix_append_of_suffix (suffix_address _ _ _)
  rcases List.suffix_or_suffix_of_suffix hquota hretention with h | h
  · exact absurd h (by decide)
  · exact absurd h (by decide)

/-- **What a creation sends to a quota** are the sizes in the settled parameters. -/
theorem quota_of_creationCalls {name : Value} {r : Record}
    (hc : c ∈ b.creationCalls name r m' .bucket)
    (h : Session.RequestOf s c (Session.sent q x)) (hq : setsQuota q) :
    ∃ limit warn, quotaIn m' = some (limit, warn) ∧ bodyIn q = b.quotaBody limit warn := by
  rcases List.mem_cons.1 hc with rfl | hc
  · exact absurd (Value.text.inj (call_of_setsQuota h hq).1) (by decide)
  rcases List.mem_append.1 hc with hc | hc
  · obtain ⟨⟨limit, warn⟩, hquota, rfl⟩ := List.mem_map.1 hc
    exact ⟨limit, warn, Option.mem_toList.1 hquota, (call_of_setsQuota h hq).2.1⟩
  · obtain ⟨period, _, rfl⟩ := List.mem_map.1 hc
    exact absurd hq (not_setsQuota_of_retention h)

/-! ## 3. Operations -/

section Operations

variable {id parameters : Value} {plan : Plan} {service : ServiceDefinition}
  {d : Option Discovery} {es : List (Dialogue.Event Remote)} {r : Except Fault Value}
  {a : Except Fault Response}

/-- **What the creation of a bucket sends to a quota.** -/
theorem quota_of_creation (h : Creation b .bucket id parameters plan service d es r)
    (hc : called c a ∈ es) (hsent : Session.RequestOf s c (Session.sent q x))
    (hq : setsQuota q) : ∃ m limit warn,
      Settings.mergeFor parameters plan service = .ok (.mapping m) ∧
      SizeGiven m Settings.limit limit ∧ SizeGiven m Settings.warn warn ∧
      bodyIn q = b.quotaBody limit warn := by
  have hprobe : ∀ {name}, c ≠ b.probe name .bucket := by
    rintro name rfl
    exact absurd (Value.text.inj (call_of_setsQuota hsent hq).1) (by decide)
  cases h with
  | unasked => cases hc
  | there =>
    cases List.mem_singleton.1 hc
    exact absurd rfl hprobe
  | unfit =>
    cases List.mem_singleton.1 hc
    exact absurd rfl hprobe
  | @tried _ _ m m' _ _ _ _ _ _ _ heffective _ _ _ htried =>
    rcases List.mem_cons.1 hc with heq | hc
    · cases heq
      exact absurd rfl hprobe
    · obtain ⟨limit, warn, hquota, hbody⟩ := quota_of_creationCalls (htried.mem hc) hsent hq
      obtain ⟨hlimit, hwarn⟩ := sizeGiven_of_quotaIn heffective.settled hquota
      exact ⟨m, limit, warn, heffective.merged, hlimit, hwarn, hbody⟩

/-- **What a change of plan sends to a quota.** -/
theorem quota_of_planChange (h : PlanChange b id parameters plan service d es r)
    (hc : called c a ∈ es) (hsent : Session.RequestOf s c (Session.sent q x))
    (hq : setsQuota q) : ∃ m limit warn,
      Settings.mergeFor parameters plan service = .ok (.mapping m) ∧
      SizeRead m Settings.limit limit ∧ SizeRead m Settings.warn warn ∧
      bodyIn q = b.quotaBody (.int limit) (.int warn) := by
  cases h with
  | unasked => cases hc
  | @asked name m m' limit warn _ _ _ heffective _ hlimit hwarn =>
    cases List.mem_singleton.1 hc
    obtain ⟨i, hi, hlimitRead⟩ := sizeRead_of_settled heffective.settled (.inl rfl)
    cases hlimit.symm.trans hi
    obtain ⟨j, hj, hwarnRead⟩ := sizeRead_of_settled heffective.settled (.inr rfl)
    cases hwarn.symm.trans hj
    obtain ⟨hmethod, hbody, _⟩ := call_of_setsQuota hsent hq
    unfold planCall at hmethod hbody
    split at hmethod
    · exact absurd (Value.text.inj hmethod) (by decide)
    next hset =>
      rw [if_neg hset] at hbody
      exact ⟨m, limit, warn, heffective.merged, hlimitRead, hwarnRead, hbody⟩

end Operations

/-! ## 4. Over a session -/

/-- **The requests of an operation that set a quota** are those of its calls. -/
theorem call_of_quota_event {α σ : Type} {w : Dialogue.World Wire σ} {d : Dialogue Remote α}
    {st : σ} (h : Session.sent q x ∈ (Dialogue.run w (Session.carryOut d s) st).events) :
    ∃ c a, called c a ∈ (Session.turns w d s st).map Dialogue.Turn.event ∧
      Session.RequestOf s c (Session.sent q x) := by
  obtain ⟨c, a, hturn, hrequest⟩ | ⟨_, _, _, hevent⟩ := Session.event_of_turns w d s st h
  · exact ⟨c, a, hturn, hrequest⟩
  · cases hevent

section Requests

variable (b) {id parameters : Value} {plan : Plan} {service : ServiceDefinition} {σ : Type}
  {w : Dialogue.World Wire σ} {st : σ} {bs : State}

/-- **A creation sends integers** for the quota exactly where both sizes are given. -/
theorem creation_quota_body (h : Session.sent q x ∈ (Dialogue.run w
      (Session.carryOut ((b.createBucket id service plan parameters).run bs) s) st).events)
    (hq : setsQuota q) : ∃ m limit warn,
      Settings.mergeFor parameters plan service = .ok (.mapping m) ∧
      SizeGiven m Settings.limit limit ∧ SizeGiven m Settings.warn warn ∧
      bodyIn q = b.quotaBody limit warn ∧ (Integral (bodyIn q) ↔ SetsBoth m) := by
  obtain ⟨c, a, hc, hsent⟩ := call_of_quota_event h
  have hcourse := course_createBucket (Action.course_iff.1 (Session.course_carryOut w
    ((b.createBucket id service plan parameters).run bs) s st))
  obtain ⟨m, limit, warn, hm, hlimit, hwarn, hbody⟩ := quota_of_creation hcourse hc hsent hq
  refine ⟨m, limit, warn, hm, hlimit, hwarn, hbody, ?_⟩
  rw [hbody, integral_quotaBody, hlimit.int_iff, hwarn.int_iff]
  rfl

/-- **A change of plan always sends integers.** -/
theorem planChange_quota_body (h : Session.sent q x ∈ (Dialogue.run w
      (Session.carryOut ((b.changeBucketPlan id service plan parameters).run bs) s) st).events)
    (hq : setsQuota q) : ∃ m limit warn,
      Settings.mergeFor parameters plan service = .ok (.mapping m) ∧
      SizeRead m Settings.limit limit ∧ SizeRead m Settings.warn warn ∧
      bodyIn q = b.quotaBody (.int limit) (.int warn) ∧ Integral (bodyIn q) := by
  obtain ⟨c, a, hc, hsent⟩ := call_of_quota_event h
  have hcourse := course_changeBucketPlan (Action.course_iff.1 (Session.course_carryOut w
    ((b.changeBucketPlan id service plan parameters).run bs) s st))
  obtain ⟨m, limit, warn, hm, hlimit, hwarn, hbody⟩ := quota_of_planChange hcourse hc hsent hq
  refine ⟨m, limit, warn, hm, hlimit, hwarn, hbody, ?_⟩
  rw [hbody]
  exact integral_quotaBody.2 ⟨⟨limit, rfl⟩, warn, rfl⟩

end Requests

/-- **Where both sizes are given, a creation and a change of plan set the same quota**, and nowhere
else. For parameters that come to the same once they are merged, in any two worlds and from any
states: what a change of plan sends for a quota are the integers that the sizes are read as, with
`unset` for a size that is not given; a creation sends the same integers, but nothing for a size
that is not given. So its body has two integers, and is that of the change of plan, exactly if the
merged parameters give both sizes. -/
theorem quota_bodies_agree_iff (id id' : Value) {given given' : Value} {plan plan' : Plan}
    {service service' : ServiceDefinition}
    (hsame : Settings.mergeFor given plan service = Settings.mergeFor given' plan' service')
    {σ σ' : Type} (w : Dialogue.World Wire σ) (w' : Dialogue.World Wire σ') (st : σ) (st' : σ')
    (s s' : Session) (bs bs' : State) :
    let created := Dialogue.run w
      (Session.carryOut ((b.createBucket id service plan given).run bs) s) st
    let changed := Dialogue.run w'
      (Session.carryOut ((b.changeBucketPlan id' service' plan' given').run bs') s') st'
    (∀ q x, Session.sent q x ∈ changed.events → setsQuota q → ∃ m limit warn,
      Settings.mergeFor given' plan' service' = .ok (.mapping m) ∧
      SizeRead m Settings.limit limit ∧ SizeRead m Settings.warn warn ∧
      bodyIn q = b.quotaBody (.int limit) (.int warn) ∧ Integral (bodyIn q)) ∧
    (∀ q x, Session.sent q x ∈ created.events → setsQuota q → ∃ m limit warn,
      Settings.mergeFor given plan service = .ok (.mapping m) ∧
      SizeGiven m Settings.limit limit ∧ SizeGiven m Settings.warn warn ∧
      bodyIn q = b.quotaBody limit warn ∧ (Integral (bodyIn q) ↔ SetsBoth m)) ∧
    ∀ q x q' x', Session.sent q x ∈ created.events → Session.sent q' x' ∈ changed.events →
      setsQuota q → setsQuota q' → ∃ m,
        Settings.mergeFor given plan service = .ok (.mapping m) ∧
        (bodyIn q = bodyIn q' ↔ SetsBoth m) := by
  intro created changed
  refine ⟨fun q x h hq => b.planChange_quota_body h hq, fun q x h hq => b.creation_quota_body h hq,
    fun q x q' x' h h' hq hq' => ?_⟩
  obtain ⟨m, limit, warn, hm, hlimit, hwarn, hbody, _⟩ := b.creation_quota_body h hq
  obtain ⟨m₁, i, j, hm₁, hi, hj, hbody', _⟩ := b.planChange_quota_body h' hq'
  cases hm.symm.trans (hsame.trans hm₁)
  refine ⟨m, hm, ?_⟩
  rw [hbody, hbody', quotaBody_inj, hlimit.eq_iff hi, hwarn.eq_iff hj]
  rfl

/-! ## 5. Quotas with and without a warning -/

/-- Whether an event sends a quota with a given entry. -/
def sendsQuota (entryIs : Value → Bool) (e : Dialogue.Event Wire) : Bool :=
  match e with
  | ⟨.http q, _⟩ => setsQuota q && entryIs (bodyIn q)
  | _ => false

theorem sent_of_any {es : List (Dialogue.Event Wire)} {p : Value → Bool}
    (h : es.any (sendsQuota p)) :
    ∃ q x, Session.sent q x ∈ es ∧ setsQuota q ∧ p (bodyIn q) := by
  obtain ⟨⟨_ | _, a⟩, he, hp⟩ := List.any_eq_true.1 h
  · obtain ⟨hq, hbody⟩ := Bool.and_eq_true_iff.1 hp
    exact ⟨_, a, he, hq, hbody⟩
  all_goals cases hp

/-- A bucket with a quota that was asked for, on a storage without the bucket. -/
def creatingWith (quota : Mapping) : Dialogue.Outcome Wire Rehearsal.State
    ((Except Fault Value × State) × Session) :=
  Dialogue.run Rehearsal.world (Session.carryOut
    ((bare.createBucket (.text "b") unlimited unforced
      (.mapping [(.text "quota", .mapping quota)])).run discovering)
    (Session.expired.withToken none)) withoutB

/-- The bucket is changed to a plan, in a world that accepts everything. -/
def changingTo (plan : Plan) (parameters : Value) : Dialogue.Outcome Wire Rehearsal.State
    ((Except Fault Value × State) × Session) :=
  Dialogue.run Rehearsal.world (Session.carryOut
    ((bare.changeBucketPlan (.text "b") unlimited plan parameters).run discovering)
    (Session.expired.withToken none)) singleObject

/-- A quota with both sizes that is asked for first, and is forced by a plan later. -/
theorem quota_bodies_agree_iff_both :
    let quota : Mapping := [(.text "limit", .int 5), (.text "warn", .int 4)]
    let asked := Value.mapping [(.text "quota", .mapping quota)]
    Settings.mergeFor asked unforced unlimited = Settings.mergeFor .null limited unlimited ∧
    ∃ q x q' x', Session.sent q x ∈ (creatingWith quota).events ∧
      Session.sent q' x' ∈ (changingTo limited .null).events ∧ setsQuota q ∧ setsQuota q' ∧
      bodyIn q = bodyIn q' ∧ Integral (bodyIn q) := by
  intro quota asked
  have hmerge : Settings.mergeFor asked unforced unlimited = .ok (.mapping
      [(.text "quota", .mapping quota)]) := rfl
  have hsame : Settings.mergeFor asked unforced unlimited =
      Settings.mergeFor .null limited unlimited := rfl
  have hcreated : (creatingWith quota).events.any (sendsQuota fun _ => true) := by decide +kernel
  have hchanged : (changingTo limited .null).events.any (sendsQuota fun _ => true) := by
    decide +kernel
  obtain ⟨q, x, h, hq, _⟩ := sent_of_any hcreated
  obtain ⟨q', x', h', hq', _⟩ := sent_of_any hchanged
  obtain ⟨_, hgiven, hagree⟩ := bare.quota_bodies_agree_iff (.text "b") (.text "b") hsame
    Rehearsal.world Rehearsal.world withoutB singleObject (Session.expired.withToken none)
    (Session.expired.withToken none) discovering discovering
  obtain ⟨m, hm, hiff⟩ := hagree q x q' x' h h' hq hq'
  cases hmerge.symm.trans hm
  have hboth : SetsBoth [(.text "quota", .mapping quota)] :=
    ⟨by decide +kernel, by decide +kernel⟩
  obtain ⟨m, _, _, hm, _, _, _, hintegral⟩ := hgiven q x h hq
  cases hmerge.symm.trans hm
  exact ⟨hsame, q, x, q', x', h, h', hq, hq', hiff.2 hboth, hintegral.2 hboth⟩

/-- **A quota without a warning is told in two ways**: a creation sends no integer for the warning,
a change to the same parameters sends two integers. -/
theorem created_quota_not_integral :
    let quota : Mapping := [(.text "limit", .int 5)]
    (∃ q x, Session.sent q x ∈ (creatingWith quota).events ∧ setsQuota q ∧ ¬ Integral (bodyIn q)) ∧
    ∃ q x, Session.sent q x ∈
        (changingTo unforced (.mapping [(.text "quota", .mapping quota)])).events ∧
      setsQuota q ∧ Integral (bodyIn q) := by
  intro quota
  have hcreated : (creatingWith quota).events.any (sendsQuota fun body =>
      (entry body "notificationSize").any Value.isNull) := by decide +kernel
  have hchanged : (changingTo unforced (.mapping [(.text "quota", .mapping quota)])).events.any
      (sendsQuota fun _ => true) := by decide +kernel
  obtain ⟨q, x, h, hq, hnull⟩ := sent_of_any hcreated
  obtain ⟨q', x', h', hq', _⟩ := sent_of_any hchanged
  obtain ⟨_, _, _, _, _, _, _, hintegral⟩ := bare.planChange_quota_body h' hq'
  refine ⟨⟨q, x, h, hq, ?_⟩, q', x', h', hq', hintegral⟩
  rintro ⟨_, j, _, hj⟩
  rw [hj] at hnull
  cases hnull

end StorageBroker.Broker
