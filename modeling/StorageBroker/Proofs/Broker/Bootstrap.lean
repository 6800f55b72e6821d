import StorageBroker.Proofs.Broker.Isolation
import StorageBroker.Proofs.Broker.Readiness
import StorageBroker.Proofs.Session.Acceptance
/-!
# The repository of a broker

A start makes sure that the bucket of the broker's repository exists, and a user with access to it.
The user is let into the bucket right behind its creation, and only there: a start that finds the
user asks for its secret and leaves the access list of the bucket alone.

* `Grants` -- bodies that grant a user full control, and `grants_of_withEntry`, why a grant writes
  one;
* `prepareRepository_cases` -- the user is let in, or it was there and none is created;
* `Found`, `Created`, `Granted` -- the same as it is seen on the wire;
* `starts_grant` -- what starts in a row come to, whichever of them fail.
-/

namespace StorageBroker.Broker

open Management

/-! ## 1. Grants -/

/-- **The body of an access list that grants a user full control.** -/
def Grants (user body : Value) : Prop :=
  ∃ acl entries entry permissions, Record.entry body "acl" = some acl ∧
    Record.entry acl "user_acl" = some (.list entries) ∧ entry ∈ entries ∧
    Record.entry entry "user" = some user ∧
    Record.entry entry "permission" = some (.list permissions) ∧
    .text Record.fullControl ∈ permissions

/-- The data of a list has the data of each of its records. -/
theorem mem_allData {v : Value} {vs ws : List Value} (h : Record.allData vs = .ok ws)
    (hv : v ∈ vs) : ∃ w ∈ ws, Record.dataOf v = .ok w := by
  induction vs generalizing ws with
  | nil => cases hv
  | cons first rest ih =>
    rw [Record.allData, bind_eq_ok] at h
    obtain ⟨w, hw, h⟩ := h
    obtain ⟨ws', hws', h⟩ := bind_eq_ok.1 h
    obtain rfl := pure_eq_ok.1 h
    rcases List.mem_cons.1 hv with rfl | hv
    · exact ⟨w, List.mem_cons_self, hw⟩
    · obtain ⟨w', hw', hdata⟩ := ih hws' hv
      exact ⟨w', List.mem_cons_of_mem _ hw', hdata⟩

/-- What is joined of two values is set. -/
theorem isNull_of_joined {v w x : Value} (h : v.joined w = .ok x) : x.isNull = false := by
  unfold Value.joined at h
  split at h
  case h_5 =>
    split at h
    next =>
      split at h
      next n _ =>
        cases h
        cases n <;> rfl
      next => cases h
    next => cases h
  all_goals
    cases h
    rfl

/-- **A list with one more entry is written with the grant of that entry**, whatever else it
holds. -/
theorem grants_of_withEntry {doc user body : Value} {acl acl' entry : Record}
    (hacl : Record.ofAclData doc = .ok acl)
    (hentry : Record.userAcl user (permissionsOr .null) = .ok entry)
    (hadded : withEntry acl entry = .ok acl') (hbody : bodyOf acl'.toValue = .ok body)
    (huser : user.isNull = false) : Grants user body := by
  have hrecord : entry = ⟨.userAcl, [user, .list [.text Record.fullControl]]⟩ :=
    (Except.ok.inj hentry).symm
  subst hrecord
  simp only [Record.ofAclData, bind_eq_ok, pure_eq_ok] at hacl
  obtain ⟨_, _, bucket, _, ns, _, _, _, _, _, users, _, groups, _, customGroups, _, rfl⟩ := hacl
  have hlist : acl' = ⟨.bucketAcl, [bucket, ns, .list (users.map Record.toValue ++
      [Record.toValue ⟨.userAcl, [user, .list [.text Record.fullControl]]⟩]),
      Record.listOr groups, Record.listOr customGroups]⟩ := (Except.ok.inj hadded).symm
  subst hlist
  obtain ⟨entries, hentries, h⟩ := bind_eq_ok.1
    ((Record.toData_bucketAcl _ _ _ _ _).symm.trans hbody)
  obtain rfl := pure_eq_ok.1 h
  obtain ⟨w, hw, hdata⟩ :=
    mem_allData hentries (List.mem_append_right _ (List.mem_singleton_self _))
  have hw' : w = Record.plainData ⟨.userAcl, [user, .list [.text Record.fullControl]]⟩ := by
    have hsimple : Record.toData ⟨.userAcl, [user, .list [.text Record.fullControl]]⟩ = .ok _ :=
      Record.toData_of_ne_bucketAcl (by show RecordKind.userAcl ≠ .bucketAcl; decide)
    exact Except.ok.inj (hdata.symm.trans hsimple)
  subst hw'
  refine ⟨_, entries, _, [.text Record.fullControl], Record.entry_ofNamed,
    Record.entry_ofNamed, hw, ?_, ?_, List.mem_singleton_self _⟩
  · rw [Record.entry_plainData]
    show Option.filter _ (some user) = _
    rw [Option.filter_some, huser]
    rfl
  · rw [Record.entry_plainData]
    rfl

variable {b : Broker} {s s' : State} {es : List (Dialogue.Event Remote)}

/-- **A user that has been let in** was let in by a call that wrote the access list with its
grant. -/
theorem granted_of_addUser {bucketId userId : Value}
    (h : (b.addUser bucketId userId .null).Course s es (.ok ()) s') :
    ∃ name user p body a, b.nameOf bucketId = .ok name ∧ b.nameOf userId = .ok user ∧
      Bucket.acl.fill [name] = .ok p ∧ Grants user body ∧
      called { method := "PUT", path := .text p, body := body } (.ok a) ∈ es := by
  obtain ⟨r, hadd, hr⟩ := Action.course_mapFault.1 h
  obtain rfl := mapError_eq_ok.1 hr.symm
  rw [Action.course_lift_malformed_bind_ok] at hadd
  obtain ⟨name, hname, hadd⟩ := hadd
  rw [Action.course_lift_malformed_bind_ok] at hadd
  obtain ⟨user, huser, hadd⟩ := hadd
  rw [Action.course_bind_ok] at hadd
  obtain ⟨es₁, acl, s₁, es₂, hacl, hadd, rfl⟩ := hadd
  rw [Action.course_lift_malformed_bind_ok] at hadd
  obtain ⟨entry, hentry, hadd⟩ := hadd
  rw [Action.course_lift_malformed_bind_ok] at hadd
  obtain ⟨acl', hadded, hadd⟩ := hadd
  rw [Action.course_bind_ok] at hadd
  obtain ⟨es₃, _, s₂, es₄, hupdate, _, rfl⟩ := hadd
  -- The list that was read is one, so what is written is that list with the grant behind it.
  have hread : ∃ doc, Record.ofAclData doc = .ok acl := by
    obtain ⟨m, _, _, hm, _⟩ | ⟨p, _, hget⟩ := course_path_bind.1 hacl
    · cases hm
    · obtain ⟨_, doc, _, _, _, hget, _⟩ := Action.course_bind_ok.1 hget
      obtain ⟨_, hdoc, _⟩ := Action.course_lift_malformed.1 hget
      exact ⟨doc, mapError_eq_ok.1 hdoc.symm⟩
  obtain ⟨doc, hdoc⟩ := hread
  obtain ⟨_, ⟨_, m, hm⟩ | ⟨c, a, ⟨p, body, hp, hbody, rfl⟩, rfl, ha⟩⟩ :=
    Bucket.makes_updateAcl _ _ _ _ hupdate
  · cases hm
  cases a with
  | error f => cases ha
  | ok a =>
    refine ⟨name, user, p, body, a, hname, huser, hp, ?_, ?_⟩
    · exact grants_of_withEntry hdoc hentry hadded hbody (isNull_of_joined huser)
    · exact List.mem_append_right _ (List.mem_append_left _ (List.mem_singleton_self _))

/-! ## 2. Calls that create no user -/

/-- What a repository consists of. -/
inductive Part where
  | bucket
  | user

namespace Part

/-- The setting with the id of a part. -/
def setting : Part → Setting
  | .bucket => .repositoryBucket
  | .user => .repositoryUser

/-- The path under which a part is looked for. -/
def info : Part → Text.Template
  | .bucket => Bucket.info
  | .user => User.info

/-- The path at which such parts are created. -/
def path : Part → Value
  | .bucket => .text "/object/bucket"
  | .user => .text "/object/users"

/-- What names a part in the body that creates it. -/
def field : Part → Text
  | .bucket => "name"
  | .user => "user"

end Part

/-- **A call that creates no user.** -/
def SparesUsers (c : Call) : Prop := c.method ≠ "POST" ∨ c.path ≠ Part.user.path

theorem asks_filled_sparesUsers {α : Type} {R : Except Fault Response → Except Fault α → Prop}
    {t : Text.Template} {args : List Value} {k : Value → Call} {m : Text} {x : Operation α}
    (h : Makes (Filled t args k) R x) (hk : ∀ p, (k p).method = .text m) (hm : m ≠ "POST") :
    Asks SparesUsers x := by
  refine h.asks.mono fun c hc => .inl ?_
  obtain ⟨p, _, rfl⟩ := hc
  rw [hk]
  exact fun heq => hm (Value.text.inj heq)

variable (b)

/-- **A call that lays out a bucket**: it looks for the bucket, creates it, or sets its quota or its
retention. -/
inductive LaysOut (ns name : Value) : Call → Prop where
  | probe {p : String} (hp : Bucket.info.fill [name] = .ok p) :
      LaysOut ns name { path := .text p, params := Bucket.inNamespace ns }
  | creation {body : Value} :
      LaysOut ns name { method := "POST", path := Part.bucket.path, body := body }
  | setting {t : Text.Template} {p : String} {body : Value}
      (ht : t = Bucket.quota ∨ t = Bucket.retention) (hp : t.fill [name] = .ok p) :
      LaysOut ns name { method := "PUT", path := .text p, body := body }

theorem LaysOut.sparesUsers {ns name : Value} {c : Call} (h : LaysOut ns name c) :
    SparesUsers c := by
  cases h with
  | probe _ => exact .inl fun heq => absurd (Value.text.inj heq) (by decide)
  | creation => exact .inr fun heq => absurd (Value.text.inj heq) (by decide)
  | setting _ _ => exact .inl fun heq => absurd (Value.text.inj heq) (by decide)

/-- The calls that lay out the bucket of an id. -/
def LaysOutId (id : Value) (c : Call) : Prop :=
  ∃ name, b.nameOf id = .ok name ∧ LaysOut b.home name c

theorem asks_bucketExists {id : Value} : Asks (b.LaysOutId id) (b.bucketExists id) := by
  refine .mapFault <| .lift_bind fun name hname => Bucket.makes_exist.asks.mono ?_
  rintro c ⟨p, hp, rfl⟩
  exact ⟨name, hname, .probe hp⟩

/-- **Creating a bucket lays it out**, and does nothing else. -/
theorem asks_createBucket {id parameters : Value} {service : ServiceDefinition} {plan : Plan} :
    Asks (b.LaysOutId id) (b.createBucket id service plan parameters) := by
  refine asks_note.bind fun _ => .mapFault <| .lift_bind fun name hname => ?_
  have hquota (v : Value) : Asks (b.LaysOutId id) (b.applyBucketQuota name v) := by
    refine .lift_bind fun quota _ => ?_
    split
    · refine .lift_bind fun _ _ => .lift_bind fun _ _ => Bucket.makes_createQuota.asks.mono ?_
      rintro c ⟨p, hp, rfl⟩
      exact ⟨name, hname, .setting (.inl rfl) hp⟩
    · exact asks_pure
  have hretention (v : Value) : Asks (b.LaysOutId id) (b.applyBucketRetention name v) := by
    refine .lift_bind fun period _ => ?_
    split
    · refine Bucket.makes_updateRetention.asks.mono ?_
      rintro c ⟨p, hp, rfl⟩
      exact ⟨name, hname, .setting (.inr rfl) hp⟩
    · exact asks_pure
  refine b.asks_bucketExists.bind fun there => ?_
  dsimp only
  split
  · exact asks_throw_bind
  refine asks_effective.bind fun effective => asks_checkPolicy.bind fun _ => ?_
  refine asks_discovered.bind fun d => .lift_bind fun record _ => ?_
  have hcreate : Asks (b.LaysOutId id) (Bucket.create record.toValue : Operation Unit) := by
    refine Bucket.makes_create.asks.mono ?_
    rintro c ⟨body, _, rfl⟩
    exact ⟨name, hname, .creation⟩
  exact hcreate.bind fun _ => (hquota _).bind fun _ => (hretention _).bind fun _ => asks_pure

theorem asks_prepareRepositoryBucket :
    Asks (b.LaysOutId (b.config.value .repositoryBucket)) b.prepareRepositoryBucket := by
  refine b.asks_bucketExists.bind fun there => ?_
  split
  · refine Asks.bind (asks_of_nil fun _ _ _ _ h => (Action.course_lift.1 h).1) fun offer => ?_
    exact b.asks_createBucket.bind fun _ => asks_pure
  · exact asks_pure

theorem asks_prepareRepositoryBucket_sparesUsers : Asks SparesUsers b.prepareRepositoryBucket :=
  b.asks_prepareRepositoryBucket.mono fun _ ⟨_, _, h⟩ => h.sparesUsers

theorem asks_secretOf_sparesUsers {id : Value} : Asks SparesUsers (b.secretOf id) := by
  refine .lift_bind fun user _ => Asks.bind ?_ fun keys => ?_
  · exact asks_filled_sparesUsers (m := "GET") User.makes_listSecrets (fun _ => rfl) (by decide)
  · split
    · exact asks_pure
    · exact asks_throw

/-- A call that reads what belongs to no namespace. -/
def IsLookup (c : Call) : Prop := c.method = "GET" ∧ c.params = []

/-- **A discovery only looks things up.** -/
theorem asks_discover {config : Configuration} :
    Asks IsLookup (Discovery.discover config : Operation Discovery) := by
  have hlift {α : Type} {x : Except Fault α} : Asks IsLookup (liftM x : Operation α) :=
    asks_of_nil fun _ _ _ _ h => (Action.course_lift.1 h).1
  have hendpoint : Asks IsLookup
      (Discovery.findObjectEndpoint config : Operation (Value × Value)) := by
    unfold Discovery.findObjectEndpoint
    dsimp only
    split
    · exact asks_pure
    refine (BaseUrl.makes_list.asks.mono fun c hc => hc ▸ ⟨rfl, rfl⟩).bind fun urls => ?_
    cases urls with
    | nil => exact asks_throw
    | cons first rest =>
      refine hlift.bind fun url => Asks.bind (BaseUrl.makes_get.asks.mono ?_) fun info => asks_pure
      rintro c ⟨p, _, rfl⟩
      exact ⟨rfl, rfl⟩
  have hgroup : Asks IsLookup (Discovery.findReplicationGroup config : Operation Value) := by
    refine (ReplicationGroup.makes_list.asks.mono fun c hc => hc ▸ ⟨rfl, rfl⟩).bind
      fun groups => ?_
    split
    · exact asks_pure
    · exact asks_throw
  exact hendpoint.bind fun found => hgroup.bind fun group => hlift.bind fun policy => asks_pure

theorem asks_discover_sparesUsers {config : Configuration} :
    Asks SparesUsers (Discovery.discover config : Operation Discovery) := by
  refine asks_discover.mono fun c hc => .inl ?_
  rw [hc.1]
  exact fun heq => absurd (Value.text.inj heq) (by decide)

/-- Events among which no call creates a user. -/
def Spared (es : List (Dialogue.Event Remote)) : Prop := ∀ c a, called c a ∈ es → SparesUsers c

theorem Spared.append {es' : List (Dialogue.Event Remote)} (h : Spared es) (h' : Spared es') :
    Spared (es ++ es') :=
  fun c a hc => (List.mem_append.1 hc).elim (h c a) (h' c a)

theorem spared_of_asks {α : Type} {x : Operation α} {r : Except Fault α} (hx : Asks SparesUsers x)
    (h : x.Course s es r s') : Spared es := by
  intro c a hc
  obtain ⟨c', a', heq, hspares⟩ := hx _ _ _ _ h _ hc
  cases heq
  exact hspares

/-- **An operation that creates no user**, whatever else it asks for. -/
def Sparing {α : Type} (x : Operation α) : Prop := ∀ s es r s', x.Course s es r s' → Spared es

theorem sparing_of_asks {α : Type} {x : Operation α} (hx : Asks SparesUsers x) : Sparing x :=
  fun _ _ _ _ h => spared_of_asks hx h

theorem Sparing.bind {α β : Type} {x : Operation β} {f : β → Operation α} (hx : Sparing x)
    (hf : ∀ b, Sparing (f b)) : Sparing (x >>= f) := by
  intro s es r s' h
  obtain ⟨_, hfirst, _⟩ | ⟨es₁, b, s₁, es₂, hfirst, hnext, rfl⟩ := Action.course_bind.1 h
  · exact hx _ _ _ _ hfirst
  · exact (hx _ _ _ _ hfirst).append (hf b _ _ _ _ hnext)

theorem Sparing.lift_bind {α β : Type} {x : Except Malformed β} {f : β → Operation α}
    (hf : ∀ b, Sparing (f b)) : Sparing (liftM x >>= f) :=
  (sparing_of_asks (asks_of_nil fun _ _ _ _ h => (Action.course_lift_malformed.1 h).1)).bind hf

theorem Sparing.get_bind {α : Type} {f : State → Operation α} (hf : ∀ s, Sparing (f s)) :
    Sparing (get >>= f) := fun s _ _ _ h => hf s _ _ _ _ (Action.course_get_bind.1 h)

theorem Sparing.mapFault {α : Type} {x : Operation α} {g : Fault → Fault} (hx : Sparing x) :
    Sparing (x.mapFault g) := by
  intro s es r s' h
  obtain ⟨_, hinner, _⟩ := Action.course_mapFault.1 h
  exact hx _ _ _ _ hinner

/-- What is asked of the object storage is no call. -/
theorem sparing_askStorage {q : Storage.Question} :
    Sparing (Action.perform (Remote.askStorage q) : Operation q.Answer) := by
  intro s es r s' h c a hc
  obtain ⟨x, hask, _⟩ := Action.course_perform.1 h
  obtain rfl := Remote.course_askStorage.1 hask
  cases List.mem_singleton.1 hc

/-- The tool for wiping is prepared without a call. -/
theorem sparing_prepareWipe : Sparing b.prepareWipe := by
  refine .get_bind fun s => ?_
  split
  · exact sparing_of_asks asks_throw
  · refine .lift_bind fun user => Sparing.bind (.mapFault ?_) fun _ => sparing_of_asks asks_modify
    refine sparing_askStorage.bind fun answer => ?_
    cases answer with
    | ok => exact sparing_of_asks asks_pure
    | error f => exact sparing_of_asks asks_throw

variable {b}

/-! ## 3. Preparing the repository -/

/-- A user that exists was found by a call. -/
theorem found_of_userExists {id : Value} (h : (b.userExists id).Course s es (.ok true) s') :
    ∃ user p a, b.nameOf id = .ok user ∧ User.info.fill [user] = .ok p ∧
      called { path := .text p, params := [(.text "namespace", b.home)] } (.ok a) ∈ es := by
  obtain ⟨r, hexist, hr⟩ := Action.course_mapFault.1 h
  obtain rfl := mapError_eq_ok.1 hr.symm
  rw [Action.course_lift_malformed_bind_ok] at hexist
  obtain ⟨user, huser, hexist⟩ := hexist
  obtain ⟨_, ⟨_, m, hm⟩ | ⟨c, a, ⟨p, hp, rfl⟩, rfl, ha⟩⟩ := User.makes_exist _ _ _ _ hexist
  · cases hm
  · obtain ⟨x, rfl, _⟩ | ⟨_, _, _, hfalse⟩ | ⟨_, _, _, herror⟩ := ha
    · exact ⟨user, p, x, huser, hp, List.mem_singleton_self _⟩
    · cases hfalse
    · cases herror

/-- **A repository that is prepared has let its user in, or the user was there**, and then none is
created. -/
theorem prepareRepository_cases {secret : Value}
    (h : b.prepareRepository.Course s es (.ok secret) s') :
    (∃ s₁ es₁ s₂, (b.addUser (b.config.value .repositoryBucket) (b.config.value .repositoryUser)
        .null).Course s₁ es₁ (.ok ()) s₂ ∧ ∀ e ∈ es₁, e ∈ es) ∨
      (∃ user p a, b.nameOf (b.config.value .repositoryUser) = .ok user ∧
        User.info.fill [user] = .ok p ∧
        called { path := .text p, params := [(.text "namespace", b.home)] } (.ok a) ∈ es) ∧
        Spared es := by
  rw [prepareRepository, Action.course_bind_ok] at h
  obtain ⟨es₁, _, s₁, es₂, hbucket, h, rfl⟩ := h
  rw [Action.course_bind_ok] at h
  obtain ⟨es₃, there, s₂, es₄, hexists, h, rfl⟩ := h
  cases there with
  | false =>
    obtain ⟨es₅, key, s₃, es₆, _, hrest, rfl⟩ := Action.course_bind_ok.1 h
    obtain ⟨es₇, _, s₄, es₈, hadd, _, rfl⟩ := Action.course_bind_ok.1 hrest
    refine .inl ⟨_, es₇, _, hadd, fun e he => ?_⟩
    simp only [List.mem_append]
    exact .inr (.inr (.inr (.inl he)))
  | true =>
    obtain ⟨user, p, a, huser, hp, hfound⟩ := found_of_userExists hexists
    refine .inr ⟨⟨user, p, a, huser, hp, ?_⟩, ?_⟩
    · exact List.mem_append_right _ (List.mem_append_left _ hfound)
    · have hprobe : Asks SparesUsers (b.userExists (b.config.value .repositoryUser)) :=
        .mapFault <| .lift_bind fun _ _ =>
          asks_filled_sparesUsers (m := "GET") User.makes_exist (fun _ => rfl) (by decide)
      exact (spared_of_asks b.asks_prepareRepositoryBucket_sparesUsers hbucket).append
        ((spared_of_asks hprobe hexists).append (spared_of_asks b.asks_secretOf_sparesUsers h))

/-! ## 4. One start -/

section Start

variable (b) (s : Session)

/-- The address of a resource of what the platform knows by an id. -/
def resourceAddress (t : Text.Template) (id : Value) : Except Malformed Text := do
  s.urlText (.text (← t.fill [← b.nameOf id]))

/-- **A part of the repository was found.** -/
def Found (k : Part) (e : Dialogue.Event Wire) : Prop :=
  ∃ body, Session.taken "GET" (b.resourceAddress s k.info (b.config.value k.setting)) e = some body

/-- **A part of the repository was created.** -/
def Created (k : Part) (e : Dialogue.Event Wire) : Prop :=
  ∃ name body, b.nameOf (b.config.value k.setting) = .ok name ∧
    Session.taken "POST" (s.urlText k.path) e = some body ∧ Record.entry body k.field = some name

/-- **The user of the repository was given full control of its bucket.** -/
def Granted (e : Dialogue.Event Wire) : Prop :=
  ∃ user body, b.nameOf (b.config.value .repositoryUser) = .ok user ∧
    Session.taken "PUT" (b.resourceAddress s Bucket.acl (b.config.value .repositoryBucket)) e =
      some body ∧ Grants user body

variable {b} {s}

theorem resourceAddress_eq {t : Text.Template} {id name : Value} {p : String}
    (hname : b.nameOf id = .ok name) (hp : t.fill [name] = .ok p) :
    b.resourceAddress s t id = s.urlText (.text p) := by
  rw [resourceAddress, hname]
  show (t.fill [name] >>= fun p => s.urlText (.text p)) = _
  rw [hp]
  rfl

variable {σ : Type} {w : Dialogue.World Wire σ}

/-- **A start that succeeds lets the user into the bucket, or it finds the user** and creates
none. -/
theorem launch_grants_or_finds {bs : State} {st : σ} {d : Discovery}
    (hok : (Deed.launch.account b w bs s st).result = .ok d) :
    (∃ e ∈ (Deed.launch.account b w bs s st).events, b.Granted s e) ∨
      (∃ e ∈ (Deed.launch.account b w bs s st).events, b.Found s .user e) ∧
        ∀ e ∈ (Deed.launch.account b w bs s st).events, ¬ b.Created s .user e := by
  have hcourse := course_of_run (b := b) (w := w) .launch bs s st
  obtain ⟨_, _, hstarted⟩ | ⟨⟨f, hf⟩, _⟩ := b.launch_cases hcourse
  · obtain ⟨d₀, secret, es₁, es₂, es₃, s₁, s₂, s₃, s₄, hdiscover, hrepository, hwipe, hes, _⟩ :=
      hstarted.steps
    have hmem : ∀ e ∈ es₂, e ∈ (Session.turns w ((Deed.launch.perform b).run bs) s st).map
        Dialogue.Turn.event := by
      intro e he
      rw [hes]
      exact List.mem_append_right _ (List.mem_append_left _ he)
    obtain ⟨_, es', _, hadd, hes'⟩ | ⟨⟨user, p, a, huser, hp, hfound⟩, hspared⟩ :=
      prepareRepository_cases hrepository
    · obtain ⟨name, user, p, body, a, hname, huser, hp, hgrants, hcalled⟩ :=
        granted_of_addUser hadd
      obtain ⟨e, he, htaken⟩ := (Session.accepted_of_turns w _ s st
        (hmem _ (hes' _ hcalled))).taken rfl rfl
      refine .inl ⟨e, he, user, body, huser, ?_, hgrants⟩
      rw [resourceAddress_eq hname hp]
      exact htaken
    · obtain ⟨e, he, htaken⟩ := (Session.accepted_of_turns w _ s st (hmem _ hfound)).taken rfl rfl
      have haddress : b.resourceAddress s Part.user.info (b.config.value Part.user.setting) =
          s.urlText (.text p) := resourceAddress_eq huser hp
      refine .inr ⟨⟨e, he, .null, ?_⟩, ?_⟩
      · rw [haddress]
        exact htaken
      -- Neither the discovery nor what follows the repository creates a user.
      · have hall : Spared (es₁ ++ (es₂ ++ es₃)) :=
          (spared_of_asks asks_discover_sparesUsers hdiscover).append
            (hspared.append (b.sparing_prepareWipe _ _ _ _ hwipe))
        rintro e he ⟨_, body, _, htaken, _⟩
        obtain ⟨c, a, hturn, hrequest⟩ | ⟨q, a, _, rfl⟩ := Session.event_of_turns w _ s st he
        · obtain ⟨hmethod, u, hu, hu'⟩ := hrequest.of_taken htaken
          rw [hes] at hturn
          obtain hmethod' | hpath := hall c a hturn
          · exact hmethod' hmethod
          · exact hpath (Session.urlText_inj hu hu')
        · cases htaken
  · rw [hf] at hok
    cases hok

end Start

/-! ## 5. Starts in a row -/

/-- What was sent by deeds, one after the other. -/
def sentIn (as : List Account) : Session.Events := as.flatMap Account.events

/-- **What is found was created before**: a server that has nothing to begin with answers so. -/
def FoundBehind (found created : Dialogue.Event Wire → Prop) (es : Session.Events) : Prop :=
  ∀ before e after, es = before ++ e :: after → found e → ∃ e' ∈ before, created e'

/-- What is created in a first part and found in a second one only is found behind it. -/
theorem foundBehind_append {found created : Dialogue.Event Wire → Prop} {es₁ es₂ : Session.Events}
    (hfound : ∀ e ∈ es₁, ¬ found e) (hcreated : ∃ e ∈ es₁, created e) :
    FoundBehind found created (es₁ ++ es₂) := by
  obtain ⟨e', he', hcreated⟩ := hcreated
  intro before e after h he
  obtain ⟨rest, rfl, _⟩ | ⟨rest, rfl, hrest⟩ := List.append_eq_append_iff.1 h
  · exact ⟨e', List.mem_append_left _ he', hcreated⟩
  · cases rest with
    | nil => exact ⟨e', by simpa using he', hcreated⟩
    | cons first rest =>
      obtain ⟨rfl, _⟩ := List.cons.inj hrest
      exact absurd he (hfound e (List.mem_append_right _ List.mem_cons_self))

section Starts

variable (b) (s : Session)

/-- **A start that was cut off** between the creation of the user and its grant. -/
def CutOff (a : Account) : Prop :=
  a.result.isOk = false ∧ (∃ e ∈ a.events, b.Created s .user e) ∧ ∀ e ∈ a.events, ¬ b.Granted s e

variable {b} {s} {σ : Type} {w : Dialogue.World Wire σ}

/-- **A start of a row that succeeds** grants access, or finds a user that it has not created. -/
theorem start_grants_or_finds {n : Nat} {bs : State} {st : σ} {as : List Account} {a : Account}
    (h : b.life w (List.replicate n .launch) bs s st = as) (ha : a ∈ as) (hok : a.result.isOk) :
    (∃ e ∈ a.events, b.Granted s e) ∨
      (∃ e ∈ a.events, b.Found s .user e) ∧ ∀ e ∈ a.events, ¬ b.Created s .user e := by
  have hdeed : a.deed = .launch := by
    have hmem := List.mem_map_of_mem (f := Account.deed) ha
    rw [← h, deeds_life] at hmem
    exact List.eq_of_mem_replicate hmem
  obtain ⟨before, after, has⟩ := List.append_of_mem ha
  obtain ⟨bs', s', st', haccount, ⟨⟨t, rfl⟩, _⟩, _⟩ := life_split (h.trans has)
  rw [hdeed] at haccount
  subst haccount
  cases hresult : (Deed.launch.account b w bs' (s.withToken t) st').result with
  | ok d => exact launch_grants_or_finds hresult
  | error f =>
    rw [hresult] at hok
    cases hok

/-- **Behind starts of which the last one succeeded the user has access to the repository**, if none
of them was cut off between its creation and its grant: a start that fails elsewhere is made good by
the ones behind it. -/
theorem starts_grant {n : Nat} {bs : State} {st : σ} {before : List Account} {a : Account}
    (h : b.life w (List.replicate n .launch) bs s st = before ++ [a]) (hok : a.result.isOk)
    (hserver : FoundBehind (b.Found s .user) (b.Created s .user) (sentIn (before ++ [a])))
    (hwhole : ∀ a' ∈ before, ¬ b.CutOff s a') :
    ∃ e ∈ sentIn (before ++ [a]), b.Granted s e := by
  by_contra hnone
  have hnot : ∀ a' ∈ before ++ [a], ¬ ∃ e ∈ a'.events, b.Granted s e := by
    rintro a' ha' ⟨e, he, hgranted⟩
    exact hnone ⟨e, List.mem_flatMap.2 ⟨a', ha', he⟩, hgranted⟩
  have hlast : a ∈ before ++ [a] := List.mem_append_right _ (List.mem_singleton_self _)
  obtain ⟨⟨e, he, hfound⟩, hspared⟩ := (start_grants_or_finds h hlast hok).resolve_left (hnot a hlast)
  obtain ⟨es, es', hes⟩ := List.append_of_mem he
  obtain ⟨e', he', hcreated⟩ := hserver (sentIn before ++ es) e es' (by
    rw [sentIn, List.flatMap_append, List.flatMap_singleton, hes, sentIn, List.append_assoc]) hfound
  -- The user was created by an earlier start, and that one was not cut off.
  rcases List.mem_append.1 he' with he' | he'
  · obtain ⟨a', ha', he'⟩ := List.mem_flatMap.1 he'
    have hmem : a' ∈ before ++ [a] := List.mem_append_left _ ha'
    cases hok' : a'.result.isOk with
    | true =>
      have hfinds := (start_grants_or_finds h hmem hok').resolve_left (hnot a' hmem)
      exact hfinds.2 e' he' hcreated
    | false =>
      exact hwhole a' ha' ⟨hok', ⟨e', he', hcreated⟩, fun e he hg => hnot a' hmem ⟨e, he, hg⟩⟩
  · exact hspared e' (hes ▸ List.mem_append_left _ he') hcreated

end Starts

/-- Whether nothing of a method to an address was accepted. -/
def untaken (method : Text) (address : Except Malformed Text) (es : Session.Events) : Bool :=
  es.all fun e => (Session.taken method address e).isNone

theorem taken_ne_of_untaken {method : Text} {address : Except Malformed Text}
    {es : Session.Events} (h : untaken method address es) {e : Dialogue.Event Wire} (he : e ∈ es)
    (body : Value) : Session.taken method address e ≠ some body := by
  intro htaken
  have hnone := List.all_eq_true.1 h e he
  rw [htaken] at hnone
  cases hnone

/-- Whether a body has a text for a field. -/
def isNamed (field name : Text) (body : Value) : Bool :=
  match Record.entry body field with
  | some (.text t) => t == name
  | _ => false

/-- Whether a part of a name was created. -/
def makes (s : Session) (k : Part) (name : Text) (es : Session.Events) : Bool :=
  es.any fun e => (Session.taken "POST" (s.urlText k.path) e).any (isNamed k.field name)

theorem created_of_makes {s : Session} {k : Part} {name : Text} {es : Session.Events}
    (hname : b.nameOf (b.config.value k.setting) = .ok (.text name)) (h : makes s k name es) :
    ∃ e ∈ es, b.Created s k e := by
  obtain ⟨e, he, hany⟩ := List.any_eq_true.1 h
  obtain ⟨body, htaken, hnamed⟩ := (Option.any_eq_true _ _).1 hany
  refine ⟨e, he, .text name, body, hname, htaken, ?_⟩
  unfold isNamed at hnamed
  split at hnamed
  next t ht => rw [ht, eq_of_beq hnamed]
  next => cases hnamed

/-- A broker with an offer for its repository. -/
def founder : Broker where
  config := resident.config
  catalog := ⟨[⟨.text "svc", .text "service", .text "bucket", .null, [], true,
    [⟨.text "plan", .text "plan", .null, [], true⟩]⟩]⟩

def absence : Reply := Rehearsal.Server.plainResponse 404 ""

open Rehearsal (Route) in
/-- A management API without a repository, on which the bucket is there once it was created; routes
say whether the user is found, and what becomes of its creation and its grant. -/
def vacant (user creation grant : Route) : Rehearsal.State where
  server := ⟨[], 0, [],
    [("GET /vdc/data-service/vpools", .always groupListing),
      ("GET /object/bucket/ecs-cf-broker-repository/info",
        .inTurn absence [absence, emptyDocument]),
      ("GET /object/bucket/ecs-cf-broker-repository/acl", .always emptyList),
      ("PUT /object/bucket/ecs-cf-broker-repository/acl", grant),
      ("GET /object/users/ecs-cf-broker-user/info", user),
      ("POST /object/users", creation),
      ("GET /object/user-secret-keys/ecs-cf-broker-user", .always secretListing)],
    emptyDocument⟩
  depot := ⟨none, [], []⟩
  random := 0.5

open Rehearsal (Route) in
/-- Two starts in a row. -/
def twoStarts (user creation grant : Route) : List Account :=
  founder.life Rehearsal.world (List.replicate 2 .launch) .start (Session.expired.withToken none)
    (vacant user creation grant)

/-- A start that cannot create the user is made good by the next one. -/
theorem starts_grant_second :
    ∃ a₁ a₂, twoStarts (.inTurn absence [absence, emptyDocument])
        (.inTurn forbidden [emptyDocument]) (.always emptyDocument) = [a₁, a₂] ∧
      a₁.result.isOk = false ∧ a₂.result.isOk ∧
      ∃ e ∈ sentIn [a₁, a₂], founder.Granted (Session.expired.withToken none) e := by
  let s := Session.expired.withToken none
  obtain ⟨a₁, a₂, hlife, hfailed, hok, hunfound, huncreated⟩ :
      ∃ a₁ a₂, twoStarts (.inTurn absence [absence, emptyDocument])
          (.inTurn forbidden [emptyDocument]) (.always emptyDocument) = [a₁, a₂] ∧
        a₁.result.isOk = false ∧ a₂.result.isOk ∧
        untaken "GET" (founder.resourceAddress s Part.user.info (.text "user"))
          (sentIn [a₁, a₂]) ∧
        untaken "POST" (s.urlText Part.user.path) a₁.events := ⟨_, _, rfl, by decide +kernel⟩
  refine ⟨a₁, a₂, hlife, hfailed, hok, ?_⟩
  refine starts_grant (show _ = [a₁] ++ [a₂] from hlife) hok ?_ ?_
  · rintro before e after hes ⟨body, hfound⟩
    have he : e ∈ sentIn [a₁, a₂] := hes ▸ List.mem_append_right _ List.mem_cons_self
    exact absurd hfound (taken_ne_of_untaken hunfound he body)
  · rintro a ha ⟨_, ⟨e, he, _, body, _, hcreated, _⟩, _⟩
    obtain rfl := List.mem_singleton.1 ha
    exact taken_ne_of_untaken huncreated he body hcreated

/-- **A start can succeed without a grant**: where an earlier one was cut off behind the creation of
the user, although the management API had nothing before the starts and forgot nothing. -/
theorem started_without_grant :
    ∃ a₁ a₂, twoStarts (.inTurn absence [emptyDocument]) (.always emptyDocument)
        (.inTurn forbidden [emptyDocument]) = [a₁, a₂] ∧
      a₁.result.isOk = false ∧ a₂.result.isOk ∧
      (∀ k, FoundBehind (founder.Found (Session.expired.withToken none) k)
        (founder.Created (Session.expired.withToken none) k) (sentIn [a₁, a₂])) ∧
      ∀ e ∈ sentIn [a₁, a₂], ¬ founder.Granted (Session.expired.withToken none) e := by
  let s := Session.expired.withToken none
  obtain ⟨a₁, a₂, hlife, hfailed, hok, ⟨hbucket, hmade⟩, ⟨huser, hcreated⟩, hungranted⟩ :
      ∃ a₁ a₂, twoStarts (.inTurn absence [emptyDocument]) (.always emptyDocument)
          (.inTurn forbidden [emptyDocument]) = [a₁, a₂] ∧
        a₁.result.isOk = false ∧ a₂.result.isOk ∧
        (untaken "GET" (founder.resourceAddress s Part.bucket.info (.text "repository")) a₁.events ∧
          makes s .bucket "ecs-cf-broker-repository" a₁.events) ∧
        (untaken "GET" (founder.resourceAddress s Part.user.info (.text "user")) a₁.events ∧
          makes s .user "ecs-cf-broker-user" a₁.events) ∧
        untaken "PUT" (founder.resourceAddress s Bucket.acl (.text "repository"))
          (sentIn [a₁, a₂]) := ⟨_, _, rfl, by decide +kernel⟩
  refine ⟨a₁, a₂, hlife, hfailed, hok, fun k => ?_, ?_⟩
  · cases k with
    | bucket =>
      refine foundBehind_append ?_ (created_of_makes rfl hmade)
      rintro e he ⟨body, hfound⟩
      exact taken_ne_of_untaken hbucket he body hfound
    | user =>
      refine foundBehind_append ?_ (created_of_makes rfl hcreated)
      rintro e he ⟨body, hfound⟩
      exact taken_ne_of_untaken huser he body hfound
  · rintro e he ⟨_, body, _, hgranted, _⟩
    exact taken_ne_of_untaken hungranted he body hgranted

end StorageBroker.Broker
