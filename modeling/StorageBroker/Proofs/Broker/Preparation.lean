import StorageBroker.Proofs.Broker.Bootstrap
/-!
# How a repository is prepared

A start that succeeds looks for the bucket and for the user of the repository, once each before it
does anything about them, and creates what it has not found and nothing else. Whether it creates the
user or finds it, it lists the keys of the user last of all, and takes the secret from that listing.

* `ForBucket`, `ForUser`, `Prepared` -- the calls for the repository, by what they are for;
* `prepared_of_course`, `phased_of_started` -- every start that succeeds makes these calls, and
  nothing else but look-ups before and one client of the object storage behind them;
* `Purpose` -- so a call that creates something is for a part that was not found;
* `FirstLook`, `LastListed` -- which call comes first, and which one last.
-/

namespace StorageBroker.Broker

open Management

variable {b : Broker} {s s' : State} {es : List (Dialogue.Event Remote)}

/-! ## 1. Looking for the parts of the repository -/

/-- Whether a part of the repository exists. -/
def Part.existence (b : Broker) : Part → Operation Bool
  | .bucket => b.bucketExists (b.config.value .repositoryBucket)
  | .user => b.userExists (b.config.value .repositoryUser)

/-- **A call that looks for a part of the repository.** -/
def LooksFor (b : Broker) (k : Part) (c : Call) : Prop :=
  ∃ name p, b.nameOf (b.config.value k.setting) = .ok name ∧ k.info.fill [name] = .ok p ∧
    c = { path := .text p, params := Bucket.inNamespace b.home }

/-- The answer to a call that looks for something: it is there, or there is nothing. -/
inductive Tells : Bool → Except Fault Response → Prop where
  | found {a : Response} : Tells true (.ok a)
  | missing {f : Fault} (h : f.isAbsence) : Tells false (.error f)

theorem course_existence_ok {c : Call} {there : Bool}
    (h : (existence c : Operation Bool).Course s es (.ok there) s') :
    ∃ a, es = [called c a] ∧ Tells there a := by
  obtain ⟨a, rfl, ⟨x, rfl, hx⟩ | ⟨f, rfl, hf, hx⟩ | ⟨f, _, _, hx⟩, _⟩ := course_existence h
  · cases hx
    exact ⟨_, rfl, .found⟩
  · cases hx
    exact ⟨_, rfl, .missing hf⟩
  · cases hx

/-- Looking for a part is one call. -/
theorem course_partExistence {k : Part} {there : Bool}
    (h : (k.existence b).Course s es (.ok there) s') :
    ∃ c a, b.LooksFor k c ∧ es = [called c a] ∧ Tells there a := by
  have hreported : ∃ name, b.nameOf (b.config.value k.setting) = .ok name ∧
      (path k.info [name] >>= fun p =>
        existence { path := p, params := Bucket.inNamespace b.home } : Operation Bool).Course s es
          (.ok there) s' := by
    cases k with
    | bucket =>
      obtain ⟨r, h, hr⟩ := Action.course_mapFault.1 h
      obtain rfl := mapError_eq_ok.1 hr.symm
      exact Action.course_lift_malformed_bind_ok.1 h
    | user =>
      obtain ⟨r, h, hr⟩ := Action.course_mapFault.1 h
      obtain rfl := mapError_eq_ok.1 hr.symm
      exact Action.course_lift_malformed_bind_ok.1 h
  obtain ⟨name, hname, h⟩ := hreported
  obtain ⟨m, _, _, hm, _⟩ | ⟨p, hp, h⟩ := course_path_bind.1 h
  · cases hm
  · obtain ⟨a, rfl, ha⟩ := course_existence_ok h
    exact ⟨_, a, ⟨name, p, hname, hp, rfl⟩, rfl, ha⟩

/-! ## 2. The bucket -/

/-- **A bucket that is created** is created by a call that was accepted. -/
theorem created_of_createBucket {id parameters v : Value} {service : ServiceDefinition}
    {plan : Plan} (h : (b.createBucket id service plan parameters).Course s es (.ok v) s') :
    ∃ body a, called { method := "POST", path := Part.bucket.path, body := body } (.ok a) ∈ es := by
  rw [createBucket, note, Action.course_modify_bind, reporting] at h
  obtain ⟨r, hcreate, hr⟩ := Action.course_mapFault.1 h
  obtain rfl := mapError_eq_ok.1 hr.symm
  rw [Action.course_lift_malformed_bind_ok] at hcreate
  obtain ⟨name, _, hcreate⟩ := hcreate
  rw [Action.course_bind_ok] at hcreate
  obtain ⟨es₁, there, s₁, es₂, _, hcreate, rfl⟩ := hcreate
  cases there with
  | true =>
    obtain ⟨_, _, _, _, hthrow, _⟩ := Action.course_bind_ok.1 hcreate
    cases (Action.course_throw.1 hthrow).2.1
  | false =>
    dsimp only at hcreate
    rw [if_neg Bool.false_ne_true, Action.course_bind_ok] at hcreate
    obtain ⟨es₃, effective, s₂, es₄, _, hcreate, rfl⟩ := hcreate
    rw [Action.course_bind_ok] at hcreate
    obtain ⟨es₅, _, s₃, es₆, _, hcreate, rfl⟩ := hcreate
    rw [Action.course_bind_ok] at hcreate
    obtain ⟨es₇, d, s₄, es₈, _, hcreate, rfl⟩ := hcreate
    rw [Action.course_lift_malformed_bind_ok] at hcreate
    obtain ⟨record, _, hcreate⟩ := hcreate
    rw [Action.course_bind_ok] at hcreate
    obtain ⟨es₉, _, s₅, es₁₀, hcall, _, rfl⟩ := hcreate
    rw [Bucket.create, Action.course_lift_malformed_bind_ok] at hcall
    obtain ⟨body, _, hcall⟩ := hcall
    obtain ⟨a, rfl, ha, _⟩ := course_perform.1 hcall
    cases a with
    | error f => cases ha
    | ok a =>
      refine ⟨body, a, ?_⟩
      simp only [List.mem_append]
      exact .inr (.inr (.inr (.inr (.inl (List.mem_singleton_self _)))))

/-- What is done about the bucket: it was found, or it is laid out, and that creates it. -/
inductive ForBucket (b : Broker) : Bool → List (Dialogue.Event Remote) → Prop where
  | found : ForBucket b true []
  | created {es : List (Dialogue.Event Remote)}
      (hlaid : ∀ e ∈ es, ∃ c a, e = called c a ∧
        b.LaysOutId (b.config.value .repositoryBucket) c)
      (hcreated : ∃ body a,
        called { method := "POST", path := Part.bucket.path, body := body } (.ok a) ∈ es) :
      ForBucket b false es

theorem course_prepareRepositoryBucket_ok (h : b.prepareRepositoryBucket.Course s es (.ok ()) s') :
    ∃ there c a work, b.LooksFor .bucket c ∧ es = called c a :: work ∧ Tells there a ∧
      ForBucket b there work := by
  rw [prepareRepositoryBucket, Action.course_bind_ok] at h
  obtain ⟨es₁, there, s₁, es₂, hexists, h, rfl⟩ := h
  obtain ⟨c, a, hc, rfl, ha⟩ := course_partExistence (k := .bucket) hexists
  cases there with
  | true =>
    obtain ⟨rfl, _, _⟩ := Action.course_pure.1 h
    exact ⟨true, c, a, [], hc, rfl, ha, .found⟩
  | false =>
    rw [Bool.not_false, if_pos rfl, Action.course_bind_ok] at h
    obtain ⟨es₃, ⟨service, plan⟩, s₂, es₄, hoffer, h, rfl⟩ := h
    obtain ⟨rfl, _, _⟩ := Action.course_lift.1 hoffer
    dsimp only at h
    rw [Action.course_bind_ok] at h
    obtain ⟨es₅, _, s₃, es₆, hcreate, h, rfl⟩ := h
    obtain ⟨rfl, _, _⟩ := Action.course_pure.1 h
    rw [List.append_nil, List.nil_append]
    exact ⟨false, c, a, es₅, hc, rfl, ha, .created (b.asks_createBucket _ _ _ _ hcreate)
      (created_of_createBucket hcreate)⟩

/-! ## 3. The user -/

/-- **The secret in a listing of a user's keys**: the first one, or else the second. -/
def IsSecret (document secret : Value) : Prop :=
  ∃ m, document = .mapping m ∧ secret.truthy ∧
    let first := (Mapping.get m "secret_key_1").getD .null
    secret = if first.truthy then first else (Mapping.get m "secret_key_2").getD .null

/-- The first key of a listing holds its secret. -/
theorem isSecret_of_secretKeys {document : Value} {key : Record} {rest : List Record}
    (h : Record.secretKeys document = .ok (key :: rest)) :
    IsSecret document (key.field "secret_key") := by
  cases document with
  | mapping m =>
    obtain ⟨since, expiry, hfirst⟩ := @Record.secretKey?_mapping m "1"
    obtain ⟨since', expiry', hsecond⟩ := @Record.secretKey?_mapping m "2"
    rw [Record.secretKeys, hfirst, hsecond] at h
    have hkeys := Except.ok.inj h
    rw [show ("secret_key_" ++ "1" : Text) = "secret_key_1" by decide,
      show ("secret_key_" ++ "2" : Text) = "secret_key_2" by decide] at hkeys
    by_cases htruthy : ((Mapping.get m "secret_key_1").getD .null).truthy
    · rw [if_pos htruthy] at hkeys
      obtain ⟨rfl, _⟩ := List.cons.inj hkeys
      exact ⟨m, rfl, htruthy, (if_pos htruthy).symm⟩
    · rw [if_neg htruthy] at hkeys
      by_cases htruthy' : ((Mapping.get m "secret_key_2").getD .null).truthy
      · rw [if_pos htruthy'] at hkeys
        obtain ⟨rfl, _⟩ := List.cons.inj hkeys
        exact ⟨m, rfl, htruthy', (if_neg htruthy).symm⟩
      · rw [if_neg htruthy'] at hkeys
        cases hkeys
  | _ => cases h

/-- The call that lists the keys of a user. -/
def listing (p : Text) : Call := { path := .text p, parse := true }

theorem course_listSecrets_ok {user : Value} {keys : List Record}
    (h : (User.listSecrets user : Operation (List Record)).Course s es (.ok keys) s') :
    ∃ p a, User.secrets.fill [user] = .ok p ∧ es = [called (listing p) (.ok a)] ∧
      Record.secretKeys a.document = .ok keys := by
  rw [User.listSecrets] at h
  obtain ⟨m, _, _, hm, _⟩ | ⟨p, hp, h⟩ := course_path_bind.1 h
  · cases hm
  rw [Action.course_bind_ok] at h
  obtain ⟨es₁, document, s₁, es₂, hfetch, hread, rfl⟩ := h
  obtain ⟨a, rfl, hdocument, _⟩ := course_fetch.1 hfetch
  obtain ⟨rfl, hkeys, _⟩ := Action.course_lift_malformed.1 hread
  cases a with
  | error f => cases hdocument
  | ok a =>
    cases hdocument
    exact ⟨p, a, hp, rfl, mapError_eq_ok.1 hkeys.symm⟩

/-- A call for a part of a bucket that is no creation. -/
def IsBelowBucket (c : Call) : Prop :=
  ∃ name part p, (Bucket.resource part).fill [name] = .ok p ∧ c.path = .text p ∧ c.method ≠ "POST"

theorem asks_addUser_below {bucketId userId permissions : Value} :
    Asks IsBelowBucket (b.addUser bucketId userId permissions) := by
  have hget : (Value.text "GET") ≠ "POST" := fun h => absurd (Value.text.inj h) (by decide)
  have hput : (Value.text "PUT") ≠ "POST" := fun h => absurd (Value.text.inj h) (by decide)
  have henabled : Asks IsBelowBucket (b.bucketFileEnabled bucketId) := by
    refine .mapFault <| .lift_bind fun name _ =>
      (Bucket.makes_get.asks.mono ?_).bind fun _ => asks_pure
    rintro c ⟨p, hp, rfl⟩
    exact ⟨name, _, p, hp, rfl, hget⟩
  refine .mapFault <| .lift_bind fun name _ => .lift_bind fun user _ => ?_
  refine Asks.bind (Bucket.makes_getAcl.asks.mono ?_) fun acl => .lift_bind fun entry _ => ?_
  · rintro c ⟨p, hp, rfl⟩
    exact ⟨name, _, p, hp, rfl, hget⟩
  refine .lift_bind fun acl _ => Asks.bind (Bucket.makes_updateAcl.asks.mono ?_) fun _ => ?_
  · rintro c ⟨p, body, hp, _, rfl⟩
    exact ⟨name, _, p, hp, rfl, hput⟩
  refine henabled.bind fun enabled => ?_
  split
  · refine Bucket.makes_updatePolicy.asks.mono ?_
    rintro c ⟨p, body, hp, _, rfl⟩
    exact ⟨name, _, p, hp, rfl, hput⟩
  · exact asks_pure

/-- **What is done about the user**: its keys are listed, behind its creation and that of a key if
it was not found, and then it is let into the bucket. -/
inductive ForUser (b : Broker) (user : Value) (a : Response) :
    Bool → List (Dialogue.Event Remote) → Prop where
  | found {p : String} (hp : User.secrets.fill [user] = .ok p) :
      ForUser b user a true [called (listing p) (.ok a)]
  | created {p : String} {body : Value} {a₁ a₂ : Response} {es : List (Dialogue.Event Remote)}
      (hp : User.secrets.fill [user] = .ok p)
      (hbelow : ∀ e ∈ es, ∃ c x, e = called c x ∧ IsBelowBucket c)
      (hgrant : ∃ name q body x, b.nameOf (b.config.value .repositoryBucket) = .ok name ∧
        Bucket.acl.fill [name] = .ok q ∧
        called { method := "PUT", path := .text q, body := body } (.ok x) ∈ es) :
      ForUser b user a false
        (called { method := "POST", path := Part.user.path, body := body } (.ok a₁) ::
          called { method := "POST", path := .text p, body := .mapping [], parse := true }
            (.ok a₂) ::
          called (listing p) (.ok a) :: es)

/-- A user is created together with a key, and then its keys are listed. -/
theorem course_createUser_ok {id namespaceId : Value} {key : Record}
    (h : (b.createUser id namespaceId).Course s es (.ok key) s') :
    ∃ user p body a₁ a₂ a, b.nameOf id = .ok user ∧ User.secrets.fill [user] = .ok p ∧
      es = [called { method := "POST", path := Part.user.path, body := body } (.ok a₁),
        called { method := "POST", path := .text p, body := .mapping [], parse := true } (.ok a₂),
        called (listing p) (.ok a)] ∧
      IsSecret a.document (key.field "secret_key") := by
  rw [createUser, reporting] at h
  obtain ⟨r, hcreate, hr⟩ := Action.course_mapFault.1 h
  obtain rfl := mapError_eq_ok.1 hr.symm
  rw [Action.course_lift_malformed_bind_ok] at hcreate
  obtain ⟨ns, _, hcreate⟩ := hcreate
  rw [Action.course_lift_malformed_bind_ok] at hcreate
  obtain ⟨user, huser, hcreate⟩ := hcreate
  rw [Action.course_bind_ok] at hcreate
  obtain ⟨es₁, _, s₁, es₂, hfirst, hcreate, rfl⟩ := hcreate
  rw [Action.course_bind_ok] at hcreate
  obtain ⟨es₃, _, s₂, es₄, hsecret, hcreate, rfl⟩ := hcreate
  rw [Action.course_bind_ok] at hcreate
  obtain ⟨es₅, keys, s₃, es₆, hlist, hkey, rfl⟩ := hcreate
  obtain ⟨x₁, rfl, hx₁, _⟩ := course_perform.1 hfirst
  obtain ⟨p, a, hp, rfl, hkeys⟩ := course_listSecrets_ok hlist
  obtain ⟨rfl, hkey, _⟩ := Action.course_lift_malformed.1 hkey
  rw [User.createSecret] at hsecret
  obtain ⟨m, _, _, hm, _⟩ | ⟨p', hp', hsecret⟩ := course_path_bind.1 hsecret
  · cases hm
  rw [hp] at hp'
  cases hp'
  rw [Action.course_bind_ok] at hsecret
  obtain ⟨es₇, _, s₄, es₈, hfetch, hread, rfl⟩ := hsecret
  obtain ⟨x₂, rfl, hx₂, _⟩ := course_fetch.1 hfetch
  obtain ⟨rfl, _, _⟩ := Action.course_lift_malformed.1 hread
  cases x₁ with
  | error f => cases hx₁
  | ok a₁ =>
    cases x₂ with
    | error f => cases hx₂
    | ok a₂ =>
      refine ⟨user, p, _, a₁, a₂, a, huser, hp, rfl, ?_⟩
      cases keys with
      | nil => cases hkey
      | cons first rest =>
        cases hkey
        exact isSecret_of_secretKeys hkeys

theorem course_secretOf_ok {id secret : Value} (h : (b.secretOf id).Course s es (.ok secret) s') :
    ∃ user p a, b.nameOf id = .ok user ∧ User.secrets.fill [user] = .ok p ∧
      es = [called (listing p) (.ok a)] ∧ IsSecret a.document secret := by
  rw [secretOf, Action.course_lift_malformed_bind_ok] at h
  obtain ⟨user, huser, h⟩ := h
  rw [Action.course_bind_ok] at h
  obtain ⟨es₁, keys, s₁, es₂, hlist, h, rfl⟩ := h
  obtain ⟨p, a, hp, rfl, hkeys⟩ := course_listSecrets_ok hlist
  cases keys with
  | nil => cases (Action.course_throw.1 h).2.1
  | cons key rest =>
    obtain ⟨rfl, hsecret, _⟩ := Action.course_pure.1 h
    cases hsecret
    exact ⟨user, p, a, huser, hp, rfl, isSecret_of_secretKeys hkeys⟩

/-! ## 4. The whole start -/

/-- **The calls for the repository**, by the part that they are for. -/
def Prepared (b : Broker) (secret : Value) (es : List (Dialogue.Event Remote))
    (found : Part → Bool) : Prop :=
  ∃ c x laid c' x' user a made,
    es = called c x :: (laid ++ called c' x' :: made) ∧
    b.LooksFor .bucket c ∧ Tells (found .bucket) x ∧ ForBucket b (found .bucket) laid ∧
    b.LooksFor .user c' ∧ Tells (found .user) x' ∧
    b.nameOf (b.config.value .repositoryUser) = .ok user ∧
    ForUser b user a (found .user) made ∧ IsSecret a.document secret

theorem prepared_of_course {secret : Value}
    (h : b.prepareRepository.Course s es (.ok secret) s') :
    ∃ found, Prepared b secret es found := by
  rw [prepareRepository, Action.course_bind_ok] at h
  obtain ⟨es₁, _, s₁, es₂, hbucket, h, rfl⟩ := h
  obtain ⟨thereB, c, x, laid, hc, rfl, hx, hlaid⟩ := course_prepareRepositoryBucket_ok hbucket
  rw [Action.course_bind_ok] at h
  obtain ⟨es₃, thereU, s₂, es₄, huser, h, rfl⟩ := h
  obtain ⟨c', x', hc', rfl, hx'⟩ := course_partExistence (k := .user) huser
  have hmade : ∃ user a, b.nameOf (b.config.value .repositoryUser) = .ok user ∧
      ForUser b user a thereU es₄ ∧ IsSecret a.document secret := by
    cases thereU with
    | true =>
      obtain ⟨user, p, a, hname, hp, rfl, hsecret⟩ := course_secretOf_ok h
      exact ⟨user, a, hname, .found hp, hsecret⟩
    | false =>
      rw [Bool.not_false, if_pos rfl, Action.course_bind_ok] at h
      obtain ⟨es₅, key, s₃, es₆, hcreate, h, rfl⟩ := h
      rw [Action.course_bind_ok] at h
      obtain ⟨es₇, _, s₄, es₈, hadd, h, rfl⟩ := h
      obtain ⟨rfl, hsecret, _⟩ := Action.course_pure.1 h
      cases hsecret
      obtain ⟨user, p, body, a₁, a₂, a, hname, hp, rfl, hsecret⟩ := course_createUser_ok hcreate
      obtain ⟨name, _, q, body', x, hbucketName, _, hq, _, hgranted⟩ := granted_of_addUser hadd
      rw [List.append_nil]
      exact ⟨user, a, hname, .created hp (asks_addUser_below _ _ _ _ hadd)
        ⟨name, q, body', x, hbucketName, hq, hgranted⟩, hsecret⟩
  obtain ⟨user, a, hname, hmade, hsecret⟩ := hmade
  refine ⟨fun k => match k with
    | .bucket => thereB
    | .user => thereU, ?_⟩
  exact ⟨c, x, laid, c', x', user, a, es₄, rfl, hc, hx, hlaid, hc', hx', hname, hmade, hsecret⟩

/-- The question for a client of the object storage, and that there is one. -/
def connected (endpoint user secret : Value) : Dialogue.Event Remote :=
  ⟨.storage (.connect endpoint user secret), .ok ()⟩

/-- The tool for wiping takes one client, for what has been discovered. -/
theorem course_prepareWipe_ok (h : b.prepareWipe.Course s es (.ok ()) s') :
    ∃ d user, s'.discovery = some d ∧ b.nameOf (b.config.value .repositoryUser) = .ok user ∧
      es = [connected d.repositoryEndpoint user d.repositorySecret] := by
  rw [prepareWipe, Action.course_get_bind] at h
  cases hdiscovery : s.discovery with
  | none =>
    rw [hdiscovery] at h
    cases (Action.course_throw.1 h).2.1
  | some d =>
    rw [hdiscovery] at h
    dsimp only at h
    rw [Action.course_lift_malformed_bind_ok] at h
    obtain ⟨user, huser, h⟩ := h
    rw [Action.course_bind_ok] at h
    obtain ⟨es₁, _, s₁, es₂, hprepare, h, rfl⟩ := h
    obtain ⟨rfl, _, rfl⟩ := Action.course_modify.1 h
    obtain ⟨r, hconnect, hr⟩ := Action.course_mapFault.1 hprepare
    obtain rfl := mapError_eq_ok.1 hr.symm
    rw [Wipe.connect, Action.course_bind_ok] at hconnect
    obtain ⟨es₃, answer, s₂, es₄, hask, hdone, rfl⟩ := hconnect
    obtain ⟨x, hask, hx, rfl⟩ := Action.course_perform.1 hask
    cases hx
    obtain rfl := Remote.course_askStorage.1 hask
    cases answer with
    | error f => cases (Action.course_throw.1 hdone).2.1
    | ok u =>
      obtain ⟨rfl, _, rfl⟩ := Action.course_pure.1 hdone
      exact ⟨d, user, hdiscovery, huser, rfl⟩

/-- **The phases of a start that succeeded**: what is looked up, the calls for the repository, and
the client. -/
theorem phased_of_started {d : Discovery} (h : b.Started s es d s') :
    ∃ looked prepared found user,
      es = looked ++ (prepared ++ [connected d.repositoryEndpoint user d.repositorySecret]) ∧
      (∀ e ∈ looked, ∃ c x, e = called c x ∧ IsLookup c) ∧
      Prepared b d.repositorySecret prepared found ∧
      b.nameOf (b.config.value .repositoryUser) = .ok user := by
  obtain ⟨d₀, secret, es₁, es₂, es₃, s₁, s₂, s₃, s₄, hdiscover, hrepository, hwipe, hes, hd⟩ :=
    h.steps
  obtain ⟨found, hprepared⟩ := prepared_of_course hrepository
  obtain ⟨d', user, hd', huser, rfl⟩ := course_prepareWipe_ok hwipe
  obtain rfl : d' = d := by
    rw [h.discovery] at hd'
    exact (Option.some.inj hd').symm
  refine ⟨es₁, es₂, found, user, hes, asks_discover _ _ _ _ hdiscover, ?_, huser⟩
  rw [hd]
  exact hprepared

/-! ## 5. What the calls of a start are for -/

/-- **A call that makes a user**: it creates one, or a key for it, or lets it into a bucket. -/
inductive MakesUser (b : Broker) : Call → Prop where
  | creation {body : Value} : MakesUser b { method := "POST", path := Part.user.path, body := body }
  | key {user body : Value} {p : String} (hp : User.secrets.fill [user] = .ok p) :
      MakesUser b { method := "POST", path := .text p, body := body, parse := true }
  | access {c : Call} (h : IsBelowBucket c) : MakesUser b c

/-- **What a call of a start is for**: it reads, or it is for a part that was not found. -/
inductive Purpose (b : Broker) (found : Part → Bool) (c : Call) : Prop where
  | reading (h : c.method = .text "GET")
  | bucket (hfound : found .bucket = false)
      (h : b.LaysOutId (b.config.value .repositoryBucket) c)
  | user (hfound : found .user = false) (h : b.MakesUser c)

/-- Calls that all have such a purpose, and nothing else. -/
def Purposed (b : Broker) (found : Part → Bool) (es : List (Dialogue.Event Remote)) : Prop :=
  ∀ e ∈ es, ∃ c a, e = called c a ∧ b.Purpose found c

variable {found : Part → Bool}

theorem Purposed.cons {c : Call} {a : Except Fault Response} (hc : b.Purpose found c)
    (h : b.Purposed found es) : b.Purposed found (called c a :: es) :=
  List.forall_mem_cons.2 ⟨⟨c, a, rfl, hc⟩, h⟩

theorem Purposed.append {es' : List (Dialogue.Event Remote)} (h : b.Purposed found es)
    (h' : b.Purposed found es') : b.Purposed found (es ++ es') :=
  fun e he => (List.mem_append.1 he).elim (h e) (h' e)

theorem purposed_nil : b.Purposed found [] := fun _ he => absurd he List.not_mem_nil

/-- Of calls the object storage sees nothing. -/
theorem Purposed.onWire (h : b.Purposed found es) : es.flatMap Session.onWire = [] := by
  refine List.flatMap_eq_nil_iff.2 fun e he => ?_
  obtain ⟨c, a, rfl, _⟩ := h e he
  rfl

theorem purposed_of_lookups (h : ∀ e ∈ es, ∃ c a, e = called c a ∧ IsLookup c) :
    b.Purposed found es := by
  intro e he
  obtain ⟨c, a, rfl, hlookup⟩ := h e he
  exact ⟨c, a, rfl, .reading hlookup.1⟩

theorem LooksFor.method {k : Part} {c : Call} (h : b.LooksFor k c) : c.method = .text "GET" := by
  obtain ⟨_, _, _, _, rfl⟩ := h
  rfl

theorem ForBucket.purposed (h : ForBucket b (found .bucket) es) : b.Purposed found es := by
  generalize hfound : found .bucket = there at h
  cases h with
  | found => exact purposed_nil
  | created hlaid _ =>
    intro e he
    obtain ⟨c, a, rfl, hlays⟩ := hlaid e he
    exact ⟨c, a, rfl, .bucket hfound hlays⟩

theorem ForUser.purposed {user : Value} {a : Response} (h : ForUser b user a (found .user) es) :
    b.Purposed found es := by
  generalize hfound : found .user = there at h
  cases h with
  | found hp => exact .cons (.reading rfl) purposed_nil
  | created hp hbelow _ =>
    refine .cons (.user hfound .creation) (.cons (.user hfound (.key hp)) (.cons (.reading rfl) ?_))
    intro e he
    obtain ⟨c, x, rfl, hbelow⟩ := hbelow e he
    exact ⟨c, x, rfl, .user hfound (.access hbelow)⟩

theorem Prepared.purposed {secret : Value} (h : Prepared b secret es found) :
    b.Purposed found es := by
  obtain ⟨c, x, laid, c', x', user, a, made, rfl, hc, _, hlaid, hc', _, _, hmade, _⟩ := h
  exact .cons (.reading hc.method)
    (hlaid.purposed.append (.cons (.reading hc'.method) hmade.purposed))

open Text.Template (Under under_self under_fill)

theorem under_secrets {user : Value} {p : String} (h : User.secrets.fill [user] = .ok p) :
    Under "/object/user-secret-keys/" p := under_fill h

/-- Laying out a bucket creates it at one path only. -/
theorem LaysOut.path_of_post {ns name : Value} {c : Call} (h : LaysOut ns name c)
    (hmethod : c.method = .text "POST") : c.path = Part.bucket.path := by
  cases h with
  | probe _ => exact absurd (Value.text.inj hmethod) (by decide)
  | creation => rfl
  | setting _ _ => exact absurd (Value.text.inj hmethod) (by decide)

theorem MakesUser.path_of_post {c : Call} (h : b.MakesUser c) (hmethod : c.method = .text "POST") :
    c.path = Part.user.path ∨ ∃ user p, User.secrets.fill [user] = .ok p ∧ c.path = .text p := by
  cases h with
  | creation => exact .inl rfl
  | key hp => exact .inr ⟨_, _, hp, rfl⟩
  | access h =>
    obtain ⟨_, _, _, _, _, hnot⟩ := h
    exact absurd hmethod hnot

/-- A call that creates a bucket is for one that was not found. -/
theorem Purpose.found_bucket {c : Call} (h : b.Purpose found c) (hmethod : c.method = .text "POST")
    (hpath : c.path = Part.bucket.path) : found .bucket = false := by
  cases h with
  | reading h =>
    rw [h] at hmethod
    exact absurd (Value.text.inj hmethod) (by decide)
  | bucket hfound _ => exact hfound
  | user _ h =>
    obtain hpath' | ⟨user, p, hp, hpath'⟩ := h.path_of_post hmethod
    · rw [hpath] at hpath'
      exact absurd (Value.text.inj hpath') (by decide)
    · rw [hpath] at hpath'
      exact absurd (Value.text_plain_inj hpath') (under_self.ne (under_secrets hp) (by decide))

/-- A call that creates something else is for a user that was not found. -/
theorem Purpose.found_user {c : Call} (h : b.Purpose found c) (hmethod : c.method = .text "POST")
    (hpath : c.path ≠ Part.bucket.path) : found .user = false := by
  cases h with
  | reading h =>
    rw [h] at hmethod
    exact absurd (Value.text.inj hmethod) (by decide)
  | bucket _ h =>
    obtain ⟨_, _, h⟩ := h
    exact absurd (h.path_of_post hmethod) hpath
  | user hfound _ => exact hfound

/-- A call that writes the access list of the repository is for a user that was not found. -/
theorem Purpose.found_user_of_grant {c : Call} {name : Value} {p : String}
    (h : b.Purpose found c) (hname : b.nameOf (b.config.value .repositoryBucket) = .ok name)
    (hp : Bucket.acl.fill [name] = .ok p) (hmethod : c.method = .text "PUT")
    (hpath : c.path = .text p) : found .user = false := by
  cases h with
  | reading h =>
    rw [h] at hmethod
    exact absurd (Value.text.inj hmethod) (by decide)
  | user hfound _ => exact hfound
  | bucket _ h =>
    obtain ⟨name', hname', h⟩ := h
    obtain rfl : name' = name := Except.ok.inj (hname'.symm.trans hname)
    -- The quota and the retention of a bucket stand beside its access list.
    have hbeside {part : String} {p' : String} (hpart : part ≠ "/acl")
        (hp' : (Bucket.resource part).fill [name'] = .ok p') : p' ≠ p := by
      obtain ⟨cs, hcs, rfl⟩ := Text.Template.fill_one.1 hp'
      obtain ⟨cs', hcs', rfl⟩ := Text.Template.fill_one.1 hp
      obtain rfl : cs = cs' := Except.ok.inj (hcs.symm.trans hcs')
      intro heq
      exact hpart (String.toList_injective (List.append_cancel_left (String.ofList_injective heq)))
    cases h with
    | probe _ => exact absurd (Value.text.inj hmethod) (by decide)
    | creation => exact absurd (Value.text.inj hmethod) (by decide)
    | setting ht hp' =>
      obtain rfl | rfl := ht
      · exact absurd (Value.text_plain_inj hpath) (hbeside (by decide) hp')
      · exact absurd (Value.text_plain_inj hpath) (hbeside (by decide) hp')

/-- Where everything is found, every call reads. -/
theorem Purpose.reads {c : Call} (h : b.Purpose found c) (hfound : ∀ k, found k) :
    c.method = .text "GET" := by
  cases h with
  | reading h => exact h
  | bucket hnot _ => rw [hfound] at hnot; cases hnot
  | user hnot _ => rw [hfound] at hnot; cases hnot

/-! ## 6. Looking and listing, in order -/

/-- **The first look at a part**, with what it tells. -/
def FirstLook (b : Broker) (k : Part) (there : Bool) (calls : List (Dialogue.Event Remote)) :
    Prop :=
  ∃ before c a after, calls = before ++ called c a :: after ∧ b.LooksFor k c ∧ Tells there a ∧
    ∀ c' a', called c' a' ∈ before → ¬ b.LooksFor k c'

/-- A call that lists the keys of a user. -/
def Lists (c : Call) : Prop := ∃ user p, User.secrets.fill [user] = .ok p ∧ c = listing p

/-- **The secret is that of the last listing.** -/
def LastListed (user secret : Value) (calls : List (Dialogue.Event Remote)) : Prop :=
  ∃ before p a after, User.secrets.fill [user] = .ok p ∧
    calls = before ++ called (listing p) (.ok a) :: after ∧
    (∀ c x, called c x ∈ after → ¬ Lists c) ∧ IsSecret a.document secret

theorem IsLookup.not_looksFor {k : Part} {c : Call} (h : IsLookup c) : ¬ b.LooksFor k c := by
  rintro ⟨_, _, _, _, rfl⟩
  cases h.2

theorem LaysOut.not_looksFor {ns name : Value} {c : Call} (h : LaysOut ns name c) :
    ¬ b.LooksFor .user c := by
  rintro ⟨user, p, _, hp, rfl⟩
  have hunder : Under "/object/users/" p := under_fill hp
  generalize hcall : ({ path := .text p, params := Bucket.inNamespace b.home } : Call) = c at h
  cases h with
  | probe hp' =>
    have hpath := Value.text_plain_inj (congrArg Call.path hcall)
    exact absurd hpath (hunder.ne (under_fill hp') (by decide))
  | creation => exact absurd (Value.text.inj (congrArg Call.method hcall)) (by decide)
  | setting _ _ => exact absurd (Value.text.inj (congrArg Call.method hcall)) (by decide)

theorem IsBelowBucket.not_lists {c : Call} (h : IsBelowBucket c) : ¬ Lists c := by
  rintro ⟨user, p, hp, rfl⟩
  obtain ⟨name, part, p', hp', hpath, _⟩ := h
  exact absurd (Value.text_plain_inj hpath)
    ((under_secrets hp).ne (under_fill hp') (by decide))

theorem ForUser.lastListed {user secret : Value} {a : Response} {there : Bool}
    (h : ForUser b user a there es) (hsecret : IsSecret a.document secret) :
    LastListed user secret es := by
  cases h with
  | found hp =>
    exact ⟨[], _, a, [], hp, rfl, fun _ _ hc => absurd hc List.not_mem_nil, hsecret⟩
  | created hp hbelow _ =>
    refine ⟨[_, _], _, a, _, hp, rfl, fun c x hc => ?_, hsecret⟩
    obtain ⟨c', x', heq, hbelow⟩ := hbelow _ hc
    cases heq
    exact hbelow.not_lists

theorem LastListed.append {user secret : Value} {before after : List (Dialogue.Event Remote)}
    (h : LastListed user secret es) (hafter : ∀ c x, called c x ∈ after → ¬ Lists c) :
    LastListed user secret (before ++ (es ++ after)) := by
  obtain ⟨es₁, p, a, es₂, hp, rfl, hnone, hsecret⟩ := h
  refine ⟨before ++ es₁, p, a, es₂ ++ after, hp, by simp, fun c x hc => ?_, hsecret⟩
  exact (List.mem_append.1 hc).elim (hnone c x) (hafter c x)

theorem Prepared.firstLook {secret : Value} {looked after : List (Dialogue.Event Remote)}
    (h : Prepared b secret es found) (hlooked : ∀ e ∈ looked, ∃ c x, e = called c x ∧ IsLookup c)
    (k : Part) : FirstLook b k (found k) (looked ++ (es ++ after)) := by
  obtain ⟨c, x, laid, c', x', user, a, made, rfl, hc, hx, hlaid, hc', hx', _⟩ := h
  have hbefore : ∀ {k : Part} {c a}, called c a ∈ looked → ¬ b.LooksFor k c := by
    intro k c a hmem
    obtain ⟨_, _, heq, hlookup⟩ := hlooked _ hmem
    cases heq
    exact hlookup.not_looksFor
  cases k with
  | bucket =>
    exact ⟨looked, c, x, laid ++ called c' x' :: (made ++ after), by simp, hc, hx,
      fun _ _ => hbefore⟩
  | user =>
    refine ⟨looked ++ called c x :: laid, c', x', made ++ after, by simp, hc', hx', ?_⟩
    -- What is done about the bucket stands under another path.
    have hprobe : ¬ b.LooksFor .user c := by
      obtain ⟨name, p, _, hp, rfl⟩ := hc
      have hlays : LaysOut b.home name { path := .text p, params := Bucket.inNamespace b.home } :=
        .probe hp
      exact hlays.not_looksFor
    have hlays : ∀ d y, called d y ∈ laid → ¬ b.LooksFor .user d := by
      intro d y hd
      generalize found .bucket = there at hlaid
      cases hlaid with
      | found => cases hd
      | created hlaid _ =>
        obtain ⟨_, _, heq, _, _, hlays⟩ := hlaid _ hd
        cases heq
        exact hlays.not_looksFor
    intro d y hd
    rcases List.mem_append.1 hd with hd | hd
    · exact hbefore hd
    rcases List.mem_cons.1 hd with heq | hd
    · cases heq
      exact hprobe
    · exact hlays d y hd

theorem Prepared.created_bucket {secret : Value} (h : Prepared b secret es found)
    (hfound : found .bucket = false) :
    ∃ body a, called { method := "POST", path := Part.bucket.path, body := body } (.ok a) ∈ es := by
  obtain ⟨c, x, laid, c', x', user, a, made, rfl, _, _, hlaid, _⟩ := h
  rw [hfound] at hlaid
  cases hlaid with
  | created _ hcreated =>
    obtain ⟨body, a, hcreated⟩ := hcreated
    exact ⟨body, a, List.mem_cons_of_mem _ (List.mem_append_left _ hcreated)⟩

/-- A user that was not found is created, gets a key, and is let into the bucket. -/
theorem Prepared.made_user {secret : Value} (h : Prepared b secret es found)
    (hfound : found .user = false) :
    (∃ body a, called { method := "POST", path := Part.user.path, body := body } (.ok a) ∈ es) ∧
      (∃ user p body a, b.nameOf (b.config.value .repositoryUser) = .ok user ∧
        User.secrets.fill [user] = .ok p ∧
        called { method := "POST", path := .text p, body := body, parse := true } (.ok a) ∈ es) ∧
      ∃ name p body a, b.nameOf (b.config.value .repositoryBucket) = .ok name ∧
        Bucket.acl.fill [name] = .ok p ∧
        called { method := "PUT", path := .text p, body := body } (.ok a) ∈ es := by
  obtain ⟨c, x, laid, c', x', user, a, made, rfl, _, _, _, _, _, huser, hmade, _⟩ := h
  have hmem : ∀ e ∈ made, e ∈ called c x :: (laid ++ called c' x' :: made) := fun e he =>
    List.mem_cons_of_mem _ (List.mem_append_right _ (List.mem_cons_of_mem _ he))
  rw [hfound] at hmade
  cases hmade with
  | @created p body a₁ a₂ access hp _ hgrant =>
    obtain ⟨name, q, body', y, hname, hq, hgranted⟩ := hgrant
    refine ⟨⟨body, a₁, hmem _ ?_⟩, ⟨user, p, .mapping [], a₂, huser, hp, hmem _ ?_⟩,
      name, q, body', y, hname, hq, hmem _ ?_⟩
    · exact List.mem_cons_self
    · exact List.mem_cons_of_mem _ List.mem_cons_self
    · exact List.mem_cons_of_mem _ (List.mem_cons_of_mem _ (List.mem_cons_of_mem _ hgranted))

theorem Prepared.lastListed {user secret : Value} (h : Prepared b secret es found)
    (huser : b.nameOf (b.config.value .repositoryUser) = .ok user) : LastListed user secret es := by
  obtain ⟨c, x, laid, c', x', user', a, made, rfl, _, _, _, _, _, huser', hmade, hlast⟩ := h
  obtain rfl : user' = user := Except.ok.inj (huser'.symm.trans huser)
  have hlisted : LastListed user' secret
      (called c x :: (laid ++ [called c' x']) ++ (made ++ [])) :=
    (hmade.lastListed hlast).append fun _ _ hc => absurd hc List.not_mem_nil
  simpa using hlisted

end StorageBroker.Broker
