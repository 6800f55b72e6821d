import StorageBroker.Proofs.Broker.Forced
import StorageBroker.Proofs.Broker.Reading
import StorageBroker.Proofs.Session.Steadiness
/-!
# What is reported of failures

A command reports its failures to the platform as those of the broker. One thing escapes that: an
answer that cannot be read, since malformed data is no failure of the library, and nothing between
the reading and the platform makes it one. This file has the rules by which operations are shown to
fail in these two ways only, and goes through the provisions, which read no answers at all.

* `Unread` -- calls the last of which got an answer that cannot be read;
* `Reports` -- operations all of whose failures are the library's or of this one kind;
* `Reports.bind`, `Fetches.reports`, `Fetches.reports_bind` -- how such operations are put together;
* `reports_effective`, `reports_checkPolicy` -- the checks of parameters refuse and never break off;
* `reports_createBucket` and the like -- the provisions.
-/

namespace StorageBroker.ReclaimPolicy

variable {e : Malformed} {m : Mapping} {v default : Value}

/-- What names no policy is told so by its content. -/
theorem content_of_parse (h : parse v = .error e) : ∃ d, e = .content d := by
  unfold parse at h
  split at h
  next => cases h
  next =>
    split at h
    · cases h
    · cases h
      exact ⟨_, rfl⟩
  next =>
    cases h
    exact ⟨_, rfl⟩

theorem content_of_requested (h : requested (.mapping m) default = .error e) :
    ∃ d, e = .content d := by
  rw [requested, settingOf_mapping] at h
  obtain h | ⟨v, _, h⟩ := bind_eq_error.1 h
  · cases h
  · split at h
    · cases h
    · obtain h | ⟨_, _, h⟩ := bind_eq_error.1 h
      · exact content_of_parse h
      · cases h

/-- What lists no policies is told so by its content or its kind. -/
theorem told_of_allowed (h : allowed (.mapping m) = .error e) :
    (∃ d, e = .content d) ∨ ∃ d, e = .kind d := by
  rw [allowed, settingOf_mapping] at h
  obtain h | ⟨v, _, h⟩ := bind_eq_error.1 h
  · cases h
  split at h
  · cases h
  obtain h | ⟨xs, _, h⟩ := bind_eq_error.1 h
  · unfold allowedItems at h
    split at h
    · cases h
    · unfold Value.items at h
      split at h
      all_goals cases h
      exact .inr ⟨_, rfl⟩
  · obtain ⟨x, _, hx⟩ := mapM_eq_error h
    exact .inl (content_of_parse hx)

/-- **Whatever parameters ask for and allow**, the check of the policy comes to an outcome. -/
theorem ofParameters_mapping (m : Mapping) (default : Value) :
    ∃ c, Check.ofParameters (.mapping m) default = .ok c := by
  rw [Check.ofParameters, settingOf_mapping]
  dsimp only [bind, Except.bind]
  cases hrequested : requested (.mapping m) default with
  | error e =>
    obtain ⟨d, rfl⟩ := content_of_requested hrequested
    exact ⟨_, rfl⟩
  | ok policy =>
    dsimp only
    cases hallowed : allowed (.mapping m) with
    | ok ps => exact ⟨_, rfl⟩
    | error e =>
      obtain ⟨d, rfl⟩ | ⟨d, rfl⟩ := told_of_allowed hallowed
      · exact ⟨_, rfl⟩
      · exact ⟨_, rfl⟩

end StorageBroker.ReclaimPolicy

namespace StorageBroker.Broker

open Management
open Session (Ordinary)
open Text (Template.Sendable)

/-! ## 1. Failures -/

/-- **The last call got an answer that cannot be read.** -/
def Unread (es : List (Dialogue.Event Remote)) (m : Malformed) : Prop :=
  ∃ before c a, es = before ++ [called c (.ok a)] ∧
    ∃ k : Reader, k.Of c ∧ k.read a.document = .error m

theorem Unread.append_left {es es' : List (Dialogue.Event Remote)} {m : Malformed}
    (h : Unread es m) : Unread (es' ++ es) m := by
  obtain ⟨before, c, a, rfl, hread⟩ := h
  exact ⟨es' ++ before, c, a, (List.append_assoc _ _ _).symm, hread⟩

/-- A failure of the library, or of the reading of the last answer. -/
def Reportable (es : List (Dialogue.Event Remote)) (f : Fault) : Prop :=
  f.isOwn ∨ ∃ m, f = .malformed m ∧ Unread es m

/-- **How an operation went**: its calls are ordinary ones, what it gives is as expected, and where
all calls failed as the library does, so does it, unless the last answer cannot be read. -/
structure Reported {α : Type} (P : α → Prop) (es : List (Dialogue.Event Remote))
    (r : Except Fault α) : Prop where
  ordinary : ∀ e ∈ es, ∃ c a, e = called c a ∧ Ordinary c
  post : ∀ a, r = .ok a → P a
  told : (∀ c f, called c (.error f) ∈ es → f.isOwn) → ∀ f, r = .error f → Reportable es f

/-- **An operation that reports its failures**, and that gives what is expected. -/
def Reports {α : Type} (P : α → Prop) (x : Operation α) : Prop :=
  ∀ s es r s', x.Course s es r s' → Reported P es r

/-- An operation that stops at once. -/
def Halts {α : Type} (m : Malformed) (x : Operation α) : Prop :=
  ∀ s es r s', x.Course s es r s' → es = [] ∧ r = .error (.malformed m)

section Rules

variable {α β : Type} {P : α → Prop} {Q : β → Prop}

theorem reported_ok {a : α} (h : P a) : Reported P [] (.ok a) where
  ordinary := fun _ he => absurd he List.not_mem_nil
  post := fun _ ha => by cases ha; exact h
  told := fun _ _ hf => nomatch hf

theorem reported_own {f : Fault} (h : f.isOwn) : Reported P [] (.error f) where
  ordinary := fun _ he => absurd he List.not_mem_nil
  post := fun _ ha => nomatch ha
  told := fun _ _ hf => by cases hf; exact .inl h

theorem own_of_isBroker {f : Fault} (h : f.isBroker) : f.isOwn := by
  cases f <;> first | rfl | cases h

/-- What comes behind ordinary calls. -/
theorem Reported.append_left {es es' : List (Dialogue.Event Remote)} {r : Except Fault α}
    (hes : ∀ e ∈ es', ∃ c a, e = called c a ∧ Ordinary c) (h : Reported P es r) :
    Reported P (es' ++ es) r where
  ordinary := fun e he => (List.mem_append.1 he).elim (hes e) (h.ordinary e)
  post := h.post
  told := fun hown f hf => by
    refine (h.told (fun c f hmem => hown c f (List.mem_append_right _ hmem)) f hf).imp_right ?_
    rintro ⟨m, rfl, hunread⟩
    exact ⟨m, rfl, hunread.append_left⟩

theorem reports_pure {a : α} (h : P a) : Reports P (pure a) := by
  intro s es r s' hcourse
  obtain ⟨rfl, rfl, _⟩ := Action.course_pure.1 hcourse
  exact reported_ok h

theorem reports_throw {f : Fault} (h : f.isOwn) : Reports P (throw f) := by
  intro s es r s' hcourse
  obtain ⟨rfl, rfl, _⟩ := Action.course_throw.1 hcourse
  exact reported_own h

/-- **Two operations in a row.** -/
theorem Reports.bind {x : Operation α} {f : α → Operation β} (hx : Reports P x)
    (hf : ∀ a, P a → Reports Q (f a)) : Reports Q (x >>= f) := by
  intro s es r s' h
  obtain ⟨e, hfirst, rfl⟩ | ⟨es₁, a, s₁, es₂, hfirst, hnext, rfl⟩ := Action.course_bind.1 h
  · obtain ⟨hordinary, _, htold⟩ := hx _ _ _ _ hfirst
    exact ⟨hordinary, fun b hb => (nomatch hb), fun hown f hf => by
      cases hf
      exact htold hown e rfl⟩
  · obtain ⟨hordinary, hpost, _⟩ := hx _ _ _ _ hfirst
    exact (hf a (hpost a rfl) _ _ _ _ hnext).append_left hordinary

theorem Reports.next {x : Operation α} {f : α → Operation β} (hx : Reports (fun _ => True) x)
    (hf : ∀ a, Reports Q (f a)) : Reports Q (x >>= f) := hx.bind fun a _ => hf a

theorem reports_throw_bind {f : Fault} {k : α → Operation β} (h : f.isOwn) :
    Reports Q (throw f >>= k : Operation β) :=
  (reports_throw (P := fun _ => False) h).bind fun _ hfalse => hfalse.elim

theorem Reports.lift_bind {x : Except Malformed α} {a : α} {f : α → Operation β} (hx : x = .ok a)
    (hf : Reports Q (f a)) : Reports Q (liftM x >>= f) := by
  subst hx
  intro s es r s' h
  obtain ⟨m, hm, _⟩ | ⟨a', ha', hnext⟩ := Action.course_lift_malformed_bind.1 h
  · cases hm
  · cases ha'
    exact hf _ _ _ _ hnext

theorem Reports.lift {x : Except Malformed α} {a : α} (hx : x = .ok a) (ha : P a) :
    Reports P (liftM x) := by
  subst hx
  intro s es r s' h
  obtain ⟨rfl, rfl, _⟩ := Action.course_lift_malformed.1 h
  exact reported_ok ha

theorem halts_lift {x : Except Malformed α} {m : Malformed} (hx : x = .error m) :
    Halts m (liftM x : Operation α) := by
  subst hx
  intro s es r s' h
  obtain ⟨rfl, rfl, _⟩ := Action.course_lift_malformed.1 h
  exact ⟨rfl, rfl⟩

theorem Halts.bind {m : Malformed} {x : Operation α} {f : α → Operation β} (hx : Halts m x) :
    Halts m (x >>= f) := by
  intro s es r s' h
  obtain ⟨e, hfirst, rfl⟩ | ⟨es₁, a, s₁, es₂, hfirst, _, _⟩ := Action.course_bind.1 h
  · obtain ⟨rfl, he⟩ := hx _ _ _ _ hfirst
    cases he
    exact ⟨rfl, rfl⟩
  · cases (hx _ _ _ _ hfirst).2

theorem Reports.get_bind {f : State → Operation β} (hf : ∀ s, Reports Q (f s)) :
    Reports Q (get >>= f) := fun s _ _ _ h => hf s _ _ _ _ (Action.course_get_bind.1 h)

theorem reports_note {given now : Value} : Reports (fun _ => True) (note given now) := by
  intro s es r s' h
  obtain ⟨rfl, rfl, _⟩ := Action.course_modify.1 h
  exact reported_ok trivial

/-- The platform sees a failure of the library as one of the broker, and malformed data as it is. -/
theorem Reports.reporting {x : Operation α} (hx : Reports P x) : Reports P (reporting x) := by
  intro s es r s' h
  obtain ⟨r', hinner, rfl⟩ := Action.course_mapFault.1 h
  obtain ⟨hordinary, hpost, htold⟩ := hx _ _ _ _ hinner
  refine ⟨hordinary, fun a ha => hpost a (mapError_eq_ok.1 ha), fun hown f hf => ?_⟩
  obtain ⟨g, hg, rfl⟩ := mapError_eq_error.1 hf
  rcases htold hown g hg with howng | ⟨m, rfl, hunread⟩
  · exact .inl (own_of_isBroker (Fault.isBroker_wrap howng))
  · exact .inr ⟨m, rfl, hunread⟩

/-! ## 2. Calls -/

theorem Reports.path_bind {t : Text.Template} {args : List Value} {f : Value → Operation β}
    (hfill : ∃ p, t.fill args = .ok p)
    (hf : ∀ p, t.fill args = .ok p → Reports Q (f (.text p))) : Reports Q (path t args >>= f) := by
  intro s es r s' h
  obtain ⟨m, hm, _⟩ | ⟨p, hp, hnext⟩ := course_path_bind.1 h
  · obtain ⟨p, hp⟩ := hfill
    cases hm.symm.trans hp
  · exact hf p hp _ _ _ _ hnext

/-- An operation on a path that cannot be made. -/
theorem halts_path {t : Text.Template} {args : List Value} {f : Value → Operation β}
    {m : Malformed} (hfill : t.fill args = .error m) : Halts m (path t args >>= f) := by
  intro s es r s' h
  obtain ⟨m', hm', rfl, rfl, _⟩ | ⟨p, hp, _⟩ := course_path_bind.1 h
  · cases hfill.symm.trans hm'
    exact ⟨rfl, rfl⟩
  · cases hfill.symm.trans hp

/-- One call whose failure, if it is one, is that of the operation. -/
theorem reported_called {c : Call} {a : Except Fault Response} {r : Except Fault α}
    (hc : Ordinary c) (hpost : ∀ b, r = .ok b → P b) (hr : ∀ f, r = .error f → a = .error f) :
    Reported P [called c a] r where
  ordinary := fun e he => by
    cases List.mem_singleton.1 he
    exact ⟨c, a, rfl, hc⟩
  post := hpost
  told := fun hown f hf => .inl (hown c f (by rw [hr f hf]; exact List.mem_singleton_self _))

theorem reports_perform {c : Call} (hc : Ordinary c) : Reports (fun _ => True) (perform c) := by
  intro s es r s' h
  obtain ⟨a, rfl, rfl, _⟩ := course_perform.1 h
  refine reported_called hc (fun _ _ => trivial) fun f hf => ?_
  cases a with
  | ok a => cases hf
  | error g => cases hf; rfl

theorem reports_existence {c : Call} (hc : Ordinary c) :
    Reports (fun _ => True) (existence c) := by
  intro s es r s' h
  obtain ⟨a, rfl, hprobed, _⟩ := course_existence h
  refine reported_called hc (fun _ _ => trivial) fun f hf => ?_
  obtain ⟨_, _, rfl⟩ | ⟨_, _, _, rfl⟩ | ⟨g, rfl, _, rfl⟩ := hprobed
  · cases hf
  · cases hf
  · cases hf; rfl

variable {c : Call} {read : Value → Except Malformed α}

/-- One call whose answer cannot be read. -/
theorem reported_unread {k : Reader} {y : Response} {m : Malformed} (hc : Ordinary c)
    (hk : k.Of c) (hm : k.read y.document = .error m) :
    Reported P [called c (.ok y)] (.error (.malformed m)) where
  ordinary := fun e he => by
    cases List.mem_singleton.1 he
    exact ⟨c, _, rfl, hc⟩
  post := fun _ ha => nomatch ha
  told := fun _ f hf => by
    cases hf
    exact .inr ⟨m, rfl, [], c, y, rfl, k, hk, hm⟩

/-- **A call whose answer is read.** -/
theorem Fetches.reports {x : Operation α} (hx : Fetches c read x) (hc : Ordinary c) (k : Reader)
    (hk : k.Of c) (hread : ∀ v m, read v = .error m → k.read v = .error m)
    (hpost : ∀ v a, read v = .ok a → P a) : Reports P x := by
  intro s es r s' h
  obtain ⟨a, rfl, rfl⟩ := hx _ _ _ _ h
  cases a with
  | error g => exact reported_called hc (fun _ hb => nomatch hb) fun f hf => by cases hf; rfl
  | ok y =>
    cases hresult : read y.document with
    | error m =>
      show Reported P _ ((read y.document).mapError .malformed)
      rw [hresult]
      exact reported_unread hc hk (hread _ _ hresult)
    | ok b =>
      show Reported P _ ((read y.document).mapError .malformed)
      rw [hresult]
      refine reported_called hc (fun _ hb => ?_) fun _ hf => nomatch hf
      cases hb
      exact hpost _ _ hresult

/-- **What goes on with an answer that was read** may stop at once, if its reader refuses it. -/
theorem Fetches.reports_bind {x : Operation α} {f : α → Operation β} (hx : Fetches c read x)
    (hc : Ordinary c) (k : Reader) (hk : k.Of c)
    (hread : ∀ v m, read v = .error m → k.read v = .error m)
    (hf : ∀ v a, read v = .ok a →
      (∃ m, k.read v = .error m ∧ Halts m (f a)) ∨ Reports Q (f a)) : Reports Q (x >>= f) := by
  intro s es r s' h
  obtain ⟨e, hfirst, rfl⟩ | ⟨es₁, b, s₁, es₂, hfirst, hnext, rfl⟩ := Action.course_bind.1 h
  · obtain ⟨hordinary, _, htold⟩ :=
      hx.reports (P := fun _ => True) hc k hk hread (fun _ _ _ => trivial) _ _ _ _ hfirst
    exact ⟨hordinary, fun b hb => (nomatch hb), fun hown f hf => by
      cases hf
      exact htold hown e rfl⟩
  · obtain ⟨a, rfl, hresult⟩ := hx _ _ _ _ hfirst
    cases a with
    | error g => cases hresult
    | ok y =>
      rcases hf y.document b (mapError_eq_ok.1 hresult.symm) with ⟨m, hm, hhalts⟩ | hreports
      · obtain ⟨rfl, rfl⟩ := hhalts _ _ _ _ hnext
        exact reported_unread hc hk hm
      · refine (hreports _ _ _ _ hnext).append_left fun e he => ?_
        cases List.mem_singleton.1 he
        exact ⟨c, _, rfl, hc⟩

end Rules

/-! ## 3. Names and parameters -/

/-- **An id whose name can stand in a path.** -/
def Named (b : Broker) (id : Value) : Prop :=
  ∃ n, b.nameOf id = .ok (.text n) ∧ Template.Sendable n

/-- Where the prefix is a text, every text is such an id, if both can be sent. -/
theorem named_text {b : Broker} {p i : Text} (hp : b.config.value .idPrefix = .text p)
    (hsend : Template.Sendable (p ++ i)) : b.Named (.text i) :=
  ⟨p ++ i, by rw [nameOf, hp]; rfl, hsend⟩

/-- A template with one hole is filled by a name. -/
theorem fill_name {t : Text.Template} {n : Text} (ht : t.holes = 1) (hn : Template.Sendable n) :
    ∃ p, t.fill [.text n] = .ok p := by
  refine Text.Template.fill_isOk ht.symm fun v hv => ?_
  cases List.mem_singleton.1 hv
  rw [Value.plain_text]
  exact hn

section Parameters

variable {m m' : Mapping} {plan : Plan} {service : ServiceDefinition} {v : Value}

/-- Parameters that a request comes to. -/
def Effective (m : Mapping) (v : Value) : Prop := ∃ m', v = .mapping m' ∧ Settings.Settled m m'

theorem reports_discovered : Reports (fun _ => True) discovered := by
  refine .get_bind fun s => ?_
  split
  · exact reports_pure trivial
  · exact reports_throw rfl

/-- **Parameters are merged and settled**, or refused in the name of the broker. -/
theorem reports_effective (hmerged : Settings.mergeFor v plan service = .ok (.mapping m))
    (hm : ∀ e ∈ m, Settings.Bounded e.2) : Reports (Effective m) (effective v plan service) := by
  refine .lift_bind hmerged <| reports_note.next fun _ => reports_note.next fun _ => ?_
  cases hfault : (Settings.check (.mapping m)).fault with
  | some f => exact reports_throw (Settings.own_of_check hm hfault)
  | none => exact reports_pure (Settings.check_passed hfault)

theorem reports_checkPolicy : Reports (fun _ => True) (checkPolicy (.mapping m)) := by
  refine reports_discovered.next fun d => ?_
  obtain ⟨c, hc⟩ := ReclaimPolicy.ofParameters_mapping m d.defaultReclaimPolicy
  refine .lift_bind hc ?_
  split
  · exact reports_pure trivial
  · exact reports_throw rfl

end Parameters

variable {b : Broker}

/-! ## 4. Buckets and namespaces -/

section Provisions

variable {id name : Value} {n : Text} {m m' : Mapping}

theorem reports_bucketExists (hid : b.Named id) :
    Reports (fun _ => True) (b.bucketExists id) := by
  obtain ⟨n, hname, hn⟩ := hid
  refine Reports.reporting (.lift_bind hname (.path_bind (fill_name rfl hn) fun p _ => ?_))
  exact reports_existence ⟨rfl, ⟨p, rfl⟩, _, rfl⟩

theorem reports_namespaceExists (hid : b.Named id) :
    Reports (fun _ => True) (b.namespaceExists id) := by
  obtain ⟨n, hname, hn⟩ := hid
  refine Reports.reporting (.lift_bind hname (.path_bind (fill_name rfl hn) fun p _ => ?_))
  exact reports_existence ⟨rfl, ⟨p, rfl⟩, _, rfl⟩

/-- A call without a document, for a name. -/
theorem reports_perform_name {t : Text.Template} {k : Value → Call} (ht : t.holes = 1)
    (hn : Template.Sendable n) (hk : ∀ p : Text, Ordinary (k (.text p))) :
    Reports (fun _ => True) (path t [.text n] >>= fun p => perform (k p)) :=
  .path_bind (fill_name ht hn) fun p _ => reports_perform (hk p)

/-- A call with the data of a record that has no layout of its own. -/
theorem reports_written {r : Record} {k : Value → Call} (kind : RecordKind) (hr : r.kind = kind)
    (hacl : kind ≠ .bucketAcl) (hpolicy : kind ≠ .bucketPolicy) (hk : ∀ body, Ordinary (k body)) :
    Reports (fun _ => True) (liftM (bodyOf r.toValue) >>= fun body => perform (k body)) :=
  .lift_bind (Record.bodyOf_toValue hr hacl hpolicy) (reports_perform (hk _))

theorem reports_applyBucketQuota (hn : Template.Sendable n) (h : Settings.Settled m m') :
    Reports (fun _ => True) (b.applyBucketQuota (.text n) (.mapping m')) := by
  refine .lift_bind rfl ?_
  rcases h.quota_cases with ⟨habsent, _⟩ | ⟨q, q', _, hq', _⟩
  · rw [habsent.getD]
    exact reports_pure trivial
  · rw [hq']
    refine .lift_bind rfl (.lift_bind rfl ?_)
    exact reports_perform_name rfl hn fun p => ⟨rfl, ⟨p, rfl⟩, _, rfl⟩

theorem reports_applyBucketRetention (hn : Template.Sendable n) :
    Reports (fun _ => True) (b.applyBucketRetention (.text n) (.mapping m')) := by
  refine .lift_bind rfl ?_
  split
  · exact reports_perform_name rfl hn fun p => ⟨rfl, ⟨p, rfl⟩, _, rfl⟩
  · exact reports_pure trivial

/-- A size of the quota is there to be read, or taken for one that is not set. -/
theorem sizeOf_settled (h : Settings.Settled m m') (size : Text) :
    ∃ v, sizeOf (.mapping m') size = .ok v := by
  have hquota : (Value.mapping m').get Settings.quota =
      .ok ((Mapping.get m' Settings.quota).getD .null) := rfl
  rw [sizeOf, hquota]
  rcases h.quota_cases with ⟨habsent, _⟩ | ⟨q, q', _, hq', _⟩
  · rw [habsent.getD]
    exact ⟨_, rfl⟩
  · rw [hq', Option.getD_some]
    dsimp only [Except.bind, bind]
    rw [orElse_mapping]
    exact ⟨_, rfl⟩

/-- The retention classes are there to be read, and are those of the request. -/
theorem classesIn_settled (h : Settings.Settled m m') : ∃ classes,
    classesIn (.mapping m') = .ok classes ∧ ∀ e ∈ classes, ∃ i, Settings.ClassIn m e.1 i := by
  refine ⟨_, classesIn_eq h, fun e he => ?_⟩
  obtain ⟨i, hi, _⟩ := mem_classesIn h (classesIn_eq h) e he
  exact ⟨i, hi⟩

variable {plan : Plan} {service : ServiceDefinition} {parameters : Value}

theorem reports_createBucket (hid : b.Named id)
    (hmerged : Settings.mergeFor parameters plan service = .ok (.mapping m))
    (hm : ∀ e ∈ m, Settings.Bounded e.2) :
    Reports (fun _ => True) (b.createBucket id service plan parameters) := by
  obtain ⟨n, hname, hn⟩ := hid
  refine reports_note.next fun _ => Reports.reporting (.lift_bind hname ?_)
  refine (reports_bucketExists ⟨n, hname, hn⟩).next fun there => ?_
  dsimp only
  split
  · exact reports_throw_bind rfl
  refine (reports_effective hmerged hm).bind ?_
  rintro _ ⟨m', rfl, hsettled⟩
  refine reports_checkPolicy.next fun _ => reports_discovered.next fun d => ?_
  refine .lift_bind rfl (Reports.next ?_ fun _ => ?_)
  · exact reports_written .bucketCreate rfl (by decide) (by decide)
      fun _ => ⟨rfl, ⟨_, rfl⟩, _, rfl⟩
  · exact (reports_applyBucketQuota hn hsettled).next fun _ =>
      (reports_applyBucketRetention hn).next fun _ => reports_pure trivial

theorem reports_changeBucketPlan (hid : b.Named id)
    (hmerged : Settings.mergeFor parameters plan service = .ok (.mapping m))
    (hm : ∀ e ∈ m, Settings.Bounded e.2) :
    Reports (fun _ => True) (b.changeBucketPlan id service plan parameters) := by
  obtain ⟨n, hname, hn⟩ := hid
  refine reports_note.next fun _ => Reports.reporting ((reports_effective hmerged hm).bind ?_)
  rintro _ ⟨m', rfl, hsettled⟩
  refine reports_checkPolicy.next fun _ => .lift_bind hname ?_
  obtain ⟨limit, hlimit⟩ := sizeOf_settled hsettled Settings.limit
  obtain ⟨warn, hwarn⟩ := sizeOf_settled hsettled Settings.warn
  refine .lift_bind hlimit (.lift_bind hwarn ?_)
  split
  · refine .lift_bind rfl (reports_note.next fun _ => Reports.next ?_ fun _ =>
      reports_pure trivial)
    exact reports_perform_name rfl hn fun p => ⟨rfl, ⟨p, rfl⟩, _, rfl⟩
  · refine Reports.next ?_ fun _ => reports_pure trivial
    exact reports_perform_name rfl hn fun p => ⟨rfl, ⟨p, rfl⟩, _, rfl⟩

theorem reports_applyNamespaceQuota (hn : Template.Sendable n) (h : Settings.Settled m m') :
    Reports (fun _ => True) (applyNamespaceQuota (.text n) (.mapping m')) := by
  refine .lift_bind rfl ?_
  rcases h.quota_cases with ⟨habsent, _⟩ | ⟨q, q', _, hq', _⟩
  · rw [habsent.getD]
    exact reports_pure trivial
  · rw [hq']
    refine .lift_bind rfl (.lift_bind rfl ?_)
    exact .path_bind (fill_name rfl hn) fun p _ =>
      reports_written .namespaceQuota rfl (by decide) (by decide) fun _ => ⟨rfl, ⟨p, rfl⟩, _, rfl⟩

theorem reports_createRetention {className period : Value} (hn : Template.Sendable n) :
    Reports (fun _ => True) (Namespace.createRetention (.text n) className period) :=
  reports_perform_name rfl hn fun p => ⟨rfl, ⟨p, rfl⟩, _, rfl⟩

theorem reports_createClasses (hn : Template.Sendable n) (classes : Mapping) :
    Reports (fun _ => True) (createClasses (.text n) classes) := by
  induction classes with
  | nil => exact reports_pure trivial
  | cons e rest ih => exact (reports_createRetention hn).next fun _ => ih

theorem reports_createNamespace (hid : b.Named id)
    (hmerged : Settings.mergeFor parameters plan service = .ok (.mapping m))
    (hm : ∀ e ∈ m, Settings.Bounded e.2) :
    Reports (fun _ => True) (b.createNamespace id service plan parameters) := by
  obtain ⟨n, hname, hn⟩ := hid
  refine reports_note.next fun _ => Reports.reporting ?_
  refine (reports_namespaceExists ⟨n, hname, hn⟩).next fun there => ?_
  dsimp only
  split
  · exact reports_throw_bind rfl
  refine (reports_effective hmerged hm).bind ?_
  rintro _ ⟨m', rfl, hsettled⟩
  refine .lift_bind hname (reports_discovered.next fun d => ?_)
  refine .lift_bind rfl (Reports.next ?_ fun _ => ?_)
  · exact reports_written .namespaceCreate rfl (by decide) (by decide)
      fun _ => ⟨rfl, ⟨_, rfl⟩, _, rfl⟩
  obtain ⟨classes, hclasses, _⟩ := classesIn_settled hsettled
  exact (reports_applyNamespaceQuota hn hsettled).next fun _ => .lift_bind hclasses <|
    (reports_createClasses hn classes).next fun _ => reports_pure trivial

/-- A template for a namespace and a retention class is filled by names. -/
theorem fill_class {className : Value} (hn : Template.Sendable n)
    (hclass : Template.Sendable className.plain) :
    ∃ p, Namespace.retentionClass.fill [.text n, className] = .ok p := by
  refine Text.Template.fill_isOk rfl fun v hv => ?_
  rcases List.mem_pair.1 hv with rfl | rfl
  · rw [Value.plain_text]
    exact hn
  · exact hclass

/-- **Each retention class** is asked for and brought in order under a path of its own. -/
theorem reports_reconcile (hn : Template.Sendable n) {given : Value} (classes : Mapping)
    (hclasses : ∀ e ∈ classes, Template.Sendable e.1.plain) :
    Reports (fun _ => True) (reconcile given (.text n) classes (.mapping m')) := by
  induction classes generalizing m' with
  | nil => exact reports_pure trivial
  | cons e rest ih =>
    obtain ⟨hclass, hrest⟩ := List.forall_mem_cons.1 hclasses
    have hfill := fill_class hn hclass
    have hcall : ∀ {k : Value → Call}, (∀ p : Text, Ordinary (k (.text p))) →
        Reports (fun _ => True) (path Namespace.retentionClass [.text n, e.1] >>= fun p =>
          perform (k p)) := fun hk => .path_bind hfill fun p _ => reports_perform (hk p)
    have hprobe : Reports (fun _ => True) (Namespace.retentionExist (.text n) e.1) :=
      .path_bind hfill fun p _ => reports_existence ⟨rfl, ⟨p, rfl⟩, _, rfl⟩
    refine hprobe.next fun there => ?_
    dsimp only
    split
    · split
      · refine (hcall fun p => ⟨rfl, ⟨p, rfl⟩, _, rfl⟩).next fun _ => ?_
        exact .lift_bind rfl (reports_note.next fun _ => ih hrest)
      · exact ih hrest
    · split
      · exact (hcall fun p => ⟨rfl, ⟨p, rfl⟩, _, rfl⟩).next fun _ => ih hrest
      · exact (reports_createRetention hn).next fun _ => ih hrest

theorem reports_changeNamespacePlan (hid : b.Named id)
    (hmerged : Settings.mergeFor parameters plan service = .ok (.mapping m))
    (hm : ∀ e ∈ m, Settings.Bounded e.2)
    (hclasses : ∀ name i, Settings.ClassIn m name i → Template.Sendable name.plain) :
    Reports (fun _ => True) (b.changeNamespacePlan id service plan parameters) := by
  obtain ⟨n, hname, hn⟩ := hid
  refine reports_note.next fun _ => Reports.reporting (.lift_bind hname ?_)
  refine (reports_effective hmerged hm).bind ?_
  rintro _ ⟨m', rfl, hsettled⟩
  refine .lift_bind rfl (Reports.next ?_ fun _ => ?_)
  · exact .path_bind (fill_name rfl hn) fun p _ =>
      reports_written .namespaceUpdate rfl (by decide) (by decide) fun _ => ⟨rfl, ⟨p, rfl⟩, _, rfl⟩
  obtain ⟨classes, hread, hnames⟩ := classesIn_settled hsettled
  refine .lift_bind hread (reports_reconcile hn classes fun e he => ?_)
  obtain ⟨i, hi⟩ := hnames e he
  exact hclasses e.1 i hi

end Provisions

end StorageBroker.Broker
