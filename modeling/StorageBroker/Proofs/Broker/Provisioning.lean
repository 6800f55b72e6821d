import StorageBroker.Proofs.Broker.Commands
import StorageBroker.Proofs.Record
import StorageBroker.Proofs.Settings
/-!
# Checks before changes

What provisions an instance checks the parameters that the request comes to before it changes
anything. Parameters that do not pass leave the storage as it was, whichever of their values is
wrong and wherever it came from; and what is sent of those that pass are the integers that they
were read as.

* `Provision.Admits` -- the parameters that a provision lets through;
* `Change` -- the calls by which it changes something, with what they say;
* `Guarded` -- an operation that changes nothing without parameters that pass;
* `Provision.guarded` -- every provision is one;
* `provision_checks_first` -- the same for provisions carried out over a session, in every world.
-/

namespace StorageBroker.ReclaimPolicy

theorem settingOf_mapping {m : Mapping} {name : Text} {fallback : Value} :
    settingOf (.mapping m) name fallback = .ok ((Mapping.get m name).getD fallback) := by
  unfold settingOf
  split
  · rfl
  next h =>
    have hm : m = [] := by simpa [Value.truthy] using h
    rw [hm]
    rfl

/-- What the check of a policy finds is a matter of two settings. -/
theorem ofParameters_congr {m m' : Mapping} {default : Value}
    (hpolicy : Mapping.get m' Settings.reclaimPolicy = Mapping.get m Settings.reclaimPolicy)
    (hallowed : Mapping.get m' Settings.allowedReclaimPolicies =
      Mapping.get m Settings.allowedReclaimPolicies) :
    Check.ofParameters (.mapping m') default = Check.ofParameters (.mapping m) default := by
  simp only [Check.ofParameters, requested, allowed, settingOf_mapping, hpolicy, hallowed]

/-- Whether a policy is allowed is a matter of the same settings. -/
theorem isAllowed_congr {m m' : Mapping} {default : Value}
    (hpolicy : Mapping.get m' Settings.reclaimPolicy = Mapping.get m Settings.reclaimPolicy)
    (hallowed : Mapping.get m' Settings.allowedReclaimPolicies =
      Mapping.get m Settings.allowedReclaimPolicies) :
    isAllowed (.mapping m') default = isAllowed (.mapping m) default := by
  rw [isAllowed, isAllowed, ofParameters_congr hpolicy hallowed]

end StorageBroker.ReclaimPolicy

namespace StorageBroker.Broker

open Management
open Record (entry entry_ofNamed entry_plainData)
open Settings (Absent ClassIn Reads Settled SizeSent Valid)

/-! ## 1. What passes and what is sent -/

/-- Whether a provision is one of buckets. -/
def Provision.isOfBucket : Provision → Bool
  | .createBucket | .changeBucketPlan => true
  | .createNamespace | .changeNamespacePlan => false

/-- **The parameters that a provision lets through**: everything that has to be an integer is one,
and for a bucket the reclaim policy is one that they allow, by what has been discovered. -/
structure Provision.Admits (p : Provision) (d : Option Discovery) (m : Mapping) : Prop where
  valid : Valid m
  policy : p.isOfBucket → ∃ d', d = some d' ∧
    ReclaimPolicy.isAllowed (.mapping m) d'.defaultReclaimPolicy = .ok true

/-- **The calls by which a provision changes something**, for parameters as they are merged. -/
inductive Change (ns name : Value) (m : Mapping) (c : Call) : Prop where
  | bucket {r : Record} (hr : r.kind = .bucketCreate)
      (h : c = { method := "POST", path := .text "/object/bucket", body := r.plainData })
  | bucketQuota {limit warn : Value} (hlimit : SizeSent m Settings.limit (some limit))
      (hwarn : SizeSent m Settings.warn (some warn))
      (h : Filled Bucket.quota [name] (fun p =>
        { method := "PUT", path := p, body := .mapping (Mapping.ofNamed
            [("namespace", ns), ("blockSize", limit), ("notificationSize", warn)]) }) c)
  | noBucketQuota
      (h : Filled Bucket.quota [name] (fun p =>
        { method := "DELETE", path := p, accepted := removed, params := Bucket.inNamespace ns }) c)
  | bucketRetention {v : Value} {i : Int}
      (hv : Mapping.get m Settings.defaultRetention = some v) (hi : Reads v i)
      (h : Filled Bucket.retention [name] (fun p =>
        { method := "PUT", path := p, body := .mapping (Mapping.ofNamed
            [("namespace", ns), ("period", .int i)]) }) c)
  | ofNamespace {r : Record} (hr : r.kind = .namespaceCreate)
      (h : c = { method := "POST", path := .text "/object/namespaces/namespace"
                 body := r.plainData })
  | namespaceUpdate {r : Record} (hr : r.kind = .namespaceUpdate)
      (h : Filled Namespace.self [name] (fun p =>
        { method := "PUT", path := p, body := r.plainData }) c)
  | namespaceQuota {body : Value} (hlimit : SizeSent m Settings.limit (entry body "blockSize"))
      (hwarn : SizeSent m Settings.warn (entry body "notificationSize"))
      (hperiod : entry body "period" = none)
      (h : Filled Namespace.quota [name] (fun p =>
        { method := "PUT", path := p, body := body }) c)
  | createClass {className : Value} {i : Int} (hi : ClassIn m className i)
      (h : Filled Namespace.retention [name] (fun p =>
        { method := "POST", path := p,
          body := (Record.retentionClass className (.int i)).plainData }) c)
  | updateClass {className : Value} {i : Int} (hi : ClassIn m className i)
      (h : Filled Namespace.retentionClass [name, className] (fun p =>
        { method := "PUT", path := p,
          body := .mapping (Mapping.ofNamed [("period", .int i)]) }) c)
  | removeClass {className : Value} {i : Int} (hi : ClassIn m className i)
      (h : Filled Namespace.retentionClass [name, className] (fun p =>
        { method := "DELETE", path := p, accepted := removed }) c)

/-- **What a body says of sizes and periods** is what the parameters were read as. -/
structure Told (m : Mapping) (body : Value) : Prop where
  blockSize : ∀ v, entry body "blockSize" = some v → SizeSent m Settings.limit (some v)
  notificationSize : ∀ v, entry body "notificationSize" = some v →
    SizeSent m Settings.warn (some v)
  period : ∀ v, entry body "period" = some v → ∃ i, v = .int i ∧
    ((∃ w, Mapping.get m Settings.defaultRetention = some w ∧ Reads w i) ∨
      ∃ className, ClassIn m className i)

/-- A body without sizes and periods tells nothing of them. -/
theorem told_of_none {m : Mapping} {body : Value} (hlimit : entry body "blockSize" = none)
    (hwarn : entry body "notificationSize" = none) (hperiod : entry body "period" = none) :
    Told m body where
  blockSize v h := by rw [hlimit] at h; cases h
  notificationSize v h := by rw [hwarn] at h; cases h
  period v h := by rw [hperiod] at h; cases h

/-- A body with a period and without sizes. -/
theorem told_of_period {m : Mapping} {body : Value} {i : Int}
    (hlimit : entry body "blockSize" = none) (hwarn : entry body "notificationSize" = none)
    (hperiod : entry body "period" = some (.int i))
    (hi : (∃ w, Mapping.get m Settings.defaultRetention = some w ∧ Reads w i) ∨
      ∃ className, ClassIn m className i) : Told m body where
  blockSize v h := by rw [hlimit] at h; cases h
  notificationSize v h := by rw [hwarn] at h; cases h
  period v h := by rw [hperiod] at h; cases h; exact ⟨i, rfl, hi⟩

/-- The body of a record has no entries but its fields. -/
theorem told_plainData {m : Mapping} {r : Record}
    (h : ∀ name ∈ (["blockSize", "notificationSize", "period"] : List Text), name ∉ r.kind.fields) :
    Told m r.plainData := by
  have hnone : ∀ name ∈ (["blockSize", "notificationSize", "period"] : List Text),
      entry r.plainData name = none :=
    fun name hname => Record.get_setEntries_of_not_mem (h name hname)
  exact told_of_none (hnone _ (by simp)) (hnone _ (by simp)) (hnone _ (by simp))

theorem Change.told {ns name : Value} {m : Mapping} {c : Call} (h : Change ns name m c) :
    Told m c.body := by
  cases h with
  | bucket hr h =>
    subst h
    exact told_plainData (by rw [hr]; decide)
  | bucketQuota hlimit hwarn h =>
    obtain ⟨p, _, rfl⟩ := h
    exact {
      blockSize := fun v hv => by simp [entry_ofNamed] at hv; exact hv ▸ hlimit
      notificationSize := fun v hv => by simp [entry_ofNamed] at hv; exact hv ▸ hwarn
      period := fun v hv => by simp [entry_ofNamed] at hv }
  | noBucketQuota h =>
    obtain ⟨p, _, rfl⟩ := h
    exact told_of_none rfl rfl rfl
  | bucketRetention hv hi h =>
    obtain ⟨p, _, rfl⟩ := h
    exact told_of_period (by simp [entry_ofNamed]) (by simp [entry_ofNamed])
      (by simp [entry_ofNamed]) (.inl ⟨_, hv, hi⟩)
  | ofNamespace hr h =>
    subst h
    exact told_plainData (by rw [hr]; decide)
  | namespaceUpdate hr h =>
    obtain ⟨p, _, rfl⟩ := h
    exact told_plainData (by rw [hr]; decide)
  | namespaceQuota hlimit hwarn hperiod h =>
    obtain ⟨p, _, rfl⟩ := h
    exact {
      blockSize := fun v hv => hv ▸ hlimit
      notificationSize := fun v hv => hv ▸ hwarn
      period := fun v hv => by rw [hperiod] at hv; cases hv }
  | createClass hi h =>
    obtain ⟨p, _, rfl⟩ := h
    exact told_of_period (by rw [entry_plainData]; rfl) (by rw [entry_plainData]; rfl)
      (by rw [entry_plainData]; rfl) (.inr ⟨_, hi⟩)
  | updateClass hi h =>
    obtain ⟨p, _, rfl⟩ := h
    exact told_of_period (by simp [entry_ofNamed]) (by simp [entry_ofNamed])
      (by simp [entry_ofNamed]) (.inr ⟨_, hi⟩)
  | removeClass hi h =>
    obtain ⟨p, _, rfl⟩ := h
    exact told_of_none rfl rfl rfl

/-! ## 2. Operations behind a check -/

section Check

variable {α β : Type} {d : Option Discovery} {A : Mapping → Prop} {Q : Mapping → Call → Prop}

/-- A preparation: it makes no calls but probes, keeps what has been discovered, and what it gives
is as expected. -/
def Prepares (d : Option Discovery) (P : α → Prop) (x : Operation α) : Prop :=
  ∀ s es r s', s.discovery = d → x.Course s es r s' →
    (∀ e ∈ es, ∃ c a, e = called c a ∧ IsProbe c) ∧ s'.discovery = d ∧ ∀ a, r = .ok a → P a

/-- **An operation that changes nothing without parameters that pass**: its calls are probes, or
changes for such parameters, and it fails if there are none. -/
def Guarded (d : Option Discovery) (A : Mapping → Prop) (Q : Mapping → Call → Prop)
    (x : Operation α) : Prop :=
  ∀ s es r s', s.discovery = d → x.Course s es r s' →
    (∀ e ∈ es, ∃ c a, e = called c a ∧ (IsProbe c ∨ ∃ m, A m ∧ Q m c)) ∧
      ((∀ m, ¬ A m) → ∃ f, r = .error f)

/-- **What comes behind a preparation** may use what it gives. -/
theorem Prepares.bind {P : β → Prop} {x : Operation β} {f : β → Operation α}
    (hx : Prepares d P x) (hf : ∀ b, P b → Guarded d A Q (f b)) : Guarded d A Q (x >>= f) := by
  intro s es r s' hs h
  obtain ⟨e, hfirst, rfl⟩ | ⟨es₁, b, s₁, es₂, hfirst, hnext, rfl⟩ := Action.course_bind.1 h
  · obtain ⟨hprobes, _, _⟩ := hx _ _ _ _ hs hfirst
    refine ⟨fun e he => ?_, fun _ => ⟨e, rfl⟩⟩
    obtain ⟨c, a, hc, hprobe⟩ := hprobes e he
    exact ⟨c, a, hc, .inl hprobe⟩
  · obtain ⟨hprobes, hs₁, hb⟩ := hx _ _ _ _ hs hfirst
    obtain ⟨hcalls, hfails⟩ := hf b (hb b rfl) _ _ _ _ hs₁ hnext
    refine ⟨fun e he => ?_, hfails⟩
    rcases List.mem_append.1 he with he | he
    · obtain ⟨c, a, hc, hprobe⟩ := hprobes e he
      exact ⟨c, a, hc, .inl hprobe⟩
    · exact hcalls e he

theorem guarded_throw_bind {f : Fault} {k : β → Operation α} :
    Guarded d A Q (throw f >>= k : Operation α) := by
  intro s es r s' _ h
  obtain ⟨e, hthrow, rfl⟩ | ⟨_, _, _, _, hthrow, _⟩ := Action.course_bind.1 h
  · obtain ⟨rfl, _, _⟩ := Action.course_throw.1 hthrow
    exact ⟨fun e he => absurd he List.not_mem_nil, fun _ => ⟨e, rfl⟩⟩
  · cases (Action.course_throw.1 hthrow).2.1

theorem Guarded.mapFault {x : Operation α} {g : Fault → Fault} (hx : Guarded d A Q x) :
    Guarded d A Q (x.mapFault g) := by
  intro s es r s' hs h
  obtain ⟨r', hinner, rfl⟩ := Action.course_mapFault.1 h
  obtain ⟨hcalls, hfails⟩ := hx _ _ _ _ hs hinner
  refine ⟨hcalls, fun hA => ?_⟩
  obtain ⟨f, rfl⟩ := hfails hA
  exact ⟨g f, rfl⟩

/-- With parameters that pass all calls may be changes. -/
theorem guarded_of_asks {m : Mapping} {x : Operation α} (hA : A m)
    (h : Asks (fun c => IsProbe c ∨ Q m c) x) : Guarded d A Q x := by
  intro s es r s' _ hcourse
  refine ⟨fun e he => ?_, fun hnone => absurd hA (hnone m)⟩
  obtain ⟨c, a, hc, hprobe | hQ⟩ := h _ _ _ _ hcourse e he
  · exact ⟨c, a, hc, .inl hprobe⟩
  · exact ⟨c, a, hc, .inr ⟨m, hA, hQ⟩⟩

end Check

/-! ## 3. Preparations -/

section Prepared

variable {α β : Type} {d : Option Discovery} {P : α → Prop} {P' : β → Prop}

/-- What makes no call at all. -/
theorem prepares_of_nil {x : Operation α}
    (h : ∀ s es r s', s.discovery = d → x.Course s es r s' →
      es = [] ∧ s'.discovery = d ∧ ∀ a, r = .ok a → P a) : Prepares d P x := by
  intro s es r s' hs hcourse
  obtain ⟨rfl, hs', ha⟩ := h _ _ _ _ hs hcourse
  exact ⟨fun e he => absurd he List.not_mem_nil, hs', ha⟩

theorem prepares_pure {a : α} (h : P a) : Prepares d P (pure a) := by
  refine prepares_of_nil fun s es r s' hs hcourse => ?_
  obtain ⟨rfl, rfl, rfl⟩ := Action.course_pure.1 hcourse
  exact ⟨rfl, hs, fun a' ha' => by cases ha'; exact h⟩

theorem prepares_throw {f : Fault} : Prepares d P (throw f) := by
  refine prepares_of_nil fun s es r s' hs hcourse => ?_
  obtain ⟨rfl, rfl, rfl⟩ := Action.course_throw.1 hcourse
  exact ⟨rfl, hs, fun a ha => by cases ha⟩

theorem Prepares.andThen {x : Operation α} {f : α → Operation β} (hx : Prepares d P x)
    (hf : ∀ a, P a → Prepares d P' (f a)) : Prepares d P' (x >>= f) := by
  intro s es r s' hs h
  obtain ⟨e, hfirst, rfl⟩ | ⟨es₁, a, s₁, es₂, hfirst, hnext, rfl⟩ := Action.course_bind.1 h
  · obtain ⟨hprobes, hs', _⟩ := hx _ _ _ _ hs hfirst
    exact ⟨hprobes, hs', fun b hb => by cases hb⟩
  · obtain ⟨hprobes₁, hs₁, ha⟩ := hx _ _ _ _ hs hfirst
    obtain ⟨hprobes₂, hs', hb⟩ := hf a (ha a rfl) _ _ _ _ hs₁ hnext
    refine ⟨fun e he => ?_, hs', hb⟩
    rcases List.mem_append.1 he with he | he
    · exact hprobes₁ e he
    · exact hprobes₂ e he

theorem Prepares.mapFault {x : Operation α} {g : Fault → Fault} (hx : Prepares d P x) :
    Prepares d P (x.mapFault g) := by
  intro s es r s' hs h
  obtain ⟨r', hinner, rfl⟩ := Action.course_mapFault.1 h
  obtain ⟨hprobes, hs', ha⟩ := hx _ _ _ _ hs hinner
  exact ⟨hprobes, hs', fun a h => ha a (mapError_eq_ok.1 h)⟩

theorem prepares_lift {x : Except Malformed α} :
    Prepares d (fun a => x = .ok a) (liftM x : Operation α) := by
  refine prepares_of_nil fun s es r s' hs hcourse => ?_
  obtain ⟨rfl, rfl, rfl⟩ := Action.course_lift_malformed.1 hcourse
  exact ⟨rfl, hs, fun a ha => mapError_eq_ok.1 ha⟩

theorem prepares_note {given now : Value} : Prepares d (fun _ => True) (note given now) := by
  refine prepares_of_nil fun s es r s' hs hcourse => ?_
  obtain ⟨rfl, rfl, rfl⟩ := Action.course_modify.1 hcourse
  exact ⟨rfl, hs, fun _ _ => trivial⟩

theorem prepares_probe {C : Call → Prop} {x : Operation Bool} (h : Makes C Probed x)
    (hC : ∀ c, C c → IsProbe c) : Prepares d (fun _ => True) x := by
  intro s es r s' hs hcourse
  refine ⟨(h.asks.mono hC) _ _ _ _ hcourse, ?_, fun _ _ => trivial⟩
  obtain ⟨rfl, _⟩ := h _ _ _ _ hcourse
  exact hs

end Prepared

variable (b : Broker) {d : Option Discovery}

theorem prepares_bucketExists {id : Value} : Prepares d (fun _ => True) (b.bucketExists id) :=
  .mapFault <| prepares_lift.andThen fun _ _ =>
    prepares_probe Bucket.makes_exist fun _ h => .bucket h

theorem prepares_namespaceExists {id : Value} : Prepares d (fun _ => True) (b.namespaceExists id) :=
  .mapFault <| prepares_lift.andThen fun _ _ =>
    prepares_probe Namespace.makes_exist fun _ h => .ofNamespace h

theorem prepares_discovered : Prepares d (fun d' => d = some d') discovered := by
  refine prepares_of_nil fun s es r s' hs hcourse => ?_
  rw [discovered, Action.course_get_bind, hs] at hcourse
  cases d with
  | none =>
    obtain ⟨rfl, rfl, rfl⟩ := Action.course_throw.1 hcourse
    exact ⟨rfl, hs, fun a ha => by cases ha⟩
  | some d' =>
    obtain ⟨rfl, rfl, rfl⟩ := Action.course_pure.1 hcourse
    exact ⟨rfl, hs, fun a ha => by cases ha; rfl⟩

/-- The parameters that a request comes to are merged and then settled. -/
theorem prepares_effective {given : Value} {plan : Plan} {service : ServiceDefinition} :
    Prepares d (fun v => ∃ m m', Settings.mergeFor given plan service = .ok (.mapping m) ∧
      v = .mapping m' ∧ Settled m m') (effective given plan service) := by
  refine prepares_lift.andThen fun merged hmerged => ?_
  refine prepares_note.andThen fun _ _ => prepares_note.andThen fun _ _ => ?_
  cases hfault : (Settings.check merged).fault with
  | some f => exact prepares_throw
  | none =>
    refine prepares_pure ?_
    cases merged with
    | mapping m =>
      obtain ⟨m', hm', hsettled⟩ := Settings.check_passed hfault
      exact ⟨m, m', hmerged, hm', hsettled⟩
    | _ => cases hfault

theorem prepares_checkPolicy {parameters : Value} :
    Prepares d (fun _ => ∃ d', d = some d' ∧
      ReclaimPolicy.isAllowed parameters d'.defaultReclaimPolicy = .ok true)
      (checkPolicy parameters) := by
  refine prepares_discovered.andThen fun d' hd' => prepares_lift.andThen fun c hc => ?_
  cases hfailure : c.failure with
  | some f => exact prepares_throw
  | none =>
    refine prepares_pure ⟨d', hd', ?_⟩
    rw [ReclaimPolicy.isAllowed, hc]
    show Except.ok c.failure.isNone = _
    rw [hfailure]
    rfl

/-! ## 4. Changes -/

section Changes

variable {b} {ns name : Value} {m m' : Mapping}

/-- A call of a provision whose parameters have passed. -/
def Passed (ns name : Value) (m : Mapping) (c : Call) : Prop := IsProbe c ∨ Change ns name m c

theorem kind_bucketCreate {group parameters : Value} {r : Record}
    (h : Record.bucketCreate name ns group parameters = .ok r) : r.kind = .bucketCreate := by
  simp only [Record.bucketCreate, bind_eq_ok, pure_eq_ok] at h
  obtain ⟨_, _, _, _, _, _, _, _, _, _, rfl⟩ := h
  rfl

theorem kind_namespaceCreate {group parameters : Value} {r : Record}
    (h : Record.namespaceCreate name group parameters = .ok r) : r.kind = .namespaceCreate := by
  simp only [Record.namespaceCreate, bind_eq_ok, pure_eq_ok] at h
  obtain ⟨_, _, rfl⟩ := h
  rfl

theorem kind_namespaceUpdate {parameters : Value} {r : Record}
    (h : Record.namespaceUpdate parameters = .ok r) : r.kind = .namespaceUpdate := by
  simp only [Record.namespaceUpdate, bind_eq_ok, pure_eq_ok] at h
  obtain ⟨_, _, rfl⟩ := h
  rfl

theorem get_mapping {x : Text} {v : Value} (h : (Value.mapping m).get x = .ok v) :
    v = (Mapping.get m x).getD .null := by
  cases h
  rfl

/-- A value that is left out where it is nothing. -/
theorem getD_filter_isNull {v : Value} :
    ((some v).filter fun v => !v.isNull).getD .null = v := by
  by_cases hv : v.isNull
  · obtain rfl := Value.isNull_iff.1 hv
    rfl
  · rw [Option.filter_some, Bool.eq_false_iff.2 hv]
    rfl

theorem asks_discovered {P : Call → Prop} : Asks P discovered := by
  refine .get_bind fun s => ?_
  split
  · exact asks_pure
  · exact asks_throw

theorem orElse_mapping : (Value.mapping m).orElse (.mapping []) = .mapping m := by
  cases m with
  | nil => rfl
  | cons e m => rfl

/-- A size of the quota that replaces the one of a bucket. -/
theorem sizeSent_of_sizeOf {size : Text} {v : Value} (h : Settled m m')
    (hsize : size = Settings.limit ∨ size = Settings.warn)
    (hv : sizeOf (.mapping m') size = .ok v) : SizeSent m size (some v) := by
  obtain ⟨quota, hquota, hv⟩ := bind_eq_ok.1 hv
  obtain rfl := get_mapping hquota
  obtain ⟨x, hx, hv⟩ := bind_eq_ok.1 hv
  obtain rfl := pure_eq_ok.1 hv
  rcases h.quota_cases with ⟨habsent, hnone⟩ | ⟨q, q', hq, hq', hsizes⟩
  · rw [habsent.getD] at hx
    cases hx
    exact .unset (hnone size) (.inr rfl)
  -- A size that is not set is sent as `unset`; one that is set is what the check has made of it.
  rw [hq', Option.getD_some, orElse_mapping] at hx
  have hsent : SizeSent m size (some x) :=
    Settings.sizeSent_of_replaced hq (hsizes size hsize) (get_mapping hx)
  by_cases hnull : x.isNull
  · rw [if_pos hnull]
    obtain rfl := Value.isNull_iff.1 hnull
    cases hsent with
    | unset hnone _ => exact .unset hnone (.inr rfl)
  · rw [if_neg hnull]
    exact hsent

/-- The quota of a new bucket. -/
theorem asks_applyBucketQuota (h : Settled m m') :
    Asks (Passed b.home name m) (b.applyBucketQuota name (.mapping m')) := by
  refine .lift_bind fun quota hquota => ?_
  obtain rfl := get_mapping hquota
  rcases h.quota_cases with ⟨habsent, _⟩ | ⟨q, q', hq, hq', hsizes⟩
  · rw [habsent.getD]
    exact asks_pure
  · rw [hq']
    refine .lift_bind fun limit hlimit => .lift_bind fun warn hwarn => ?_
    refine Bucket.makes_createQuota.asks.mono fun c hc => .inr (.bucketQuota ?_ ?_ hc)
    · exact Settings.sizeSent_of_replaced hq (hsizes _ (.inl rfl)) (get_mapping hlimit)
    · exact Settings.sizeSent_of_replaced hq (hsizes _ (.inr rfl)) (get_mapping hwarn)

/-- The retention of a new bucket. -/
theorem asks_applyBucketRetention (h : Settled m m') :
    Asks (Passed b.home name m) (b.applyBucketRetention name (.mapping m')) := by
  refine .lift_bind fun period hperiod => ?_
  obtain rfl := get_mapping hperiod
  rcases h.default_cases with habsent | ⟨v, i, hv, hi, hset⟩
  · rw [habsent.getD]
    exact asks_pure
  · rw [hset]
    exact Bucket.makes_updateRetention.asks.mono fun c hc => .inr (.bucketRetention hv hi hc)

/-- The quota of a new namespace; what is not set is left out of it. -/
theorem asks_applyNamespaceQuota (h : Settled m m') :
    Asks (Passed ns name m) (applyNamespaceQuota name (.mapping m')) := by
  refine .lift_bind fun quota hquota => ?_
  obtain rfl := get_mapping hquota
  rcases h.quota_cases with ⟨habsent, _⟩ | ⟨q, q', hq, hq', hsizes⟩
  · rw [habsent.getD]
    exact asks_pure
  · rw [hq']
    refine .lift_bind fun limit hlimit => .lift_bind fun warn hwarn => ?_
    refine Namespace.makes_createQuota.asks.mono fun c hc => .inr ?_
    obtain ⟨p, body, hp, hbody, rfl⟩ := hc
    have hkind : (Record.namespaceQuota name limit warn).kind = .namespaceQuota := rfl
    rw [Record.bodyOf_toValue hkind (by decide) (by decide)] at hbody
    cases hbody
    refine .namespaceQuota ?_ ?_ ?_ ⟨p, hp, rfl⟩
    · refine Settings.sizeSent_of_replaced hq (hsizes _ (.inl rfl)) ?_
      rw [entry_plainData, ← get_mapping hlimit]
      exact getD_filter_isNull
    · refine Settings.sizeSent_of_replaced hq (hsizes _ (.inr rfl)) ?_
      rw [entry_plainData, ← get_mapping hwarn]
      exact getD_filter_isNull
    · exact Record.get_setEntries_of_not_mem (by rw [hkind]; decide)

/-- The retention classes of a new namespace. -/
theorem asks_createClasses {classes : Mapping}
    (h : ∀ e ∈ classes, ∃ i, ClassIn m e.1 i ∧ e.2 = .int i) :
    Asks (Passed ns name m) (createClasses name classes) := by
  induction classes with
  | nil => exact asks_pure
  | cons e rest ih =>
    obtain ⟨className, period⟩ := e
    rw [List.forall_mem_cons] at h
    obtain ⟨⟨i, hi, hperiod⟩, hrest⟩ := h
    obtain rfl : period = .int i := hperiod
    refine Asks.bind ?_ fun _ => ih hrest
    exact Namespace.makes_createRetention.asks.mono fun c hc => .inr (.createClass hi hc)

/-- **The retention classes in settled parameters**, in their order. -/
def classesWithin (m : Mapping) : Mapping :=
  match Mapping.get m Settings.retention with
  | some (.mapping classes) => classes
  | _ => []

/-- The retention classes that a provision goes through. -/
theorem classesIn_eq (h : Settled m m') :
    classesIn (.mapping m') = .ok (classesWithin m') := by
  refine bind_eq_ok.2 ⟨_, rfl, ?_⟩
  unfold classesWithin
  rcases h.retention_cases with (hnone | hnull) | ⟨classes, hclasses, _⟩
  · rw [hnone]
    rfl
  · rw [hnull]
    rfl
  · rw [hclasses, Option.getD_some, orElse_mapping]
    rfl

/-- The classes that a provision goes through are those that were given. -/
theorem mem_classesIn {classes : Mapping} (h : Settled m m')
    (hclasses : classesIn (.mapping m') = .ok classes) :
    ∀ e ∈ classes, ∃ i, ClassIn m e.1 i ∧ e.2 = .int i := by
  obtain ⟨v, hv, hclasses⟩ := bind_eq_ok.1 hclasses
  obtain rfl := get_mapping hv
  rcases h.retention_cases with habsent | ⟨cs, hcs, hall⟩
  · rw [habsent.getD] at hclasses
    cases hclasses
    exact fun e he => absurd he List.not_mem_nil
  · rw [hcs, Option.getD_some, orElse_mapping] at hclasses
    cases hclasses
    exact hall

/-- The retention classes of a namespace whose plan changes. -/
theorem asks_reconcile {given effective : Value} {classes : Mapping}
    (h : ∀ e ∈ classes, ∃ i, ClassIn m e.1 i ∧ e.2 = .int i) :
    Asks (Passed ns name m) (reconcile given name classes effective) := by
  -- What is carried along of the parameters has no part in the calls.
  induction classes generalizing effective with
  | nil => exact asks_pure
  | cons e rest ih =>
    obtain ⟨className, period⟩ := e
    rw [List.forall_mem_cons] at h
    obtain ⟨⟨i, hi, hperiod⟩, hrest⟩ := h
    obtain rfl : period = .int i := hperiod
    refine Asks.bind ?_ fun there => ?_
    · exact Namespace.makes_retentionExist.asks.mono fun c hc => .inl (.retentionClass hc)
    split
    · split
      · refine Asks.bind ?_ fun _ => .lift_bind fun effective _ => Asks.bind asks_modify fun _ =>
          ih hrest
        exact Namespace.makes_deleteRetention.asks.mono fun c hc => .inr (.removeClass hi hc)
      · exact ih hrest
    · dsimp only
      split
      · refine Asks.bind ?_ fun _ => ih hrest
        exact Namespace.makes_updateRetention.asks.mono fun c hc => .inr (.updateClass hi hc)
      · refine Asks.bind ?_ fun _ => ih hrest
        exact Namespace.makes_createRetention.asks.mono fun c hc => .inr (.createClass hi hc)

end Changes

/-! ## 5. Provisions -/

section Provisions

variable {id parameters : Value} {service : ServiceDefinition} {plan : Plan}

/-- Merged parameters that a provision lets through. -/
def Fit (p : Provision) (d : Option Discovery) (parameters : Value) (plan : Plan)
    (service : ServiceDefinition) (m : Mapping) : Prop :=
  Settings.mergeFor parameters plan service = .ok (.mapping m) ∧ p.Admits d m

/-- The changes that a provision makes to the instance of an id. -/
def ChangeOf (b : Broker) (id : Value) (m : Mapping) (c : Call) : Prop :=
  ∃ name, b.nameOf id = .ok name ∧ Change b.home name m c

theorem asks_of_passed {α : Type} {name : Value} {m : Mapping} {x : Operation α}
    (hname : b.nameOf id = .ok name) (h : Asks (Passed b.home name m) x) :
    Asks (fun c => IsProbe c ∨ ChangeOf b id m c) x := by
  refine h.mono fun c hc => ?_
  rcases hc with hprobe | hchange
  · exact .inl hprobe
  · exact .inr ⟨name, hname, hchange⟩

/-- The policy check sees behind the settings check what it would have seen before it. -/
theorem admits_of_allowed {p : Provision} {m m' : Mapping} (h : Settled m m')
    (hpolicy : ∃ d', d = some d' ∧
      ReclaimPolicy.isAllowed (.mapping m') d'.defaultReclaimPolicy = .ok true) : p.Admits d m := by
  obtain ⟨d', hd, hallowed⟩ := hpolicy
  rw [ReclaimPolicy.isAllowed_congr (h.other _ (by decide)) (h.other _ (by decide))] at hallowed
  exact ⟨h.valid, fun _ => ⟨d', hd, hallowed⟩⟩

theorem guarded_createBucket :
    Guarded d (Fit .createBucket d parameters plan service) (ChangeOf b id)
      (b.createBucket id service plan parameters) := by
  refine prepares_note.bind fun _ _ => .mapFault <| prepares_lift.bind fun name hname => ?_
  refine b.prepares_bucketExists.bind fun there _ => ?_
  dsimp only
  split
  · exact guarded_throw_bind
  refine prepares_effective.bind fun v hv => ?_
  obtain ⟨m, m', hm, rfl, hsettled⟩ := hv
  refine prepares_checkPolicy.bind fun _ hpolicy => ?_
  -- Both checks are passed, so from here on every call may be a change.
  refine guarded_of_asks ⟨hm, admits_of_allowed hsettled hpolicy⟩ (b.asks_of_passed hname ?_)
  refine asks_discovered.bind fun d' => .lift_bind fun body hbody => ?_
  refine Asks.bind ?_ fun _ => (asks_applyBucketQuota hsettled).bind fun _ =>
    (asks_applyBucketRetention hsettled).bind fun _ => asks_pure
  refine Bucket.makes_create.asks.mono fun c hc => .inr ?_
  obtain ⟨data, hdata, hc⟩ := hc
  rw [Record.bodyOf_toValue (kind_bucketCreate hbody) (by decide) (by decide)] at hdata
  cases hdata
  exact .bucket (kind_bucketCreate hbody) hc

theorem guarded_changeBucketPlan :
    Guarded d (Fit .changeBucketPlan d parameters plan service) (ChangeOf b id)
      (b.changeBucketPlan id service plan parameters) := by
  refine prepares_note.bind fun _ _ => .mapFault <| prepares_effective.bind fun v hv => ?_
  obtain ⟨m, m', hm, rfl, hsettled⟩ := hv
  refine prepares_checkPolicy.bind fun _ hpolicy => prepares_lift.bind fun name hname => ?_
  refine guarded_of_asks ⟨hm, admits_of_allowed hsettled hpolicy⟩ (b.asks_of_passed hname ?_)
  refine .lift_bind fun limit hlimit => .lift_bind fun warn hwarn => ?_
  split
  · refine .lift_bind fun effective _ => Asks.bind asks_modify fun _ => Asks.bind ?_ fun _ =>
      asks_pure
    exact Bucket.makes_deleteQuota.asks.mono fun c hc => .inr (.noBucketQuota hc)
  · refine Asks.bind ?_ fun _ => asks_pure
    refine Bucket.makes_createQuota.asks.mono fun c hc => .inr (.bucketQuota ?_ ?_ hc)
    · exact sizeSent_of_sizeOf hsettled (.inl rfl) hlimit
    · exact sizeSent_of_sizeOf hsettled (.inr rfl) hwarn

theorem guarded_createNamespace :
    Guarded d (Fit .createNamespace d parameters plan service) (ChangeOf b id)
      (b.createNamespace id service plan parameters) := by
  refine prepares_note.bind fun _ _ => .mapFault ?_
  refine b.prepares_namespaceExists.bind fun there _ => ?_
  dsimp only
  split
  · exact guarded_throw_bind
  refine prepares_effective.bind fun v hv => prepares_lift.bind fun name hname => ?_
  obtain ⟨m, m', hm, rfl, hsettled⟩ := hv
  have hadmits : Provision.createNamespace.Admits d m := ⟨hsettled.valid, fun h => by cases h⟩
  refine guarded_of_asks ⟨hm, hadmits⟩ (b.asks_of_passed hname ?_)
  refine asks_discovered.bind fun d' => .lift_bind fun body hbody => ?_
  refine Asks.bind ?_ fun _ => (asks_applyNamespaceQuota hsettled).bind fun _ =>
    .lift_bind fun classes hclasses => (asks_createClasses (mem_classesIn hsettled hclasses)).bind
      fun _ => asks_pure
  refine Namespace.makes_create.asks.mono fun c hc => .inr ?_
  obtain ⟨data, hdata, hc⟩ := hc
  rw [Record.bodyOf_toValue (kind_namespaceCreate hbody) (by decide) (by decide)] at hdata
  cases hdata
  exact .ofNamespace (kind_namespaceCreate hbody) hc

theorem guarded_changeNamespacePlan :
    Guarded d (Fit .changeNamespacePlan d parameters plan service) (ChangeOf b id)
      (b.changeNamespacePlan id service plan parameters) := by
  refine prepares_note.bind fun _ _ => .mapFault <| prepares_lift.bind fun name hname => ?_
  refine prepares_effective.bind fun v hv => ?_
  obtain ⟨m, m', hm, rfl, hsettled⟩ := hv
  have hadmits : Provision.changeNamespacePlan.Admits d m := ⟨hsettled.valid, fun h => by cases h⟩
  refine guarded_of_asks ⟨hm, hadmits⟩ (b.asks_of_passed hname ?_)
  refine .lift_bind fun body hbody => Asks.bind ?_ fun _ => .lift_bind fun classes hclasses =>
    asks_reconcile (mem_classesIn hsettled hclasses)
  refine Namespace.makes_update.asks.mono fun c hc => .inr ?_
  obtain ⟨p, data, hp, hdata, rfl⟩ := hc
  rw [Record.bodyOf_toValue (kind_namespaceUpdate hbody) (by decide) (by decide)] at hdata
  cases hdata
  exact .namespaceUpdate (kind_namespaceUpdate hbody) ⟨p, hp, rfl⟩

/-- **No provision changes anything without parameters that pass.** -/
theorem Provision.guarded (p : Provision) :
    Guarded d (Fit p d parameters plan service) (ChangeOf b id)
      (p.perform b id service plan parameters) := by
  cases p with
  | createBucket => exact b.guarded_createBucket
  | changeBucketPlan => exact b.guarded_changeBucketPlan
  | createNamespace => exact b.guarded_createNamespace
  | changeNamespacePlan => exact b.guarded_changeNamespacePlan

end Provisions

/-! ## 6. Over a session -/

/-- A request that changes something. -/
def IsChange (e : Dialogue.Event Wire) : Prop :=
  ∃ q x, e = Session.sent q x ∧ (q.method = "POST" ∨ q.method = "PUT" ∨ q.method = "DELETE")

/-- The requests that belong to a probe change nothing. -/
theorem not_isChange_of_isProbe {s : Session} {c : Call} {e : Dialogue.Event Wire} (hc : IsProbe c)
    (h : Session.RequestOf s c e) : ¬ IsChange e := by
  rintro ⟨q, x, he, hq⟩
  have hget : q.method = "GET" := by
    cases h with
    | login _ => cases he; rfl
    | call _ => cases he; exact hc.method.1
    | pause => cases he
    | random => cases he
  rw [hget] at hq
  rcases hq with h | h | h
  · exact absurd (Value.text.inj h) (by decide)
  · exact absurd (Value.text.inj h) (by decide)
  · exact absurd (Value.text.inj h) (by decide)

variable {σ : Type} (w : Dialogue.World Wire σ) (st : σ) (s : Session)

/-- **Nothing is changed before the parameters have been checked.** A request that changes something
is sent only if the merged parameters pass; what is sent then is made of the integers that they
were read as. Where they do not pass the provision fails, and has sent nothing but logins and
questions whether something exists. -/
theorem provision_checks_first (p : Provision) (id parameters : Value)
    (service : ServiceDefinition) (plan : Plan) (bs : State) :
    let o := Dialogue.run w
      (Session.carryOut ((p.perform b id service plan parameters).run bs) s) st
    let Fits := Fit p bs.discovery parameters plan service
    (∀ e ∈ o.events, IsChange e → ∃ m, Fits m) ∧
      (∀ e ∈ o.events, ∃ c, Session.RequestOf s c e ∧
        (IsProbe c ∨ ∃ m, Fits m ∧ ChangeOf b id m c ∧ Told m c.body)) ∧
      ((∀ m, ¬ Fits m) → (∃ f, o.result.1.1 = .error f) ∧
        ∀ e ∈ o.events, ∃ c, IsProbe c ∧ Session.RequestOf s c e) := by
  intro o Fits
  have hcourse := Action.course_iff.1
    (Session.course_carryOut w ((p.perform b id service plan parameters).run bs) s st)
  obtain ⟨hcalls, hfails⟩ := p.guarded b (d := bs.discovery) _ _ _ _ rfl hcourse
  have hevents : ∀ e ∈ o.events, ∃ c, Session.RequestOf s c e ∧
      (IsProbe c ∨ ∃ m, Fits m ∧ ChangeOf b id m c ∧ Told m c.body) := by
    intro e he
    obtain ⟨c, hrequest, hc⟩ := Session.events_of_calls w _ s st hcalls e he
    refine ⟨c, hrequest, ?_⟩
    rcases hc with hprobe | ⟨m, hfits, hchange⟩
    · exact .inl hprobe
    · obtain ⟨name, hname, hchange⟩ := hchange
      exact .inr ⟨m, hfits, ⟨name, hname, hchange⟩, hchange.told⟩
  refine ⟨fun e he hchange => ?_, hevents, fun hnone => ⟨hfails hnone, fun e he => ?_⟩⟩
  · obtain ⟨c, hrequest, hprobe | ⟨m, hfits, _⟩⟩ := hevents e he
    · exact absurd hchange (not_isChange_of_isProbe hprobe hrequest)
    · exact ⟨m, hfits⟩
  · obtain ⟨c, hrequest, hprobe | ⟨m, hfits, _⟩⟩ := hevents e he
    · exact ⟨c, hprobe, hrequest⟩
    · exact absurd hfits (hnone m)

end StorageBroker.Broker
