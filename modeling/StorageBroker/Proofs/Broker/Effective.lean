import StorageBroker.Proofs.Broker.Life
import StorageBroker.Proofs.Broker.Provisioning
import StorageBroker.Proofs.Management.Instance
import StorageBroker.Proofs.Management.Sequence
import StorageBroker.Proofs.Settings.Stability
/-!
# What effective parameters ask for

Once the parameters of a request have passed the check, everything that is done for them is settled:
which calls are made, in which order and with which bodies, can be read off them.

* `EffectiveFor` -- the merged parameters of a request, and what the check makes of them;
* `course_effective_bind`, `course_checkPolicy_bind` -- what comes behind the two checks, and when
  nothing does;
* `quotaIn`, `periodIn` -- what settled parameters ask for;
* `performs_applyBucketQuota` and the like -- the calls that are made for it.
-/

namespace StorageBroker.Broker

open Management
open Settings (Settled Valid)
open Text (Template.Sendable)

/-! ## 1. Behind the checks -/

/-- **The effective parameters of a request**: those that were merged, and what the check has made
of them. -/
structure EffectiveFor (given : Value) (plan : Plan) (service : ServiceDefinition)
    (m m' : Mapping) : Prop where
  merged : Settings.mergeFor given plan service = .ok (.mapping m)
  checked : Settings.check (.mapping m) = ⟨.mapping m', none⟩

/-- What a mapping has under a name can always be asked for. -/
theorem get_eq (m : Mapping) (name : Text) :
    (Value.mapping m).get name = .ok ((Mapping.get m name).getD .null) := rfl

section Checks

variable {α : Type} {s s' : State} {es : List (Dialogue.Event Remote)} {r : Except Fault α}
  {given : Value} {plan : Plan} {service : ServiceDefinition}

theorem EffectiveFor.settles {m m' : Mapping} (h : EffectiveFor given plan service m m') :
    Settings.Settles m m' := Settings.settles_of_check h.checked

theorem EffectiveFor.settled {m m' : Mapping} (h : EffectiveFor given plan service m m') :
    Settled m m' := h.settles.toSettled

/-- Valid parameters have effective ones. -/
theorem effective_of_valid {m : Mapping}
    (hmerge : Settings.mergeFor given plan service = .ok (.mapping m)) (hvalid : Valid m) :
    ∃ m', EffectiveFor given plan service m m' := by
  have hfault := Settings.fault_check_eq_none_iff.2 hvalid
  obtain ⟨m', hm', _⟩ := Settings.check_passed hfault
  refine ⟨m', hmerge, ?_⟩
  rw [← hm', ← hfault]

theorem course_effective {r : Except Fault Value}
    (h : (effective given plan service).Course s es r s') :
    es = [] ∧ s'.discovery = s.discovery ∧
      ((∃ e, r = .error e ∧
          ∀ m, Settings.mergeFor given plan service = .ok (.mapping m) → ¬ Valid m) ∨
        ∃ m m', EffectiveFor given plan service m m' ∧ r = .ok (.mapping m')) := by
  obtain ⟨x, hx, rfl, rfl, rfl⟩ | ⟨merged, hmerged, h⟩ := Action.course_lift_malformed_bind.1 h
  · refine ⟨rfl, rfl, .inl ⟨_, rfl, fun m hm => ?_⟩⟩
    rw [hm] at hx
    cases hx
  replace h := Action.course_modify_bind.1 (Action.course_modify_bind.1 h)
  cases hfault : (Settings.check merged).fault with
  | some f =>
    simp only [hfault] at h
    obtain ⟨rfl, rfl, rfl⟩ := Action.course_throw.1 h
    refine ⟨rfl, rfl, .inl ⟨f, rfl, fun m hm hvalid => ?_⟩⟩
    rw [hmerged] at hm
    cases hm
    rw [Settings.fault_check_eq_none_iff.2 hvalid] at hfault
    cases hfault
  | none =>
    simp only [hfault] at h
    obtain ⟨rfl, rfl, rfl⟩ := Action.course_pure.1 h
    cases merged with
    | mapping m =>
      obtain ⟨m', heffective⟩ :=
        effective_of_valid hmerged (Settings.fault_check_eq_none_iff.1 hfault)
      refine ⟨rfl, rfl, .inr ⟨m, m', heffective, ?_⟩⟩
      rw [heffective.checked]
    | _ => cases hfault

/-- **What needs the effective parameters** goes on with the checked ones if the merged parameters
are valid, and otherwise does not begin. -/
theorem course_effective_bind {f : Value → Operation α}
    (h : (effective given plan service >>= f).Course s es r s') :
    (es = [] ∧ (∃ e, r = .error e) ∧
      ∀ m, Settings.mergeFor given plan service = .ok (.mapping m) → ¬ Valid m) ∨
    ∃ m m' s₁, EffectiveFor given plan service m m' ∧ s₁.discovery = s.discovery ∧
      (f (.mapping m')).Course s₁ es r s' := by
  obtain ⟨e, hfirst, rfl⟩ | ⟨es₁, v, s₁, es₂, hfirst, hnext, rfl⟩ := Action.course_bind.1 h
  · obtain ⟨rfl, _, ⟨_, _, hinvalid⟩ | ⟨m, m', _, hr⟩⟩ := course_effective hfirst
    · exact .inl ⟨rfl, ⟨e, rfl⟩, hinvalid⟩
    · cases hr
  · obtain ⟨rfl, hs₁, ⟨_, hr, _⟩ | ⟨m, m', heffective, hr⟩⟩ := course_effective hfirst
    · cases hr
    · cases hr
      exact .inr ⟨m, m', s₁, heffective, hs₁, hnext⟩

/-- What needs to have discovered something does not begin without. -/
theorem course_undiscovered_bind {f : Discovery → Operation α} (hd : s.discovery = none)
    (h : (discovered >>= f).Course s es r s') : es = [] ∧ s' = s ∧ ∃ e, r = .error e := by
  have hthrow : ∀ {es r s'}, discovered.Course s es r s' →
      es = [] ∧ s' = s ∧ ∃ e, r = .error e := by
    intro es r s' hcourse
    rw [discovered, Action.course_get_bind, hd] at hcourse
    obtain ⟨rfl, rfl, rfl⟩ := Action.course_throw.1 hcourse
    exact ⟨rfl, rfl, _, rfl⟩
  obtain ⟨e, hfirst, rfl⟩ | ⟨_, _, _, _, hfirst, _⟩ := Action.course_bind.1 h
  · obtain ⟨rfl, rfl, _⟩ := hthrow hfirst
    exact ⟨rfl, rfl, e, rfl⟩
  · obtain ⟨_, _, _, hr⟩ := hthrow hfirst
    cases hr

variable {v : Value}

theorem course_checkPolicy {r : Except Fault Unit} (h : (checkPolicy v).Course s es r s') :
    es = [] ∧ s' = s ∧
      ((∃ e, r = .error e ∧ ∀ d, s.discovery = some d →
          ReclaimPolicy.isAllowed v d.defaultReclaimPolicy ≠ .ok true) ∨
        ∃ d, s.discovery = some d ∧
          ReclaimPolicy.isAllowed v d.defaultReclaimPolicy = .ok true ∧ r = .ok ()) := by
  cases hd : s.discovery with
  | none =>
    obtain ⟨rfl, rfl, e, rfl⟩ := course_undiscovered_bind hd h
    exact ⟨rfl, rfl, .inl ⟨e, rfl, nofun⟩⟩
  | some d =>
    obtain ⟨x, hx, rfl, rfl, rfl⟩ | ⟨c, hc, h⟩ :=
      Action.course_lift_malformed_bind.1 (course_discovered_bind hd h)
    · refine ⟨rfl, rfl, .inl ⟨_, rfl, fun d' hd' hallowed => ?_⟩⟩
      cases hd'
      rw [ReclaimPolicy.isAllowed, hx] at hallowed
      cases hallowed
    have hallowed : ReclaimPolicy.isAllowed v d.defaultReclaimPolicy = .ok c.failure.isNone := by
      rw [ReclaimPolicy.isAllowed, hc]
      rfl
    cases hfailure : c.failure with
    | some g =>
      rw [hfailure] at hallowed
      simp only [hfailure] at h
      obtain ⟨rfl, rfl, rfl⟩ := Action.course_throw.1 h
      refine ⟨rfl, rfl, .inl ⟨_, rfl, fun d' hd' hok => ?_⟩⟩
      cases hd'
      rw [hallowed] at hok
      cases hok
    | none =>
      rw [hfailure] at hallowed
      simp only [hfailure] at h
      obtain ⟨rfl, rfl, rfl⟩ := Action.course_pure.1 h
      exact ⟨rfl, rfl, .inr ⟨d, rfl, hallowed, rfl⟩⟩

/-- **What needs an allowed policy** goes on if there is one, and otherwise does not begin. -/
theorem course_checkPolicy_bind {f : Unit → Operation α}
    (h : (checkPolicy v >>= f).Course s es r s') :
    (es = [] ∧ (∃ e, r = .error e) ∧ ∀ d, s.discovery = some d →
      ReclaimPolicy.isAllowed v d.defaultReclaimPolicy ≠ .ok true) ∨
    ∃ d, s.discovery = some d ∧ ReclaimPolicy.isAllowed v d.defaultReclaimPolicy = .ok true ∧
      (f ()).Course s es r s' := by
  obtain ⟨e, hfirst, rfl⟩ | ⟨es₁, _, s₁, es₂, hfirst, hnext, rfl⟩ := Action.course_bind.1 h
  · obtain ⟨rfl, _, ⟨_, _, hnot⟩ | ⟨d, _, _, hr⟩⟩ := course_checkPolicy hfirst
    · exact .inl ⟨rfl, ⟨e, rfl⟩, hnot⟩
    · cases hr
  · obtain ⟨rfl, rfl, ⟨_, hr, _⟩ | ⟨d, hd, hallowed, _⟩⟩ := course_checkPolicy hfirst
    · cases hr
    · exact .inr ⟨d, hd, hallowed, hnext⟩

/-- The policy that settled parameters ask for is allowed where that of the merged ones is. -/
theorem allowed_of_admits {p : Provision} {d : Option Discovery} {m m' : Mapping}
    (h : Settled m m') (hp : p.isOfBucket) (hadmits : p.Admits d m) :
    ∃ d', d = some d' ∧
      ReclaimPolicy.isAllowed (.mapping m') d'.defaultReclaimPolicy = .ok true := by
  obtain ⟨d', hd, hallowed⟩ := hadmits.policy hp
  rw [← ReclaimPolicy.isAllowed_congr (h.other _ (by decide)) (h.other _ (by decide))] at hallowed
  exact ⟨d', hd, hallowed⟩

end Checks

/-! ## 2. What is asked for -/

section Asked

variable {m m' : Mapping}

/-- **The sizes of the quota in settled parameters**, if they have a quota. -/
def quotaIn (m : Mapping) : Option (Value × Value) :=
  match Mapping.get m Settings.quota with
  | some (.mapping q) =>
    some ((Mapping.get q Settings.limit).getD .null, (Mapping.get q Settings.warn).getD .null)
  | _ => none

/-- **The default retention in settled parameters**, if they have one. -/
def periodIn (m : Mapping) : Option Value :=
  (Mapping.get m Settings.defaultRetention).filter fun v => !v.isNull

/-- **A quota is asked for where one has been merged.** -/
theorem quotaIn_eq_none_iff (h : Settled m m') :
    quotaIn m' = none ↔ Settings.Absent (Mapping.get m Settings.quota) := by
  have hquota := h.quota
  unfold quotaIn
  generalize Mapping.get m Settings.quota = a, Mapping.get m' Settings.quota = a' at hquota
  cases hquota with
  | missing => exact ⟨fun _ => .inl rfl, fun _ => rfl⟩
  | null => exact ⟨fun _ => .inr rfl, fun _ => rfl⟩
  | read hv hcheck =>
    obtain ⟨q, q', rfl, rfl, _⟩ := Settings.checkQuota_eq_ok hcheck
    constructor
    · intro hnone
      cases hnone
    · rintro (hnone | hnull)
      · cases hnone
      · cases hnull

/-- **A default retention is asked for where one has been merged.** -/
theorem periodIn_eq_none_iff (h : Settled m m') :
    periodIn m' = none ↔ Settings.Absent (Mapping.get m Settings.defaultRetention) := by
  have hperiod := h.defaultRetention
  unfold periodIn
  generalize Mapping.get m Settings.defaultRetention = a,
    Mapping.get m' Settings.defaultRetention = a' at hperiod
  cases hperiod with
  | missing => exact ⟨fun _ => .inl rfl, fun _ => rfl⟩
  | null => exact ⟨fun _ => .inr rfl, fun _ => rfl⟩
  | read hv hcheck =>
    obtain ⟨i, _, rfl⟩ := Settings.checkInteger_eq_ok.1 hcheck
    constructor
    · intro hnone
      cases hnone
    · rintro (hnone | hnull)
      · cases hnone
      · cases hnull
        cases hv

end Asked

variable (b : Broker)

/-- **What has no name on the storage** that could stand in an address. -/
def Unnamable (id : Value) : Prop :=
  ∀ name, b.nameOf id = .ok name → ¬ Template.Sendable name.plain

section Names

variable {b} {id name : Value} {e : Malformed}

theorem unnamable_of_error (h : b.nameOf id = .error e) : b.Unnamable id := by
  intro name hname
  rw [h] at hname
  cases hname

theorem unnamable_of_unsendable (hname : b.nameOf id = .ok name)
    (h : ¬ Template.Sendable name.plain) : b.Unnamable id := by
  intro name' hname'
  rw [hname] at hname'
  cases hname'
  exact h

/-- A path that cannot be written is that of a name that cannot be sent. -/
theorem unnamable_of_unfilled {k : Resource} {part : String} (hname : b.nameOf id = .ok name)
    (h : (k.template part).fill [name] = .error e) : b.Unnamable id := by
  refine unnamable_of_unsendable hname fun hsend => ?_
  rw [fill_of_plain k part hsend] at h
  cases h

end Names

/-- The call that sets the quota of a bucket. -/
def bucketQuota (name limit warn : Value) : Call :=
  { method := "PUT", path := .text (Resource.bucket.address name.plain "/quota"),
    body := .mapping (Mapping.ofNamed
      [("namespace", b.home), ("blockSize", limit), ("notificationSize", warn)]) }

/-- The call that removes the quota of a bucket. -/
def noBucketQuota (name : Value) : Call :=
  { method := "DELETE", path := .text (Resource.bucket.address name.plain "/quota"),
    accepted := removed, params := Bucket.inNamespace b.home }

/-- The call that sets the retention of a bucket. -/
def bucketRetention (name period : Value) : Call :=
  { method := "PUT", path := .text (Resource.bucket.address name.plain "/retention"),
    body := .mapping (Mapping.ofNamed [("namespace", b.home), ("period", period)]) }

/-- The call that sets the quota of a namespace. -/
def spaceQuota (name limit warn : Value) : Call :=
  { method := "PUT", path := .text (Resource.space.address name.plain "/quota"),
    body := (Record.namespaceQuota name limit warn).plainData }

/-- The call that creates a retention class of a namespace. -/
def spaceClass (name className period : Value) : Call :=
  { method := "POST", path := .text (Resource.space.address name.plain "/retention"),
    body := (Record.retentionClass className period).plainData }

/-! ## 3. What is done for it -/

section Performs

variable {b} {name : Value} {m m' : Mapping} (hname : Template.Sendable name.plain)

include hname

theorem performs_createQuota {limit warn : Value} :
    Performs [b.bucketQuota name limit warn] ()
      (Bucket.createQuota name b.home limit warn : Operation Unit) :=
  performs_path (fill_of_plain .bucket "/quota" hname)

theorem performs_deleteQuota :
    Performs [b.noBucketQuota name] () (Bucket.deleteQuota name b.home : Operation Unit) :=
  performs_path (fill_of_plain .bucket "/quota" hname)

theorem performs_updateRetention {period : Value} :
    Performs [b.bucketRetention name period] ()
      (Bucket.updateRetention b.home name period : Operation Unit) :=
  performs_path (fill_of_plain .bucket "/retention" hname)

theorem performs_createSpaceQuota {limit warn : Value} :
    Performs [spaceQuota name limit warn] ()
      (Namespace.createQuota name (Record.namespaceQuota name limit warn).toValue :
        Operation Unit) := by
  have hkind : (Record.namespaceQuota name limit warn).kind = .namespaceQuota := rfl
  exact performs_written (fill_of_plain .space "/quota" hname)
    (Record.bodyOf_toValue hkind (by decide) (by decide))

theorem performs_createRetention {className period : Value} :
    Performs [spaceClass name className period] ()
      (Namespace.createRetention name className period : Operation Unit) :=
  performs_path (fill_of_plain .space "/retention" hname)

/-- **A new bucket gets the quota that is asked for**, and none otherwise. -/
theorem performs_applyBucketQuota (h : Settled m m') :
    Performs ((quotaIn m').toList.map fun q => b.bucketQuota name q.1 q.2) ()
      (b.applyBucketQuota name (.mapping m')) := by
  refine .lift_bind (get_eq m' Settings.quota) ?_
  unfold quotaIn
  rcases h.quota_cases with ⟨(hnone | hnull), _⟩ | ⟨q, q', _, hq', _⟩
  · rw [hnone]
    exact performs_pure
  · rw [hnull]
    exact performs_pure
  · rw [hq']
    exact .lift_bind (get_eq q' _) (.lift_bind (get_eq q' _) (performs_createQuota hname))

/-- **A new bucket gets the retention that is asked for**, and none otherwise. -/
theorem performs_applyBucketRetention :
    Performs ((periodIn m').toList.map fun period => b.bucketRetention name period) ()
      (b.applyBucketRetention name (.mapping m')) := by
  refine .lift_bind (get_eq m' Settings.defaultRetention) ?_
  unfold periodIn
  cases Mapping.get m' Settings.defaultRetention with
  | none => exact performs_pure
  | some v =>
    rw [Option.getD_some, Option.filter_some]
    cases hv : v.isNull with
    | true => exact performs_pure
    | false => exact performs_updateRetention hname

/-- **A new namespace gets the quota that is asked for**, and none otherwise. -/
theorem performs_applyNamespaceQuota (h : Settled m m') :
    Performs ((quotaIn m').toList.map fun q => spaceQuota name q.1 q.2) ()
      (applyNamespaceQuota name (.mapping m')) := by
  refine .lift_bind (get_eq m' Settings.quota) ?_
  unfold quotaIn
  rcases h.quota_cases with ⟨(hnone | hnull), _⟩ | ⟨q, q', _, hq', _⟩
  · rw [hnone]
    exact performs_pure
  · rw [hnull]
    exact performs_pure
  · rw [hq']
    exact .lift_bind (get_eq q' _) (.lift_bind (get_eq q' _) (performs_createSpaceQuota hname))

/-- **A new namespace gets its retention classes** one after the other. -/
theorem performs_createClasses (classes : Mapping) :
    Performs (classes.map fun e => spaceClass name e.1 e.2) () (createClasses name classes) := by
  induction classes with
  | nil => exact performs_pure
  | cons e rest ih => exact (performs_createRetention hname).bind ih

end Performs

end StorageBroker.Broker
