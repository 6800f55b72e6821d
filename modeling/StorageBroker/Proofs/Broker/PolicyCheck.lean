import StorageBroker.Proofs.Broker.Creation
import StorageBroker.Proofs.ReclaimPolicy
/-!
# Which requests are refused for their policy

The creation of a bucket and a change of its plan check the reclaim policy that the request comes
to, behind the check of its settings and before anything is changed. The request is refused for its
policy exactly if that check fails, and then with the failure that the check has found: nothing else
in these operations refuses a policy, and neither does a call.

* `RefusesNone` -- operations that refuse no policy, and `RefusesNone.bind`, how they are put
  together;
* `RefusesAs` -- results that refuse a policy as a check does;
* `refusesAs_of_checkPolicy` -- what stands behind the check has such a result;
* `defaulted_of_remains` -- whatever a broker has done, the default it has discovered is a policy;
* `policy_check_decides` -- the check of any parameters, and both operations in every world.
-/

namespace StorageBroker

open Management

namespace Fault

/-- A refused policy is reported as it is, and nothing else is reported as one. -/
theorem wrap_eq_policyRefused {f : Fault} {message : Option Text}
    {g : Option ReclaimPolicy.Failure} :
    f.wrap = .policyRefused message g ↔ f = .policyRefused message g := by
  constructor
  · intro h
    unfold wrap at h
    split at h
    · exact h
    · split at h
      · cases h
      · exact h
  · rintro rfl
    rfl

end Fault

/-- The failure of a call is one of the session. -/
theorem Session.isOfSession_of_turns {σ α : Type} {w : Dialogue.World Wire σ}
    {d : Dialogue Remote α} {s : Session} {st : σ} {c : Call} {f : Fault}
    (h : called c (.error f) ∈ (turns w d s st).map Dialogue.Turn.event) : f.isOfSession := by
  obtain ⟨turn, hturn, hevent⟩ := List.mem_map.1 h
  obtain ⟨_, _, _, hrequest⟩ := turn_of_call w d s st hturn hevent
  exact (served_of_request hrequest).fault f rfl

namespace Broker

open ReclaimPolicy (Check Classified)
open Settings (Valid)

/-! ## 1. Operations that refuse no policy -/

section RefusesNone

variable {α β : Type} {P : Call → Prop}

/-- **An operation that refuses no policy**: it fails so only if one of its calls does. -/
def RefusesNone (x : Operation α) : Prop :=
  ∀ s es message g s', x.Course s es (.error (.policyRefused message g)) s' →
    ∃ c, called c (.error (.policyRefused message g)) ∈ es

theorem refusesNone_pure {a : α} : RefusesNone (pure a : Operation α) := by
  intro s es message g s' h
  cases (Action.course_pure.1 h).2.1

theorem refusesNone_lift {x : Except Malformed α} : RefusesNone (liftM x : Operation α) := by
  intro s es message g s' h
  obtain ⟨_, hr, _⟩ := Action.course_lift_malformed.1 h
  obtain ⟨_, _, hmalformed⟩ := mapError_eq_error.1 hr.symm
  cases hmalformed

theorem refusesNone_note {given now : Value} : RefusesNone (note given now) := by
  intro s es message g s' h
  cases (Action.course_modify.1 h).2.1

theorem refusesNone_discovered : RefusesNone discovered := by
  intro s es message g s' h
  rw [discovered, Action.course_get_bind] at h
  split at h
  · cases (Action.course_pure.1 h).2.1
  · cases (Action.course_throw.1 h).2.1

/-- One call refuses no policy, unless it fails so itself. -/
theorem refusesNone_of_makes {x : Operation Unit} (h : Makes P Done x) : RefusesNone x := by
  intro s es message g s' hcourse
  obtain ⟨_, ⟨_, m, hm⟩ | ⟨c, a, _, rfl, ha⟩⟩ := h _ _ _ _ hcourse
  · cases hm
  · cases a with
    | ok y => cases ha
    | error f =>
      cases ha
      exact ⟨c, List.mem_singleton_self _⟩

/-- **Two operations in a row** refuse no policy if neither does. -/
theorem RefusesNone.bind {x : Operation β} {f : β → Operation α} (hx : RefusesNone x)
    (hf : ∀ b, RefusesNone (f b)) : RefusesNone (x >>= f) := by
  intro s es message g s' h
  obtain ⟨e, hfirst, he⟩ | ⟨es₁, b, s₁, es₂, _, hnext, rfl⟩ := Action.course_bind.1 h
  · cases he
    exact hx _ _ _ _ _ hfirst
  · obtain ⟨c, hc⟩ := hf b _ _ _ _ _ hnext
    exact ⟨c, List.mem_append_right _ hc⟩

theorem RefusesNone.lift_bind {x : Except Malformed β} {f : β → Operation α}
    (hf : ∀ b, RefusesNone (f b)) : RefusesNone (liftM x >>= f) := refusesNone_lift.bind hf

end RefusesNone

variable (b : Broker)

/-! ## 2. Behind the check -/

section Behind

variable {id name parameters v : Value}

theorem refusesNone_applyBucketQuota : RefusesNone (b.applyBucketQuota name v) := by
  refine .lift_bind fun quota => ?_
  split
  · exact .lift_bind fun _ => .lift_bind fun _ => refusesNone_of_makes Bucket.makes_createQuota
  · exact refusesNone_pure

theorem refusesNone_applyBucketRetention : RefusesNone (b.applyBucketRetention name v) := by
  refine .lift_bind fun period => ?_
  split
  · exact refusesNone_of_makes Bucket.makes_updateRetention
  · exact refusesNone_pure

/-- **What a creation does behind the check** refuses no policy. -/
theorem refusesNone_makeBucket : RefusesNone (do
    let d ← discovered
    let body ← Record.bucketCreate name b.home d.replicationGroupId v
    Bucket.create body.toValue
    b.applyBucketQuota name v
    b.applyBucketRetention name v
    return v : Operation Value) := by
  refine refusesNone_discovered.bind fun d => .lift_bind fun body => ?_
  refine (refusesNone_of_makes Bucket.makes_create).bind fun _ => ?_
  exact b.refusesNone_applyBucketQuota.bind fun _ =>
    b.refusesNone_applyBucketRetention.bind fun _ => refusesNone_pure

/-- **What a change of plan does behind the check** refuses no policy. -/
theorem refusesNone_replaceQuota : RefusesNone (do
    let name ← b.nameOf id
    let limit ← sizeOf v Settings.limit
    let warn ← sizeOf v Settings.warn
    if isUnset limit && isUnset warn then
      let effective ← without v Settings.quota
      note parameters effective
      Bucket.deleteQuota name b.home
      return effective
    else
      Bucket.createQuota name b.home limit warn
      return v : Operation Value) := by
  refine .lift_bind fun name => .lift_bind fun limit => .lift_bind fun warn => ?_
  split
  · refine .lift_bind fun _ => refusesNone_note.bind fun _ => ?_
    exact (refusesNone_of_makes Bucket.makes_deleteQuota).bind fun _ => refusesNone_pure
  · exact (refusesNone_of_makes Bucket.makes_createQuota).bind fun _ => refusesNone_pure

end Behind

/-! ## 3. The check -/

/-- **A result that refuses a policy as a check does**: with the failure that the check has found
and the value that it shows, and not at all if it has found none. -/
def RefusesAs {α : Type} (c : Check) (r : Except Fault α) : Prop :=
  ∀ message g, r = .error (.policyRefused message g) ↔
    ∃ f, c.failure = some f ∧ g = some f ∧ message = some (refusal f ++ c.value.plain)

section Checked

variable {α : Type} {c : Check} {r : Except Fault α}

theorem refusesAs_of_failure {f : ReclaimPolicy.Failure} (hf : c.failure = some f) :
    RefusesAs c
      (.error (.policyRefused (some (refusal f ++ c.value.plain)) (some f)) : Except Fault α) := by
  intro message g
  constructor
  · intro h
    cases h
    exact ⟨f, hf, rfl, rfl⟩
  · rintro ⟨f', hf', rfl, rfl⟩
    cases hf.symm.trans hf'
    rfl

theorem refusesAs_of_passed (hc : c.failure = none)
    (hr : ∀ message g, r ≠ .error (.policyRefused message g)) : RefusesAs c r := by
  intro message g
  constructor
  · intro h
    exact absurd h (hr message g)
  · rintro ⟨f, hf, _⟩
    cases hc.symm.trans hf

/-- What is reported refuses the same. -/
theorem RefusesAs.reported (h : RefusesAs c r) : RefusesAs c (r.mapError Fault.wrap) := by
  intro message g
  rw [← h message g, mapError_eq_error]
  constructor
  · rintro ⟨f, hf, hwrap⟩
    rw [hf, Fault.wrap_eq_policyRefused.1 hwrap.symm]
  · intro hr
    exact ⟨_, hr, (Fault.wrap_eq_policyRefused.2 rfl).symm⟩

variable {d : Discovery} {s s' : State} {es : List (Dialogue.Event Remote)} {v : Value}

/-- The check itself asks nothing, and it fails as it has found. -/
theorem course_checkPolicy_found {u : Except Fault Unit} (hd : s.discovery = some d)
    (hc : Check.ofParameters v d.defaultReclaimPolicy = .ok c)
    (h : (checkPolicy v).Course s es u s') : es = [] ∧
      u = match c.failure with
        | none => .ok ()
        | some f => .error (.policyRefused (some (refusal f ++ c.value.plain)) (some f)) := by
  obtain ⟨_, hx, _⟩ | ⟨_, hx, h⟩ :=
    Action.course_lift_malformed_bind.1 (course_discovered_bind hd h)
  · cases hc.symm.trans hx
  cases hc.symm.trans hx
  cases hfailure : c.failure with
  | none =>
    simp only [hfailure] at h
    obtain ⟨rfl, rfl, _⟩ := Action.course_pure.1 h
    exact ⟨rfl, rfl⟩
  | some f =>
    simp only [hfailure] at h
    obtain ⟨rfl, rfl, _⟩ := Action.course_throw.1 h
    exact ⟨rfl, rfl⟩

/-- **What stands behind the check is refused as the check finds**, if it refuses no policy itself
and its calls fail as those of a session. -/
theorem refusesAs_of_checkPolicy {x : Unit → Operation α} (hd : s.discovery = some d)
    (hc : Check.ofParameters v d.defaultReclaimPolicy = .ok c) (hx : RefusesNone (x ()))
    (hes : ∀ c f, called c (.error f) ∈ es → f.isOfSession)
    (h : (checkPolicy v >>= x).Course s es r s') : RefusesAs c r := by
  obtain ⟨e, hfirst, rfl⟩ | ⟨es₁, _, s₁, es₂, hfirst, hnext, rfl⟩ := Action.course_bind.1 h
  · obtain ⟨_, hu⟩ := course_checkPolicy_found hd hc hfirst
    cases hfailure : c.failure with
    | none =>
      rw [hfailure] at hu
      cases hu
    | some f =>
      rw [hfailure] at hu
      cases hu
      exact refusesAs_of_failure hfailure
  · obtain ⟨rfl, hu⟩ := course_checkPolicy_found hd hc hfirst
    cases hfailure : c.failure with
    | none =>
      -- A policy refused all the same would be refused by a call, which a session never does.
      refine refusesAs_of_passed hfailure fun message g hr => ?_
      subst hr
      obtain ⟨c', hc'⟩ := hx _ _ _ _ _ hnext
      cases hes c' _ hc'
    | some f =>
      rw [hfailure] at hu
      cases hu

end Checked

section Operations

variable {b} {id parameters : Value} {plan : Plan} {service : ServiceDefinition} {m : Mapping}
  {d : Discovery} {c : Check} {s s' : State} {es : List (Dialogue.Event Remote)}
  {r : Except Fault Value} (hd : s.discovery = some d)
  (hmerge : Settings.mergeFor parameters plan service = .ok (.mapping m)) (hvalid : Valid m)
  (hc : Check.ofParameters (.mapping m) d.defaultReclaimPolicy = .ok c)
  (hes : ∀ c f, called c (.error f) ∈ es → f.isOfSession)

include hd hmerge hvalid hc hes

/-- **Behind the check of valid settings** stands the check of the policy. -/
theorem refusesAs_of_effective {x : Value → Unit → Operation Value}
    (hx : ∀ v, RefusesNone (x v ()))
    (h : (effective parameters plan service >>= fun v => checkPolicy v >>= x v).Course s es r s') :
    RefusesAs c r := by
  obtain ⟨_, _, hinvalid⟩ | ⟨n, m', s₁, heffective, hs₁, hbehind⟩ := course_effective_bind h
  · exact absurd hvalid (hinvalid m hmerge)
  · have hn := heffective.merged
    rw [hmerge] at hn
    cases hn
    have hother := heffective.settled.other
    have hsame : Check.ofParameters (.mapping m') d.defaultReclaimPolicy =
        Check.ofParameters (.mapping m) d.defaultReclaimPolicy :=
      ReclaimPolicy.ofParameters_congr (hother Settings.reclaimPolicy (by decide))
        (hother Settings.allowedReclaimPolicies (by decide))
    exact refusesAs_of_checkPolicy (hs₁.trans hd) (hsame.trans hc) (hx _) hes hbehind

theorem refusesAs_changeBucketPlan
    (h : (b.changeBucketPlan id service plan parameters).Course s es r s') : RefusesAs c r := by
  obtain ⟨r', hinner, rfl⟩ := Action.course_mapFault.1 (Action.course_modify_bind.1 h)
  refine (refusesAs_of_effective ?_ hmerge hvalid hc hes (fun _ => ?_) hinner).reported
  · exact hd
  · exact b.refusesNone_replaceQuota

/-- A creation gets to the check where the probe has found nothing. -/
theorem refusesAs_createBucket {c' : Call} {g : Fault} {rest : List (Dialogue.Event Remote)}
    (hfirst : es = called c' (.error g) :: rest) (hg : g.isAbsence)
    (h : (b.createBucket id service plan parameters).Course s es r s') : RefusesAs c r := by
  obtain ⟨r', hinner, rfl⟩ := Action.course_mapFault.1 (Action.course_modify_bind.1 h)
  obtain ⟨_, _, hnil, _⟩ | ⟨name, _, hinner⟩ := Action.course_lift_malformed_bind.1 hinner
  · cases hfirst.symm.trans hnil
  subst hfirst
  obtain ⟨_, _, hbehind⟩ := course_existing_missing (k := .bucket) hinner hg
  have hes' : ∀ c f, called c (.error f) ∈ rest → f.isOfSession :=
    fun c f hmem => hes c f (List.mem_cons_of_mem _ hmem)
  refine (refusesAs_of_effective ?_ hmerge hvalid hc hes' (fun _ => ?_) hbehind).reported
  · exact hd
  · exact b.refusesNone_makeBucket

end Operations

/-! ## 4. The default -/

/-- The default that has been discovered is a policy. -/
def Defaulted (s : State) : Prop :=
  ∀ d, s.discovery = some d → ∃ p, d.defaultReclaimPolicy = .policy p

section Default

variable {b} {config : Configuration} {d : Discovery} {s s' : State}
  {es : List (Dialogue.Event Remote)}

theorem default_of_discover
    (h : (Discovery.discover config : Operation Discovery).Course s es (.ok d) s') :
    ∃ p, d.defaultReclaimPolicy = .policy p := by
  obtain ⟨_, _, _, _, _, h, _⟩ := Action.course_bind_ok.1 h
  obtain ⟨_, _, _, _, _, h, _⟩ := Action.course_bind_ok.1 h
  obtain ⟨_, _, _, hr, _⟩ | ⟨p, _, h⟩ := Action.course_lift_bind.1 h
  · cases hr
  · obtain ⟨_, hr, _⟩ := Action.course_pure.1 h
    cases hr
    exact ⟨p, rfl⟩

variable {σ : Type} {w : Dialogue.World Wire σ} {bs : State} {se : Session} {st : σ}

/-- A start discovers a policy as the default, and nothing else changes what is discovered. -/
theorem defaulted_of_run (x : Deed) (h : Defaulted bs) :
    Defaulted (x.run b w bs se st).result.1.2 := by
  have hcourse := course_of_run (b := b) (w := w) x bs se st
  cases x with
  | launch =>
    intro d hd
    obtain ⟨_, _, hstarted⟩ | ⟨_, hnone, _⟩ := b.launch_cases hcourse
    · obtain ⟨_, _, _, _, _, _, _, _, _, hdiscover, _, _, _, rfl⟩ := hstarted.steps
      cases hd.symm.trans hstarted.discovery
      obtain ⟨p, hp⟩ := default_of_discover hdiscover
      exact ⟨p, hp⟩
    · cases hd.symm.trans hnone
  | command cmd =>
    have hleft := cmd.leaves b _ _ _ _ hcourse
    exact fun d hd => h d ((Prod.mk.inj hleft).1.symm.trans hd)
  | wipe id =>
    have hleft := b.leaves_wipeAndDelete _ _ _ _ hcourse
    exact fun d hd => h d ((Prod.mk.inj hleft).1.symm.trans hd)

/-- **Whatever a broker has done**, the default that it has discovered is a policy. -/
theorem defaulted_of_remains (deeds : List Deed) (h : Defaulted bs) :
    Defaulted (b.remains w deeds bs se st) := by
  induction deeds generalizing bs se st with
  | nil => exact h
  | cons x xs ih => exact ih (defaulted_of_run x h)

end Default

/-! ## 5. Requests -/

/-- **The check of a policy classifies all parameters, and decides which requests are refused.** Its
outcome is told by the policy that they ask for and those that they allow. Where a broker has
discovered the default, and the settings of a request pass, a change of plan is refused for its
policy exactly as the check of the merged parameters fails, and so is a creation whose probe has
found nothing -- in every world. The default that a broker has discovered is always a policy. -/
theorem policy_check_decides {parameters : Value} {m : Mapping} (hgiven : Given parameters m)
    (default : ReclaimPolicy) :
    (∃ c, Check.ofParameters parameters (.policy default) = .ok c ∧
      ReclaimPolicy.isAllowed parameters (.policy default) = .ok c.ok ∧ Classified m default c ∧
      ∀ (id request : Value) (service : ServiceDefinition) (plan : Plan) (d : Discovery)
        (bs : State) {σ : Type} (w : Dialogue.World Wire σ) (st : σ) (s : Session),
        bs.discovery = some d → d.defaultReclaimPolicy = .policy default →
        Settings.mergeFor request plan service = .ok (.mapping m) → Valid m →
        let change := (b.changeBucketPlan id service plan request).run bs
        let creation := (b.createBucket id service plan request).run bs
        RefusesAs c (Dialogue.run w (Session.carryOut change s) st).result.1.1 ∧
          ∀ call g rest, (Session.turns w creation s st).map Dialogue.Turn.event =
            called call (.error g) :: rest → g.isAbsence →
            RefusesAs c (Dialogue.run w (Session.carryOut creation s) st).result.1.1) ∧
    ∀ {σ : Type} (w : Dialogue.World Wire σ) (deeds : List Deed) (s : Session) (st : σ),
      Defaulted (b.remains w deeds .start s st) := by
  obtain ⟨c, hc, hfinding⟩ := ReclaimPolicy.finding_of_mapping m default
  have hcheck : Check.ofParameters parameters (.policy default) = .ok c := by
    cases hgiven with
    | nothing => exact hc
    | mapping => exact hc
  refine ⟨⟨c, hcheck, ?_, hfinding.classified, ?_⟩, ?_⟩
  · rw [ReclaimPolicy.isAllowed, hcheck]
    rfl
  · intro id request service plan d bs σ w st s hd hdefault hmerge hvalid change creation
    rw [← hdefault] at hc
    have hsession : ∀ {x : Dialogue Remote (Except Fault Value × State)} (c : Call) (f : Fault),
        called c (.error f) ∈ (Session.turns w x s st).map Dialogue.Turn.event → f.isOfSession :=
      fun _ _ h => Session.isOfSession_of_turns h
    constructor
    · exact refusesAs_changeBucketPlan hd hmerge hvalid hc hsession
        (Action.course_iff.1 (Session.course_carryOut w change s st))
    · intro call g rest hfirst hg
      exact refusesAs_createBucket hd hmerge hvalid hc hsession hfirst hg
        (Action.course_iff.1 (Session.course_carryOut w creation s st))
  · intro σ w deeds s st
    refine defaulted_of_remains deeds fun d hd => ?_
    cases hd

/-- A deletion is refused where only other policies are allowed: by a change of plan, and by a
creation. -/
theorem policy_check_decides_rejected :
    let asked : Mapping := [(.text "reclaim-policy", .text "Delete"),
      (.text "allowed-reclaim-policies", .text " Detach ,, Fail")]
    let merged : Mapping := asked ++ limited.serviceSettings
    let rejected : Except Fault Value :=
      .error (.policyRefused (some "Reclaim Policy is not allowed: Delete") (some .rejected))
    let s := Session.expired.withToken none
    let change := (bare.changeBucketPlan (.text "b") unlimited limited (.mapping asked)).run
      discovering
    let creation := (bare.createBucket (.text "b") unlimited limited (.mapping asked)).run
      discovering
    Settings.mergeFor (.mapping asked) limited unlimited = .ok (.mapping merged) ∧ Valid merged ∧
      (Dialogue.run Rehearsal.world (Session.carryOut change s) singleObject).result.1.1 =
        rejected ∧
      ∃ call g rest, (Session.turns Rehearsal.world creation s withoutB).map Dialogue.Turn.event =
        called call (.error g) :: rest ∧ g.isAbsence ∧
        (Dialogue.run Rehearsal.world (Session.carryOut creation s) withoutB).result.1.1 =
          rejected := by
  intro asked merged rejected s change creation
  have hmerge : Settings.mergeFor (.mapping asked) limited unlimited = .ok (.mapping merged) := by
    rw [mergeFor_of_given (.mapping asked) limited unlimited]
    simp [asked, merged, limited, unlimited, Mapping.update, Mapping.insert,
      Mapping.text_equal_text]
  have hvalid : Valid merged :=
    Settings.fault_check_eq_none_iff.1 (Option.isNone_iff_eq_none.1 (by decide +kernel))
  have hpolicy : Mapping.get merged Settings.reclaimPolicy = some (.text "Delete") := by
    simp [asked, merged, Mapping.get_cons, Mapping.text_equal_text, Settings.reclaimPolicy]
  have hpolicies : Mapping.get merged Settings.allowedReclaimPolicies =
      some (.text " Detach ,, Fail") := by
    simp [asked, merged, Mapping.get_cons, Mapping.text_equal_text,
      Settings.allowedReclaimPolicies]
  have hasks : ReclaimPolicy.Asks merged .fail .delete := by
    rw [ReclaimPolicy.Asks, Settings.settingIn, hpolicy]
    exact .name .delete
  have hallows : ReclaimPolicy.Allows merged [.detach, .fail] := by
    rw [ReclaimPolicy.Allows, Settings.settingIn, hpolicies]
    exact .names (by decide +kernel)
  obtain ⟨⟨c, _, _, hclassified, hoperations⟩, _⟩ :=
    bare.policy_check_decides (.mapping merged) .fail
  have hfailure := hclassified.rejected.2 ⟨_, _, hasks, hallows, by decide⟩
  have hvalue : c.value = .text "Delete" := by
    rw [hclassified.value, ReclaimPolicy.shownOf, hpolicy]
    rfl
  have hrefused : ∀ {r : Except Fault Value}, RefusesAs c r → r = rejected := by
    intro r h
    refine (h _ _).2 ⟨.rejected, hfailure, rfl, ?_⟩
    rw [hvalue, Value.plain_text]
    rfl
  refine ⟨hmerge, hvalid, ?_, ?_⟩
  · obtain ⟨hchange, _⟩ := hoperations (.text "b") (.mapping asked) unlimited limited _ discovering
      Rehearsal.world singleObject s rfl rfl hmerge hvalid
    exact hrefused hchange
  · obtain ⟨_, hcreation⟩ := hoperations (.text "b") (.mapping asked) unlimited limited _
      discovering Rehearsal.world withoutB s rfl rfl hmerge hvalid
    have hprobe : ((Session.turns Rehearsal.world creation s withoutB).map
        Dialogue.Turn.event).head?.any isMissing := by decide +kernel
    cases hcalls : (Session.turns Rehearsal.world creation s withoutB).map Dialogue.Turn.event with
    | nil =>
      rw [hcalls] at hprobe
      cases hprobe
    | cons e rest =>
      rw [hcalls] at hprobe
      obtain ⟨call, g, rfl, _, hg⟩ := missing_of_isMissing hprobe
      exact ⟨call, g, rest, rfl, hg, hrefused (hcreation call g rest hcalls hg)⟩

end Broker

end StorageBroker
