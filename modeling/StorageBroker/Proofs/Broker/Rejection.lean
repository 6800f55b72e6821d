import StorageBroker.Proofs.Broker.PolicyCheck
/-!
# What a rejection names

A policy that is not among the allowed ones is rejected, and the report ends in the value that the
check shows. That value is looked up apart from the policy that is checked, so the two can differ:
a request that has the setting and gives nothing under it is checked by the default, and shows
nothing. In all other cases the report ends in the name of the rejected policy, whether it was asked
for by name, given as the policy itself, or taken as the default.

* `asksForNothing` -- parameters with the setting and nothing under it;
* `shownOf_eq` -- the value shown, for the policy that is asked for;
* `rejection_names_policy_iff` -- what a rejected check shows, and what both operations report;
* `null_rejection_unnamed` -- a default that is rejected without its name.
-/

namespace StorageBroker

open Management

/-! ## 1. The value shown -/

namespace ReclaimPolicy

variable {m : Mapping} {default p : ReclaimPolicy}

/-- Whether parameters have the setting of the policy and give nothing under it. -/
def asksForNothing (m : Mapping) : Bool :=
  (Mapping.get m Settings.reclaimPolicy).any Value.isNull

/-- **The word for a policy in the report of its rejection.** -/
def spoken (m : Mapping) (p : ReclaimPolicy) : Text :=
  if asksForNothing m then "None" else p.name

theorem named_of_names {v : Value} (h : Names v p) : Check.named v = .text p.name := by
  cases h with
  | member => rfl
  | name => rfl

/-- **What a check shows** is the name of the policy that is asked for, unless the parameters ask for
nothing by name. -/
theorem shownOf_eq (h : Asks m default p) :
    shownOf m default = if asksForNothing m then .null else .text p.name := by
  unfold Asks at h
  unfold shownOf asksForNothing
  obtain ⟨hsetting, hget⟩ | ⟨hsetting, hget⟩ | ⟨v, hsetting, hget, hnull⟩ :=
    Settings.settingIn_cases m Settings.reclaimPolicy
  · rw [hsetting] at h
    have hp : p = default := h
    rw [hget, hp]
    rfl
  · rw [hget]
    rfl
  · rw [hsetting] at h
    rw [hget, Option.any_some, hnull]
    exact named_of_names h

/-- Where nothing is asked for by name, the default is taken. -/
theorem eq_default_of_asksForNothing (h : Asks m default p) (hnothing : asksForNothing m) :
    p = default := by
  obtain ⟨v, hget, hnull⟩ := (Option.any_eq_true _ _).1 hnothing
  unfold Asks Settings.settingIn at h
  rw [hget, Option.filter_some, hnull] at h
  exact h

theorem plain_shownOf (h : Asks m default p) : (shownOf m default).plain = spoken m p := by
  rw [shownOf_eq h, spoken]
  cases asksForNothing m with
  | true => rfl
  | false => exact Value.plain_text _

end ReclaimPolicy

/-! ## 2. Reports -/

namespace Broker

open ReclaimPolicy (Asks Check asksForNothing shownOf_eq plain_shownOf spoken)
open Settings (Valid)

variable (b : Broker)

/-- The report of a rejection that ends in a word. -/
def rejection (word : Text) : Fault :=
  .policyRefused (some ("Reclaim Policy is not allowed: " ++ word)) (some .rejected)

/-- What is refused as a rejected check finds is reported as a rejection. -/
theorem eq_rejection_of_refusesAs {α : Type} {c : Check} {r : Except Fault α}
    (hc : c.failure = some .rejected) (h : RefusesAs c r) :
    r = .error (rejection c.value.plain) :=
  (h _ _).2 ⟨.rejected, hc, rfl, rfl⟩

/-- **A rejection names the policy that was refused, unless the request asks for nothing under the
name of the setting.** The policy that a rejected check comes to is the one that is asked for, and
is not among the allowed ones. The value shown is its name exactly if the parameters do not ask for
nothing. Both operations that check policies report the rejection with that word -- a change of plan
always, a creation where the probe has found nothing -- in every world. -/
theorem rejection_names_policy_iff {m : Mapping} {default : ReclaimPolicy} {c : Check}
    (hc : Check.ofParameters (.mapping m) (.policy default) = .ok c)
    (hrejected : c.failure = some .rejected) :
    ∃ p ps, Asks m default p ∧ c.policy = .policy p ∧ c.allowed = some ps ∧ p ∉ ps ∧
      (c.value = .text p.name ↔ asksForNothing m = false) ∧
      (asksForNothing m → c.value = .null ∧ p = default) ∧
      ∀ (id request : Value) (service : ServiceDefinition) (plan : Plan) (d : Discovery)
        (bs : State) {σ : Type} (w : Dialogue.World Wire σ) (st : σ) (s : Session),
        bs.discovery = some d → d.defaultReclaimPolicy = .policy default →
        Settings.mergeFor request plan service = .ok (.mapping m) → Valid m →
        let change := (b.changeBucketPlan id service plan request).run bs
        let creation := (b.createBucket id service plan request).run bs
        (Dialogue.run w (Session.carryOut change s) st).result.1.1 =
            .error (rejection (spoken m p)) ∧
          ∀ call g rest, (Session.turns w creation s st).map Dialogue.Turn.event =
            called call (.error g) :: rest → g.isAbsence →
            (Dialogue.run w (Session.carryOut creation s) st).result.1.1 =
              .error (rejection (spoken m p)) := by
  obtain ⟨c', hc', hfinding⟩ := ReclaimPolicy.finding_of_mapping m default
  cases hc.symm.trans hc'
  have hclassified := hfinding.classified
  obtain ⟨p, ps, hp, hps, hmem⟩ := hclassified.rejected.1 hrejected
  have hvalue := hclassified.value
  have hword : c.value.plain = spoken m p := by
    rw [hvalue, plain_shownOf hp]
  refine ⟨p, ps, hp, hclassified.policy p hp, hclassified.allowed p ps hp hps, hmem, ?_, ?_, ?_⟩
  · rw [hvalue, shownOf_eq hp]
    cases asksForNothing m with
    | true => simp
    | false => simp
  · intro hnothing
    rw [hvalue, shownOf_eq hp, if_pos hnothing]
    exact ⟨rfl, ReclaimPolicy.eq_default_of_asksForNothing hp hnothing⟩
  · intro id request service plan d bs σ w st s hd hdefault hmerge hvalid change creation
    rw [← hdefault] at hc
    have hsession : ∀ {x : Dialogue Remote (Except Fault Value × State)} (call : Call) (f : Fault),
        called call (.error f) ∈ (Session.turns w x s st).map Dialogue.Turn.event →
          f.isOfSession :=
      fun _ _ h => Session.isOfSession_of_turns h
    rw [← hword]
    constructor
    · exact eq_rejection_of_refusesAs hrejected (refusesAs_changeBucketPlan hd hmerge hvalid hc
        hsession (Action.course_iff.1 (Session.course_carryOut w change s st)))
    · intro call g rest hfirst hg
      exact eq_rejection_of_refusesAs hrejected (refusesAs_createBucket hd hmerge hvalid hc
        hsession hfirst hg (Action.course_iff.1 (Session.course_carryOut w creation s st)))

/-- A default that is not allowed is rejected by its name where the request has no such setting. -/
theorem rejection_names_policy_iff_default :
    let asked : Mapping := [(.text "allowed-reclaim-policies", .text " Delete ,, Retain")]
    let merged : Mapping := asked ++ limited.serviceSettings
    let rejected : Except Fault Value :=
      .error (.policyRefused (some "Reclaim Policy is not allowed: Fail") (some .rejected))
    let s := Session.expired.withToken none
    let change := (bare.changeBucketPlan (.text "b") unlimited limited (.mapping asked)).run
      discovering
    let creation := (bare.createBucket (.text "b") unlimited limited (.mapping asked)).run
      discovering
    (∃ c, Check.ofParameters (.mapping merged) (.policy .fail) = .ok c ∧
      c.failure = some .rejected ∧ c.value = .text "Fail") ∧
      (Dialogue.run Rehearsal.world (Session.carryOut change s) singleObject).result.1.1 =
        rejected ∧
      ∃ call g rest, (Session.turns Rehearsal.world creation s withoutB).map Dialogue.Turn.event =
        called call (.error g) :: rest ∧ g.isAbsence ∧
        (Dialogue.run Rehearsal.world (Session.carryOut creation s) withoutB).result.1.1 =
          rejected := by
  intro asked merged rejected s change creation
  have hmerge : Settings.mergeFor (.mapping asked) limited unlimited = .ok (.mapping merged) := by
    rw [mergeFor_of_given (.mapping asked) limited unlimited]
    simp [asked, merged, limited, unlimited, Mapping.update, Mapping.insert,
      Mapping.text_equal_text]
  have hvalid : Valid merged :=
    Settings.fault_check_eq_none_iff.1 (Option.isNone_iff_eq_none.1 (by decide +kernel))
  have hpolicy : Mapping.get merged Settings.reclaimPolicy = none := by
    simp [asked, merged, limited, Mapping.get_cons, Mapping.get_nil, Mapping.text_equal_text,
      Settings.reclaimPolicy]
  have hpolicies : Mapping.get merged Settings.allowedReclaimPolicies =
      some (.text " Delete ,, Retain") := by
    simp [asked, merged, Mapping.get_cons, Mapping.text_equal_text,
      Settings.allowedReclaimPolicies]
  have hasks : ReclaimPolicy.Asks merged .fail .fail := by
    rw [ReclaimPolicy.Asks, Settings.settingIn, hpolicy]
    rfl
  have hallows : ReclaimPolicy.Allows merged [.delete, .retain] := by
    rw [ReclaimPolicy.Allows, Settings.settingIn, hpolicies]
    exact .names (by decide +kernel)
  have hasked : asksForNothing merged = false := by
    rw [asksForNothing, hpolicy]
    rfl
  obtain ⟨c, hc, hfinding⟩ := ReclaimPolicy.finding_of_mapping merged .fail
  have hrejected := hfinding.classified.rejected.2 ⟨_, _, hasks, hallows, by decide⟩
  obtain ⟨p, _, hp, _, _, _, hnamed, _, hoperations⟩ :=
    bare.rejection_names_policy_iff hc hrejected
  cases hasks.unique hp
  have hreport : rejection (spoken merged .fail) =
      .policyRefused (some "Reclaim Policy is not allowed: Fail") (some .rejected) := by
    rw [spoken, hasked]
    rfl
  rw [hreport] at hoperations
  refine ⟨⟨c, hc, hrejected, hnamed.2 hasked⟩, ?_, ?_⟩
  · obtain ⟨hchange, _⟩ := hoperations (.text "b") (.mapping asked) unlimited limited _ discovering
      Rehearsal.world singleObject s rfl rfl hmerge hvalid
    exact hchange
  · obtain ⟨_, hcreation⟩ := hoperations (.text "b") (.mapping asked) unlimited limited _
      discovering Rehearsal.world withoutB s rfl rfl hmerge hvalid
    have hprobe : ((Session.turns Rehearsal.world creation s withoutB).map
        Dialogue.Turn.event).head?.any isMissing := by decide +kernel
    obtain ⟨call, g, rest, hcalls, hg⟩ := missing_of_head hprobe
    exact ⟨call, g, rest, hcalls, hg, hcreation call g rest hcalls hg⟩

/-- A default that is not allowed is rejected without its name where the request has the setting
and gives nothing under it. -/
theorem null_rejection_unnamed :
    let asked : Mapping := [(.text "reclaim-policy", .null),
      (.text "allowed-reclaim-policies", .list [.text "Delete"])]
    ∃ c, Check.ofParameters (.mapping asked) (.policy .fail) = .ok c ∧
      c.failure = some .rejected ∧ c.policy = .policy .fail ∧ c.value = .null ∧
      c.value ≠ .text ReclaimPolicy.fail.name := by
  intro asked
  have hpolicy : Mapping.get asked Settings.reclaimPolicy = some .null := by
    simp [asked, Mapping.get_cons, Mapping.text_equal_text, Settings.reclaimPolicy]
  have hpolicies : Mapping.get asked Settings.allowedReclaimPolicies =
      some (.list [.text "Delete"]) := by
    simp [asked, Mapping.get_cons, Mapping.text_equal_text, Settings.allowedReclaimPolicies]
  have hasks : ReclaimPolicy.Asks asked .fail .fail := by
    rw [ReclaimPolicy.Asks, Settings.settingIn, hpolicy]
    rfl
  have hallows : ReclaimPolicy.Allows asked [.delete] := by
    rw [ReclaimPolicy.Allows, Settings.settingIn, hpolicies]
    exact .items (fun s h => by cases h) rfl (.cons (.name .delete) .nil)
  obtain ⟨c, hc, hfinding⟩ := ReclaimPolicy.finding_of_mapping asked .fail
  have hclassified := hfinding.classified
  have hvalue : c.value = .null := by
    rw [hclassified.value, ReclaimPolicy.shownOf, hpolicy]
    rfl
  refine ⟨c, hc, hclassified.rejected.2 ⟨_, _, hasks, hallows, by decide⟩,
    hclassified.policy _ hasks, hvalue, ?_⟩
  intro h
  cases hvalue.symm.trans h

end Broker

end StorageBroker
