import StorageBroker.Proofs.Broker.Creation
import StorageBroker.Proofs.Broker.QuotaChange
import StorageBroker.Proofs.Broker.Survival
/-!
# Requests that are repeated

The effective parameters that a request comes to can be given back as the parameters of the same
request. The administrator's settings are forced on them once more, in the form in which they were
written, and the check reads them once more; what comes out is what has been given, and what is done
for it is the same.

* `merged_again` -- what is found in parameters once settings are forced on them again;
* `EffectiveFor.again` -- effective parameters have themselves as effective ones;
* `Creation.again`, `PlanChange.again` -- what has been given back is given back again;
* `effective_parameters_stable` -- the same over a session, in every world.
-/

namespace StorageBroker.Broker

open Management
open Mapping (Agree Keyed)
open Settings (Settled Settles)
open Text (Template.Sendable)

/-! ## 1. Forced settings once more -/

section Merged

variable {parameters : Value} {plan : Plan} {service : ServiceDefinition} {m m' : Mapping}

/-- Parameters with the settings of a plan and of a service forced on them. -/
def forcedOn (m : Mapping) (plan : Plan) (service : ServiceDefinition) : Mapping :=
  Mapping.update (Mapping.update m plan.serviceSettings) service.serviceSettings

/-- What is no mapping stays as it is, unless settings that are forced on it fail. -/
theorem eq_of_apply {v settings w : Value} (hv : ∀ m, v ≠ .mapping m)
    (h : Settings.apply v settings = .ok w) : w = v := by
  unfold Settings.apply at h
  split at h
  · obtain ⟨m, hm, _⟩ := bind_eq_ok.1 h
    cases v with
    | mapping m => exact absurd rfl (hv m)
    | _ => cases hm
  · cases h
    rfl

/-- Parameters that have been merged to a mapping were a mapping, or nothing. -/
theorem given_of_mergeFor (h : Settings.mergeFor parameters plan service = .ok (.mapping m)) :
    ∃ m₀, Given parameters m₀ ∧ m = forcedOn m₀ plan service := by
  have hmerge : ∀ {m₀}, Given parameters m₀ → m = forcedOn m₀ plan service := by
    intro m₀ hgiven
    rw [mergeFor_of_given hgiven] at h
    cases h
    rfl
  by_cases hnull : parameters = .null
  · subst hnull
    exact ⟨[], .nothing, hmerge .nothing⟩
  by_cases hmapping : ∃ m₀, parameters = .mapping m₀
  · obtain ⟨m₀, rfl⟩ := hmapping
    exact ⟨m₀, .mapping m₀, hmerge (.mapping m₀)⟩
  have hne : ∀ m₀, parameters ≠ .mapping m₀ := fun m₀ hm₀ => hmapping ⟨m₀, hm₀⟩
  have hstart : Settings.start parameters = parameters :=
    Settings.start_of_ne_null (Bool.eq_false_iff.2 fun h => hnull (Value.isNull_iff.1 h))
  rw [Settings.mergeFor, Settings.merge, hstart, List.foldlM_cons] at h
  obtain ⟨v, hv, h⟩ := bind_eq_ok.1 h
  rw [eq_of_apply hne hv, List.foldlM_cons] at h
  obtain ⟨w, hw, h⟩ := bind_eq_ok.1 h
  cases h
  exact absurd (eq_of_apply hne hw).symm (hne m)

/-- **What is found once settings are forced on parameters again**: under the keys of the settings
what has been found there before, and under all others what is in the parameters. -/
theorem merged_again (m₀ e : Mapping) (hplan : Keyed plan.serviceSettings)
    (hservice : Keyed service.serviceSettings) {q : Value} (hq : q.isKey) :
    Mapping.find? (forcedOn e plan service) q = Mapping.find? (forcedOn m₀ plan service) q ∨
      Mapping.find? (forcedOn e plan service) q = Mapping.find? e q := by
  by_cases hinService : ∀ x ∈ service.serviceSettings, ¬ q.equal x.1
  · by_cases hinPlan : ∀ x ∈ plan.serviceSettings, ¬ q.equal x.1
    · right
      rw [forcedOn, Mapping.find?_update _ hservice hq hinService,
        Mapping.find?_update _ hplan hq hinPlan]
    · left
      refine Mapping.agree_update _ hservice hq fun _ => ?_
      exact Mapping.agree_update _ hplan hq fun hout => absurd hout hinPlan
  · left
    exact Mapping.agree_update _ hservice hq fun hout => absurd hout hinService

/-- What is left of settled parameters, whole or without their quota. -/
def LeftOf (m e : Mapping) : Prop := e = m ∨ e = Mapping.erase m Settings.quota

theorem LeftOf.find? {q : Value} {m e : Mapping} (h : LeftOf m e) (hq : q.isKey) :
    Mapping.find? e q = Mapping.find? m q ∨
      (q = .text Settings.quota ∧ Mapping.find? e q = none) := by
  rcases h with rfl | rfl
  · exact .inl rfl
  · rw [Mapping.find?_erase m Settings.quota hq]
    by_cases hquota : q.equal (.text Settings.quota)
    · rw [if_pos hquota]
      exact .inr ⟨Settings.eq_text_of_equal hq hquota, rfl⟩
    · rw [if_neg hquota]
      exact .inl rfl

/-- **Effective parameters are their own effective parameters**, also when their quota has been
taken out and not been forced on them again. -/
theorem EffectiveFor.again (h : EffectiveFor parameters plan service m m')
    (hplan : Keyed plan.serviceSettings) (hservice : Keyed service.serviceSettings) {e : Mapping}
    (he : LeftOf m' e) : ∃ n n' t, EffectiveFor (.mapping e) plan service n n' ∧
      Agree t n' ∧ (t = m' ∨ t = e) := by
  obtain ⟨m₀, _, rfl⟩ := given_of_mergeFor h.merged
  -- A quota that was taken out is back exactly if it is forced. Then the check comes to all of the
  -- parameters that had been settled, and otherwise to what was left of them.
  have hsettles : ∃ t, Settles (forcedOn e plan service) t ∧ (t = m' ∨ t = e) := by
    by_cases hback : Mapping.find? (forcedOn e plan service) (.text Settings.quota) =
        Mapping.find? (forcedOn m₀ plan service) (.text Settings.quota)
    · refine ⟨m', h.settles.again fun q hq => ?_, .inl rfl⟩
      rcases merged_again m₀ e hplan hservice hq with hforced | hkept
      · exact .inl ⟨hforced, rfl⟩
      · rcases he.find? hq with heq | ⟨rfl, _⟩
        · exact .inr ⟨hkept.trans heq, .inl rfl⟩
        · exact .inl ⟨hback, rfl⟩
    · refine ⟨e, h.settles.again fun q hq => ?_, .inr rfl⟩
      rcases merged_again m₀ e hplan hservice hq with hforced | hkept
      · rcases he.find? hq with heq | ⟨rfl, _⟩
        · exact .inl ⟨hforced, heq⟩
        · exact absurd hforced hback
      · rcases he.find? hq with heq | ⟨_, hnone⟩
        · exact .inr ⟨hkept, .inl heq⟩
        · exact .inr ⟨hkept, .inr hnone⟩
  obtain ⟨t, ht, hcases⟩ := hsettles
  obtain ⟨n', hn'⟩ := effective_of_valid (mergeFor_of_given (.mapping e) plan service)
    ht.toSettled.valid
  exact ⟨_, n', t, hn', ht.unique hn'.settles, hcases⟩

/-- What is left of parameters asks for the same policy. -/
theorem LeftOf.get {m e : Mapping} (h : LeftOf m e) {name : Text} (hne : name ≠ Settings.quota) :
    Mapping.get e name = Mapping.get m name := by
  rcases h.find? (q := .text name) rfl with heq | ⟨hname, _⟩
  · exact heq
  · exact absurd (Value.text.inj hname) hne

/-- Parameters that are left of effective ones pass where the merged parameters did. -/
theorem Provision.Admits.again {p : Provision} {d : Option Discovery} {given given' : Value}
    {t n n' : Mapping} (h : p.Admits d m) (hm : EffectiveFor given plan service m m')
    (hn : EffectiveFor given' plan service n n') (ht : LeftOf m' t) (hagree : Agree t n') :
    p.Admits d n := by
  by_cases hp : p.isOfBucket
  · obtain ⟨d', hd, hallowed⟩ := allowed_of_admits hm.settled hp h
    have hsame : ∀ name, name ≠ Settings.quota → Mapping.get n' name = Mapping.get m' name :=
      fun name hne => (hagree.get name).symm.trans (ht.get hne)
    rw [← ReclaimPolicy.isAllowed_congr (hsame _ (by decide)) (hsame _ (by decide))] at hallowed
    exact admits_of_allowed hn.settled ⟨d', hd, hallowed⟩
  · exact ⟨hn.settled.valid, fun h => absurd h hp⟩

/-- A request has one list of effective parameters. -/
theorem EffectiveFor.unique {n n' : Mapping} (h : EffectiveFor parameters plan service m m')
    (h' : EffectiveFor parameters plan service n n') : m = n ∧ m' = n' := by
  have hmerged := h.merged
  rw [h'.merged] at hmerged
  cases hmerged
  have hchecked := h.checked
  rw [h'.checked] at hchecked
  cases hchecked
  exact ⟨rfl, rfl⟩

end Merged

/-! ## 2. Creations -/

section Creations

variable {b : Broker} {k : Resource} {name group : Value} {record : Record} {m n : Mapping}

theorem creationCalls_congr (h : Agree m n) :
    b.creationCalls name record m k = b.creationCalls name record n k := by
  cases k with
  | bucket => simp only [creationCalls, quotaIn, periodIn, h.get]
  | space => simp only [creationCalls, quotaIn, classesWithin, h.get]

theorem description_congr (h : Agree m n) :
    b.description name group (.mapping m) k = b.description name group (.mapping n) k := by
  have hsame : Same (.mapping m) (.mapping n) := ⟨m, n, rfl, rfl, h⟩
  cases k with
  | bucket => exact hsame.bucketCreate name b.home group
  | space =>
    show Record.namespaceCreate name group _ = Record.namespaceCreate name group _
    rw [Record.namespaceCreate, Record.namespaceCreate, hsame.namespaceSettings]

/-- None of the calls that create a resource only reads. -/
theorem not_isReading_of_mem_creationCalls {c : Call} (h : c ∈ b.creationCalls name record m k) :
    c.isReading = false := by
  cases k with
  | bucket =>
    rcases List.mem_cons.1 h with rfl | h
    · rfl
    rcases List.mem_append.1 h with h | h
    · obtain ⟨q, _, rfl⟩ := List.mem_map.1 h
      rfl
    · obtain ⟨period, _, rfl⟩ := List.mem_map.1 h
      rfl
  | space =>
    rcases List.mem_cons.1 h with rfl | h
    · rfl
    rcases List.mem_append.1 h with h | h
    · obtain ⟨q, _, rfl⟩ := List.mem_map.1 h
      rfl
    · obtain ⟨e, _, rfl⟩ := List.mem_map.1 h
      rfl

theorem isReading_probe : (b.probe name k).isReading := by
  cases k <;> rfl

variable {id parameters v : Value} {plan : Plan} {service : ServiceDefinition}
  {d : Option Discovery} {es es' : List (Dialogue.Event Remote)} {r : Except Fault Value}

/-- What a creation gives back is what the check has made of the merged parameters. -/
theorem Creation.given (h : Creation b k id parameters plan service d es (.ok v)) :
    ∃ m m', EffectiveFor parameters plan service m m' ∧ v = .mapping m' := by
  generalize hresult : Except.ok v = r at h
  cases h with
  | unasked => cases hresult
  | there => cases hresult
  | unfit => cases hresult
  | @tried _ _ m m' _ _ _ u _ _ _ heffective =>
    cases u with
    | error f => cases hresult
    | ok u =>
      cases hresult
      exact ⟨m, m', heffective, rfl⟩

/-- **A creation is repeated by the same calls**, and gives back the same parameters. -/
theorem Creation.again (h : Creation b k id parameters plan service d es (.ok v))
    (hplan : Keyed plan.serviceSettings) (hservice : Keyed service.serviceSettings)
    (h' : Creation b k id v plan service d es' r) (hfresh : ∀ e ∈ es', isFresh e) :
    ∃ v', r = .ok v' ∧ Same v v' ∧ changes es' = changes es := by
  generalize hresult : Except.ok v = r₁ at h
  cases h with
  | unasked => cases hresult
  | there => cases hresult
  | unfit => cases hresult
  | @tried name g m m' d' record es u hname hsend hg heffective hadmits hd hrecord htried =>
    cases u with
    | error f => cases hresult
    | ok u =>
      cases hresult
      obtain ⟨n, n', t, hn, hagree, ht⟩ := heffective.again hplan hservice (.inl rfl)
      obtain rfl : t = m' := by rcases ht with ht | ht <;> exact ht
      have hchanges := htried.changes fun c => not_isReading_of_mem_creationCalls
      have hagain := hadmits.again heffective hn (.inl rfl) hagree
      cases h' with
      | unasked hun => exact absurd hsend (hun name hname)
      | there ha =>
        obtain ⟨f, rfl, hf⟩ := absent_of_isFresh (hfresh _ List.mem_cons_self) isReading_probe
        rw [ha f rfl] at hf
        cases hf
      | unfit _ hunfit =>
        rcases hunfit with hnone | hunfit
        · cases hd.symm.trans hnone
        · exact absurd ⟨hn.merged, hagain⟩ (hunfit n)
      | @tried name' g' m₁ n₁ d₁ record' es' u' hname' _ _ hn₁ _ hd₁ hrecord' htried' =>
        cases hname.symm.trans hname'
        cases hd.symm.trans hd₁
        obtain ⟨rfl, rfl⟩ := hn.unique hn₁
        rw [← description_congr hagree, hrecord] at hrecord'
        cases hrecord'
        obtain rfl := htried'.ok (fun c => not_isReading_of_mem_creationCalls) fun c x hx =>
          ok_of_isFresh (hfresh _ (List.mem_cons_of_mem _ hx))
        refine ⟨.mapping n', rfl, ⟨t, n', rfl, rfl, hagree⟩, ?_⟩
        have hchanges' := htried'.changes fun c => not_isReading_of_mem_creationCalls
        rw [changes_called, if_pos isReading_probe, changes_called, if_pos isReading_probe,
          hchanges, hchanges', creationCalls_congr hagree]

end Creations

/-! ## 3. Changes of plan -/

section PlanChanges

variable {b : Broker} {m n : Mapping} {limit warn : Int}

theorem leftOf_planResult (m : Mapping) (limit warn : Int) :
    LeftOf m (planResult m limit warn) := by
  unfold planResult
  split
  · exact .inr rfl
  · exact .inl rfl

/-- **What is given back comes to the sizes that have been decided about**, without a quota as well
as with one. -/
theorem sizeOf_planResult {size : Text} {i : Int}
    (h : sizeOf (.mapping m) size = .ok (.int i)) (hi : Unlimited limit warn → i = Settings.unset) :
    sizeOf (.mapping (planResult m limit warn)) size = .ok (.int i) := by
  unfold planResult
  by_cases hunset : Unlimited limit warn
  · rw [if_pos hunset, sizeOf, get_eq, Mapping.get_erase, if_pos rfl, hi hunset]
    rfl
  · rwa [if_neg hunset]

theorem planResult_planResult (m : Mapping) (limit warn : Int) :
    planResult (planResult m limit warn) limit warn = planResult m limit warn := by
  unfold planResult
  split
  · exact Mapping.erase_erase m Settings.quota
  · rfl

theorem agree_planResult (h : Agree m n) :
    Agree (planResult m limit warn) (planResult n limit warn) := by
  unfold planResult
  split
  · exact h.erase Settings.quota
  · exact h

theorem not_isReading_planCall {name : Value} :
    (b.planCall name limit warn).isReading = false := by
  unfold planCall
  split
  · rfl
  · rfl

variable {id parameters v : Value} {plan : Plan} {service : ServiceDefinition}
  {d : Option Discovery} {es es' : List (Dialogue.Event Remote)} {r : Except Fault Value}

/-- **A change of plan is repeated by the same call**, and gives back the same parameters, also when
it has removed the quota from them. -/
theorem PlanChange.again (h : PlanChange b id parameters plan service d es (.ok v))
    (hplan : Keyed plan.serviceSettings) (hservice : Keyed service.serviceSettings)
    (h' : PlanChange b id v plan service d es' r) (hfresh : ∀ e ∈ es', isFresh e) :
    ∃ v', r = .ok v' ∧ Same v v' ∧ changes es' = changes es := by
  generalize hresult : Except.ok v = r₁ at h
  cases h with
  | unasked => cases hresult
  | @asked name m m' limit warn a hname hsend heffective hadmits hlimit hwarn =>
    cases a with
    | error f => cases hresult
    | ok x =>
      cases hresult
      obtain ⟨n, n', t, hn, hagree, ht⟩ :=
        heffective.again hplan hservice (leftOf_planResult m' limit warn)
      have hleft : LeftOf m' t := by
        rcases ht with rfl | rfl
        · exact .inl rfl
        · exact leftOf_planResult m' limit warn
      -- Whether the quota is back or not, it comes to the sizes that have been decided about.
      have hsizes : sizeOf (.mapping t) Settings.limit = .ok (.int limit) ∧
          sizeOf (.mapping t) Settings.warn = .ok (.int warn) := by
        rcases ht with rfl | rfl
        · exact ⟨hlimit, hwarn⟩
        · exact ⟨sizeOf_planResult hlimit And.left, sizeOf_planResult hwarn And.right⟩
      have hgiven : planResult t limit warn = planResult m' limit warn := by
        rcases ht with rfl | rfl
        · rfl
        · exact planResult_planResult m' limit warn
      have hsame : Same (.mapping t) (.mapping n') := ⟨t, n', rfl, rfl, hagree⟩
      rw [hsame.sizeOf, hsame.sizeOf] at hsizes
      cases h' with
      | unasked hun =>
        rcases hun with hun | hunfit
        · exact absurd hsend (hun name hname)
        · exact absurd ⟨hn.merged, hadmits.again heffective hn hleft hagree⟩ (hunfit n)
      | @asked name' m₁ n₁ limit' warn' a' hname' _ hn₁ _ hlimit' hwarn' =>
        cases hname.symm.trans hname'
        obtain ⟨rfl, rfl⟩ := hn.unique hn₁
        cases hsizes.1.symm.trans hlimit'
        cases hsizes.2.symm.trans hwarn'
        cases a' with
        | error f =>
          cases ok_of_isFresh (hfresh _ List.mem_cons_self) not_isReading_planCall
        | ok x' =>
          refine ⟨_, rfl, ⟨_, _, rfl, rfl, ?_⟩, ?_⟩
          · rw [← hgiven]
            exact agree_planResult hagree
          · rw [changes_called, changes_called]

end PlanChanges

/-! ## 4. Over a session -/

variable (b : Broker)

/-- **Effective parameters are a fixed point.** What a request has given back can be given to it
again, for the same plan and service, on a storage that has nothing of the resource and accepts
every change: the same parameters are given back, and the same changes are made with the same
bodies. A change of plan of a namespace is left out, for it gives its classes back without those
that it has removed. -/
theorem effective_parameters_stable (p : Provision) (hp : p ≠ .changeNamespacePlan)
    (id parameters : Value) (service : ServiceDefinition) (plan : Plan)
    (hplan : Keyed plan.serviceSettings) (hservice : Keyed service.serviceSettings)
    {bs bs' : State} (hbs : bs'.discovery = bs.discovery) {v : Value} {σ σ' : Type}
    (w : Dialogue.World Wire σ) (st : σ) (s : Session) (w' : Dialogue.World Wire σ') (st' : σ')
    (s' : Session) :
    let x := (p.perform b id service plan parameters).run bs
    let x' := (p.perform b id service plan v).run bs'
    let es := (Session.turns w x s st).map Dialogue.Turn.event
    let es' := (Session.turns w' x' s' st').map Dialogue.Turn.event
    (Dialogue.run w (Session.carryOut x s) st).result.1.1 = .ok v → (∀ e ∈ es', isFresh e) →
      ∃ v', (Dialogue.run w' (Session.carryOut x' s') st').result.1.1 = .ok v' ∧ Same v v' ∧
        changes es' = changes es := by
  intro x x' es es' hfirst hfresh
  have hcourse := Action.course_iff.1 (Session.course_carryOut w x s st)
  have hcourse' := Action.course_iff.1 (Session.course_carryOut w' x' s' st')
  rw [hfirst] at hcourse
  cases p with
  | createBucket =>
    have h' := course_creation .bucket hcourse'
    rw [hbs] at h'
    exact (course_creation .bucket hcourse).again hplan hservice h' hfresh
  | createNamespace =>
    have h' := course_creation .space hcourse'
    rw [hbs] at h'
    exact (course_creation .space hcourse).again hplan hservice h' hfresh
  | changeBucketPlan =>
    have h' := course_changeBucketPlan hcourse'
    rw [hbs] at h'
    exact (course_changeBucketPlan hcourse).again hplan hservice h' hfresh
  | changeNamespacePlan => exact absurd rfl hp

/-- The creation of a bucket with a forced quota, in a world without the bucket. -/
def limitedCreation (parameters : Value) : Dialogue Remote (Except Fault Value × State) :=
  (Provision.createBucket.perform bare (.text "b") unlimited limited parameters).run discovering

/-- A retention that was asked for as a text is given back as an integer, and so it is asked for
again. -/
theorem effective_parameters_stable_forced :
    let s := Session.expired.withToken none
    let parameters := Value.mapping [(.text "default-retention", .text "30")]
    let run := fun x =>
      Dialogue.run Rehearsal.world (Session.carryOut (limitedCreation x) s) withoutB
    let events := fun x =>
      (Session.turns Rehearsal.world (limitedCreation x) s withoutB).map Dialogue.Turn.event
    ∃ v v', (run parameters).result.1.1 = .ok v ∧ (run v).result.1.1 = .ok v' ∧ Same v v' ∧
      changes (events v) = changes (events parameters) ∧ (changes (events v)).length = 3 := by
  intro s parameters run events
  let m := forcedOn [(.text "default-retention", .text "30")] limited unlimited
  let v := (Settings.check (.mapping m)).parameters
  have hruns : (run parameters).result.1.1.isOk ∧ (events v).all isFresh ∧
      (changes (events v)).length = 3 := by decide +kernel
  obtain ⟨hok, hfresh, hlength⟩ := hruns
  have hplan : Keyed limited.serviceSettings := by
    intro e he
    cases List.mem_singleton.1 he
    rfl
  have hservice : Keyed unlimited.serviceSettings := fun _ he => absurd he List.not_mem_nil
  have hresult : (run parameters).result.1.1 = .ok v := by
    have hcourse : Creation bare .bucket (.text "b") parameters limited unlimited
        discovering.discovery (events parameters) (run parameters).result.1.1 :=
      course_creation .bucket
        (Action.course_iff.1 (Session.course_carryOut _ (limitedCreation parameters) s withoutB))
    cases hr : (run parameters).result.1.1 with
    | error f =>
      rw [hr] at hok
      cases hok
    | ok u =>
      rw [hr] at hcourse
      obtain ⟨m₁, m', heffective, rfl⟩ := hcourse.given
      have hmerged := heffective.merged
      rw [mergeFor_of_given (.mapping _)] at hmerged
      cases hmerged
      exact congrArg (fun c => Except.ok c.parameters) heffective.checked.symm
  obtain ⟨v', hv', hsame, hchanges⟩ := bare.effective_parameters_stable .createBucket (by decide)
    (.text "b") parameters unlimited limited hplan hservice rfl Rehearsal.world withoutB s
    Rehearsal.world withoutB s hresult (List.all_eq_true.1 hfresh)
  exact ⟨v, v', hresult, hv', hsame, hchanges, hlength⟩

end StorageBroker.Broker
