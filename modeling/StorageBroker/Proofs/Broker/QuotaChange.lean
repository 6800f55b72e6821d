import StorageBroker.Proofs.Broker.Effective
import StorageBroker.Proofs.Broker.Forced
import StorageBroker.Proofs.Broker.Isolation
import StorageBroker.Proofs.Broker.Retention
/-!
# The quota of a bucket after a change of plan

A change of plan decides anew whether a bucket has a quota. What the merged parameters give for the
limit and for the warning is read first, in whatever form it came; only the two integers that come
out decide about the request, its body, and whether a quota is left in the parameters.

* `SizeRead` -- the integer that a size of the quota comes to;
* `PlanChange` -- how a change of plan can go;
* `course_changeBucketPlan` -- every change of plan goes in one of these ways;
* `plan_change_replaces_quota` -- a change of plan over a session, in every world;
* `plan_change_halfName_fails` -- the name of a bucket that cannot be sent stands in the way.
-/

namespace StorageBroker.Broker

open Management
open Settings (Settled)
open Text (Template.Sendable)

/-! ## 1. Sizes -/

/-- **The integer that a size of the quota comes to** in merged parameters: what is given for it,
read as an integer, and `unset` where nothing is given. -/
def SizeRead (m : Mapping) (size : Text) (i : Int) : Prop :=
  match Settings.sizeIn m size with
  | none => i = Settings.unset
  | some v => Settings.Reads v i

variable {m m' : Mapping}

/-- **Behind the check a size is what it was read as.** -/
theorem sizeRead_of_settled (h : Settled m m') {size : Text}
    (hsize : size = Settings.limit ∨ size = Settings.warn) :
    ∃ i, sizeOf (.mapping m') size = .ok (.int i) ∧ SizeRead m size i := by
  rw [sizeOf, get_eq]
  rcases h.quota_cases with ⟨habsent, hnone⟩ | ⟨q, q', hq, hq', hsizes⟩
  · rw [habsent.getD]
    refine ⟨Settings.unset, rfl, ?_⟩
    unfold SizeRead
    rw [hnone]
  · have hsizeIn : Settings.sizeIn m size = (Mapping.get q size).filter fun v => !v.isNull := by
      rw [Settings.sizeIn, hq]
    rw [hq', Option.getD_some]
    unfold SizeRead
    dsimp only [Except.bind, bind]
    rw [orElse_mapping, get_eq, hsizeIn]
    have hread := hsizes size hsize
    generalize Mapping.get q size = a, Mapping.get q' size = a' at hread
    cases hread with
    | missing => exact ⟨Settings.unset, rfl, rfl⟩
    | null => exact ⟨Settings.unset, rfl, rfl⟩
    | read hv hcheck =>
      obtain ⟨i, hi, rfl⟩ := Settings.checkInteger_eq_ok.1 hcheck
      rw [Option.filter_some, hv]
      exact ⟨i, rfl, hi⟩

/-- A size that is set stands in a quota. -/
theorem contains_of_sizeOf {size : Text} {i : Int}
    (h : sizeOf (.mapping m) size = .ok (.int i)) (hi : i ≠ Settings.unset) :
    Mapping.contains m Settings.quota := by
  cases hquota : Mapping.get m Settings.quota with
  | some v =>
    rw [Mapping.contains, hquota]
    rfl
  | none =>
    rw [sizeOf, get_eq, hquota] at h
    cases h
    exact absurd rfl hi

/-! ## 2. What a change of plan does -/

/-- Neither a limit nor a warning is set. -/
def Unlimited (limit warn : Int) : Prop := limit = Settings.unset ∧ warn = Settings.unset

instance (limit warn : Int) : Decidable (Unlimited limit warn) :=
  inferInstanceAs (Decidable (_ ∧ _))

variable (b : Broker)

/-- **The call of a change of plan**, for the sizes that the quota comes to. -/
def planCall (name : Value) (limit warn : Int) : Call :=
  if Unlimited limit warn then b.noBucketQuota name
  else b.bucketQuota name (.int limit) (.int warn)

/-- **The parameters that a change of plan gives back.** -/
def planResult (m : Mapping) (limit warn : Int) : Mapping :=
  if Unlimited limit warn then Mapping.erase m Settings.quota else m

/-- **How a change of plan can go**: it ends before anything is asked, because the bucket cannot be
named or the parameters do not pass, or it makes one call. -/
inductive PlanChange (id parameters : Value) (plan : Plan) (service : ServiceDefinition)
    (d : Option Discovery) : List (Dialogue.Event Remote) → Except Fault Value → Prop where
  | unasked {f : Fault}
      (h : b.Unnamable id ∨ ∀ m, ¬ Fit .changeBucketPlan d parameters plan service m) :
      PlanChange id parameters plan service d [] (.error f)
  | asked {name : Value} {m m' : Mapping} {limit warn : Int} {a : Except Fault Response}
      (hname : b.nameOf id = .ok name) (hsend : Template.Sendable name.plain)
      (heffective : EffectiveFor parameters plan service m m')
      (hadmits : Provision.changeBucketPlan.Admits d m)
      (hlimit : sizeOf (.mapping m') Settings.limit = .ok (.int limit))
      (hwarn : sizeOf (.mapping m') Settings.warn = .ok (.int warn)) :
      PlanChange id parameters plan service d [called (b.planCall name limit warn) a]
        ((a.map fun _ => .mapping (planResult m' limit warn)).mapError Fault.wrap)

/-- Exactly a quota that is set is given back. -/
theorem contains_planResult {limit warn : Int}
    (hlimit : sizeOf (.mapping m) Settings.limit = .ok (.int limit))
    (hwarn : sizeOf (.mapping m) Settings.warn = .ok (.int warn)) :
    Mapping.contains (planResult m limit warn) Settings.quota ↔ ¬ Unlimited limit warn := by
  unfold planResult
  by_cases hunset : Unlimited limit warn
  · rw [if_pos hunset, Mapping.contains, Mapping.get_erase, if_pos rfl]
    exact ⟨nofun, fun h => absurd hunset h⟩
  · rw [if_neg hunset]
    refine ⟨fun _ => hunset, fun _ => ?_⟩
    by_cases hl : limit = Settings.unset
    · exact contains_of_sizeOf hwarn fun hw => hunset ⟨hl, hw⟩
    · exact contains_of_sizeOf hlimit hl

/-- All but the quota is given back as it is. -/
theorem find?_planResult {limit warn : Int} {q : Value} (hq : q.isKey)
    (hne : ¬ q.equal (.text Settings.quota)) :
    Mapping.find? (planResult m limit warn) q = Mapping.find? m q := by
  unfold planResult
  split
  · rw [Mapping.find?_erase m Settings.quota hq, if_neg hne]
  · rfl

section Courses

variable {b} {id name parameters : Value} {plan : Plan} {service : ServiceDefinition}
  {s s' : State} {es : List (Dialogue.Event Remote)}

/-- What replaces the quota of a bucket, once its sizes are known. -/
def replaceQuota (b : Broker) (given name : Value) (m : Mapping) (limit warn : Int) :
    Operation Value :=
  if isUnset (.int limit) && isUnset (.int warn) then do
    let effective ← without (.mapping m) Settings.quota
    note given effective
    Bucket.deleteQuota name b.home
    return effective
  else do
    Bucket.createQuota name b.home (.int limit) (.int warn)
    return .mapping m

theorem isUnset_and {limit warn : Int} :
    (isUnset (.int limit) && isUnset (.int warn)) = decide (Unlimited limit warn) := by
  rw [isUnset, isUnset, Value.equal_int_int, Value.equal_int_int, ← Bool.decide_and]
  rfl

/-- **A quota is replaced by one call**, which the sizes decide about. -/
theorem performs_replaceQuota {given : Value} {limit warn : Int}
    (hsend : Template.Sendable name.plain) :
    Performs [b.planCall name limit warn] (.mapping (planResult m limit warn))
      (b.replaceQuota given name m limit warn) := by
  unfold replaceQuota planCall planResult
  rw [isUnset_and]
  by_cases hunset : Unlimited limit warn
  · rw [if_pos (decide_eq_true hunset), if_pos hunset, if_pos hunset]
    have hwithout : without (.mapping m) Settings.quota =
        .ok (.mapping (Mapping.erase m Settings.quota)) := rfl
    exact .lift_bind hwithout (.modify_bind (performs_deleteQuota hsend).andReturn)
  · rw [if_neg fun h => hunset (of_decide_eq_true h), if_neg hunset, if_neg hunset]
    exact (performs_createQuota hsend).andReturn

/-- A bucket that cannot be named is not called for. -/
theorem course_unsendable {k : Resource} {part : String} {f : Value → Operation Unit} {v : Value}
    {r : Except Fault Value} (hsend : ¬ Template.Sendable name.plain)
    (h : ((path (k.template part) [name] >>= f) >>= fun _ => pure v : Operation Value).Course
      s es r s') : es = [] ∧ ∃ e, r = .error e := by
  have hpath : ∀ {es r s'}, (path (k.template part) [name] >>= f).Course s es r s' →
      es = [] ∧ ∃ e, r = .error e := by
    intro es r s' hcourse
    obtain ⟨m, _, rfl, rfl, _⟩ | ⟨p, hp, _⟩ := course_path_bind.1 hcourse
    · exact ⟨rfl, _, rfl⟩
    · obtain ⟨cs, hcs, _⟩ := fill_template.1 hp
      exact absurd (Text.Template.encoded_eq_ok.1 hcs).1 hsend
  obtain ⟨e, hfirst, rfl⟩ | ⟨_, _, _, _, hfirst, _⟩ := Action.course_bind.1 h
  · exact ⟨(hpath hfirst).1, e, rfl⟩
  · obtain ⟨_, _, hr⟩ := hpath hfirst
    cases hr

theorem course_replaceQuota_unsendable {given : Value} {limit warn : Int}
    {r : Except Fault Value} (hsend : ¬ Template.Sendable name.plain)
    (h : (b.replaceQuota given name m limit warn).Course s es r s') :
    es = [] ∧ ∃ e, r = .error e := by
  unfold replaceQuota at h
  split at h
  · obtain ⟨x, hx, _⟩ | ⟨v, _, h⟩ := Action.course_lift_malformed_bind.1 h
    · cases hx
    · exact course_unsendable (k := .bucket) hsend (Action.course_modify_bind.1 h)
  · exact course_unsendable (k := .bucket) hsend h

/-- **Every change of plan goes in one of its ways.** -/
theorem course_changeBucketPlan {r : Except Fault Value}
    (h : (b.changeBucketPlan id service plan parameters).Course s es r s') :
    PlanChange b id parameters plan service s.discovery es r := by
  obtain ⟨r', hinner, rfl⟩ := Action.course_mapFault.1 (Action.course_modify_bind.1 h)
  obtain ⟨rfl, ⟨e, rfl⟩, hinvalid⟩ | ⟨m, m', s₁, heffective, hs₁, hbehind⟩ :=
    course_effective_bind hinner
  · exact .unasked (.inr fun m hfit => hinvalid m hfit.1 hfit.2.valid)
  have hsettled := heffective.settled
  obtain ⟨rfl, ⟨e, rfl⟩, hrefused⟩ | ⟨d, hd, hallowed, hbehind⟩ := course_checkPolicy_bind hbehind
  · refine .unasked (.inr fun n hfit => ?_)
    have hn := hfit.1
    rw [heffective.merged] at hn
    cases hn
    obtain ⟨d, hd, hallowed⟩ := allowed_of_admits hsettled rfl hfit.2
    exact hrefused d (hs₁.trans hd) hallowed
  have hadmits : Provision.changeBucketPlan.Admits s.discovery m :=
    admits_of_allowed hsettled ⟨d, hs₁.symm.trans hd, hallowed⟩
  obtain ⟨x, hx, rfl, rfl, _⟩ | ⟨name, hname, hbehind⟩ :=
    Action.course_lift_malformed_bind.1 hbehind
  · exact .unasked (.inl (unnamable_of_error hx))
  obtain ⟨limit, hlimit, _⟩ := sizeRead_of_settled hsettled (.inl rfl)
  obtain ⟨warn, hwarn, _⟩ := sizeRead_of_settled hsettled (.inr rfl)
  obtain ⟨_, hx, _⟩ | ⟨_, hx, hbehind⟩ := Action.course_lift_malformed_bind.1 hbehind
  · cases hlimit.symm.trans hx
  cases hlimit.symm.trans hx
  obtain ⟨_, hx, _⟩ | ⟨_, hx, hbehind⟩ := Action.course_lift_malformed_bind.1 hbehind
  · cases hwarn.symm.trans hx
  cases hwarn.symm.trans hx
  replace hbehind : (b.replaceQuota parameters name m' limit warn).Course s₁ es r' s' := hbehind
  by_cases hsend : Template.Sendable name.plain
  · obtain ⟨u, htried, rfl⟩ := performs_replaceQuota hsend _ _ _ _ hbehind
    obtain ⟨a, rfl, rfl⟩ := htried.single
    have hasked := PlanChange.asked (a := a) hname hsend heffective hadmits hlimit hwarn
    cases a with
    | ok x => exact hasked
    | error f => exact hasked
  · obtain ⟨rfl, e, rfl⟩ := course_replaceQuota_unsendable hsend hbehind
    exact .unasked (.inl (unnamable_of_unsendable hname hsend))

end Courses

/-! ## 3. Over a session -/

/-- **A change of plan replaces the quota of a bucket by one call.** The limit and the warning are
read out of the merged parameters; if neither is set the quota is removed, and otherwise it is set
to what was read. When the call is accepted there is a quota in the parameters that are given back
exactly if it was set, and all else in them is as the check has left it; when it is refused, its
failure is reported. -/
theorem plan_change_replaces_quota (id parameters : Value) (service : ServiceDefinition)
    (plan : Plan) {name : Value} {m : Mapping} {bs : State} (hname : b.nameOf id = .ok name)
    (hsend : Template.Sendable name.plain)
    (hmerge : Settings.mergeFor parameters plan service = .ok (.mapping m))
    (hadmits : Provision.changeBucketPlan.Admits bs.discovery m) {σ : Type}
    (w : Dialogue.World Wire σ) (st : σ) (s : Session) :
    let x := (b.changeBucketPlan id service plan parameters).run bs
    let o := Dialogue.run w (Session.carryOut x s) st
    ∃ m' limit warn c a, Settings.check (.mapping m) = ⟨.mapping m', none⟩ ∧
      SizeRead m Settings.limit limit ∧ SizeRead m Settings.warn warn ∧
      (Session.turns w x s st).map Dialogue.Turn.event = [called c a] ∧
      (Unlimited limit warn → c = b.noBucketQuota name) ∧
      (¬ Unlimited limit warn → c = b.bucketQuota name (.int limit) (.int warn)) ∧
      (∀ f, a = .error f → o.result.1.1 = .error f.wrap) ∧
      ∀ y, a = .ok y → ∃ n, o.result.1.1 = .ok (.mapping n) ∧
        (Mapping.contains n Settings.quota ↔ ¬ Unlimited limit warn) ∧
        ∀ q : Value, q.isKey → ¬ q.equal (.text Settings.quota) →
          Mapping.find? n q = Mapping.find? m' q := by
  intro x o
  have hcourse := course_changeBucketPlan (Action.course_iff.1 (Session.course_carryOut w x s st))
  have hresult : o.result.1.1 = (Dialogue.run w (Session.carryOut x s) st).result.1.1 := rfl
  rw [hresult]
  generalize (Dialogue.run w (Session.carryOut x s) st).result.1.1 = r at hcourse
  generalize (Session.turns w x s st).map Dialogue.Turn.event = events at hcourse
  cases hcourse with
  | unasked h =>
    rcases h with h | h
    · exact absurd hsend (h name hname)
    · exact absurd ⟨hmerge, hadmits⟩ (h m)
  | @asked name' m₁ m' limit warn a hname' _ heffective _ hlimit hwarn =>
    rw [hname] at hname'
    cases hname'
    have hm := heffective.merged
    rw [hmerge] at hm
    cases hm
    have hsettled := heffective.settled
    obtain ⟨i, hi, hlimitRead⟩ := sizeRead_of_settled hsettled (.inl rfl)
    cases hlimit.symm.trans hi
    obtain ⟨j, hj, hwarnRead⟩ := sizeRead_of_settled hsettled (.inr rfl)
    cases hwarn.symm.trans hj
    refine ⟨m', limit, warn, _, a, heffective.checked, hlimitRead, hwarnRead, rfl,
      fun h => if_pos h, fun h => if_neg h, ?_, ?_⟩
    · rintro f rfl
      rfl
    · rintro y rfl
      exact ⟨_, rfl, contains_planResult hlimit hwarn, fun q hq hne => find?_planResult hq hne⟩

/-- A change to a plan that forces nothing, in a world that accepts everything. -/
def replanning (id : Value) (asked : Mapping) : Dialogue Remote (Except Fault Value × State) :=
  (bare.changeBucketPlan id unlimited unforced (.mapping asked)).run discovering

/-- A limit that is given as the text `-1`, and no warning: the quota is removed, and all else
stays in the parameters. -/
theorem plan_change_replaces_quota_removed :
    let asked : Mapping :=
      [(.text "quota", .mapping [(.text "limit", .text "-1")]), (.text "head-type", .text "s3")]
    let s := Session.expired.withToken none
    let o := Dialogue.run Rehearsal.world
      (Session.carryOut (replanning (.text "b") asked) s) singleObject
    o.events.filterMap addressOf = (["https://ecs:4443/login",
        "https://ecs:4443/object/bucket/ecs-cf-broker-b/quota"] : List Text) ∧
      (Session.turns Rehearsal.world (replanning (.text "b") asked) s singleObject).map
        (fun t => t.event.question) = [.call (bare.noBucketQuota (.text "ecs-cf-broker-b"))] ∧
      ∃ n, o.result.1.1 = .ok (.mapping n) ∧ Mapping.contains n "quota" = false ∧
        Mapping.get n "head-type" = some (.text "s3") := by
  intro asked s o
  have hrun : o.events.filterMap addressOf = (["https://ecs:4443/login",
      "https://ecs:4443/object/bucket/ecs-cf-broker-b/quota"] : List Text) ∧ o.result.1.1.isOk := by
    decide +kernel
  obtain ⟨hevents, hok⟩ := hrun
  have hmerge : Settings.mergeFor (.mapping asked) unforced unlimited = .ok (.mapping asked) := rfl
  have hname : bare.nameOf (.text "b") = .ok (.text "ecs-cf-broker-b") := rfl
  obtain ⟨m', limit, warn, c, a, hcheck, hlimit, hwarn, hturns, hremoved, _, hfails, hgiven⟩ :=
    bare.plan_change_replaces_quota (.text "b") (.mapping asked) unlimited unforced hname
      (by decide +kernel) hmerge (admits_discovering (by decide +kernel) (by decide +kernel))
      Rehearsal.world singleObject s
  have hsizes : Settings.sizeIn asked Settings.limit = some (.text "-1") ∧
      Settings.sizeIn asked Settings.warn = none := by
    simp [asked, Settings.sizeIn, Settings.quota, Settings.limit, Settings.warn, Mapping.get_cons,
      Mapping.get_nil, Mapping.text_equal_text, Value.isNull]
  simp only [SizeRead, hsizes.1, hsizes.2] at hlimit hwarn
  have hminus : (Value.text "-1").toInteger = .ok (-1) := by decide +kernel
  have hunset : Unlimited limit warn := ⟨Except.ok.inj (hlimit.2.symm.trans hminus), hwarn⟩
  refine ⟨hevents, ?_, ?_⟩
  · show List.map (Dialogue.Event.question ∘ Dialogue.Turn.event) _ = _
    replace hturns : (Session.turns Rehearsal.world (replanning (.text "b") asked) s
      singleObject).map Dialogue.Turn.event = [called c a] := hturns
    rw [← List.map_map, hturns, hremoved hunset]
    rfl
  · cases a with
    | error f =>
      rw [show o.result.1.1 = .error f.wrap from hfails f rfl] at hok
      cases hok
    | ok y =>
      obtain ⟨n, hn, hcontains, hother⟩ := hgiven y rfl
      refine ⟨n, hn, Bool.eq_false_iff.2 fun h => hcontains.1 h hunset, ?_⟩
      have hsettled := (EffectiveFor.mk hmerge hcheck).settled
      have hhead : Mapping.get n "head-type" = Mapping.get m' "head-type" :=
        hother (.text "head-type") rfl (by decide +kernel)
      rw [hhead, hsettled.other "head-type" (by decide)]
      simp [asked, Mapping.get_cons, Mapping.text_equal_text]

/-- **A bucket whose name has half of a pair is not called for at all**, though its parameters pass:
its address cannot be written. -/
theorem plan_change_halfName_fails :
    let x := replanning (.text Text.unpaired) []
    Settings.mergeFor (.mapping []) unforced unlimited = .ok (.mapping []) ∧
      Provision.changeBucketPlan.Admits discovering.discovery [] ∧
      Session.turns Rehearsal.world x (Session.expired.withToken none) singleObject = [] := by
  refine ⟨rfl, admits_discovering (by decide +kernel) (by decide +kernel), ?_⟩
  exact List.eq_nil_of_length_eq_zero (by decide +kernel)

end StorageBroker.Broker
