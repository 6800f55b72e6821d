import StorageBroker.Proofs.Broker.Provisioning
import StorageBroker.Proofs.Broker.Wiping
import StorageBroker.Proofs.Parallel
import StorageBroker.Proofs.Value.Keys
/-!
# Forced settings

What the administrator forces cannot be influenced by a request. Two requests whose parameters
differ under nothing but keys of forced settings are the same request: they send the same, and come
to the same effective parameters or to the same failure.

* `Same` -- parameters in which the same is found under every key;
* `same_of_merge` -- merging makes parameters the same that differ under forced keys only;
* `Provision.matched` -- a provision runs in parallel for parameters that are the same once merged;
* `forced_settings_prevail` -- the same over a session, in every world.
-/

namespace StorageBroker.Broker

open Management
open StorageBroker.Action (Alike Matched matched_pure matched_throw matched_throw_bind matched_lift
  matched_modify)
open Mapping (Agree Keyed)

/-! ## 1. Parameters -/

/-- What is given as parameters of a request: nothing, or a mapping. -/
inductive Given : Value → Mapping → Prop where
  | nothing : Given .null []
  | mapping (m : Mapping) : Given (.mapping m) m

/-- **Parameters that are the same**: mappings in which the same is found under every key. -/
def Same (v v' : Value) : Prop := ∃ m m', v = .mapping m ∧ v' = .mapping m' ∧ Agree m m'

/-- **Parameters that differ under forced keys only.** -/
def SameUnforced (plan : Plan) (service : ServiceDefinition) (m m' : Mapping) : Prop :=
  ∀ q : Value, q.isKey → (∀ e ∈ plan.serviceSettings, ¬ q.equal e.1) →
    (∀ e ∈ service.serviceSettings, ¬ q.equal e.1) → Mapping.find? m q = Mapping.find? m' q

/-- The settings forced on given parameters. -/
theorem mergeFor_of_given {v : Value} {m : Mapping} (h : Given v m) (plan : Plan)
    (service : ServiceDefinition) : Settings.mergeFor v plan service =
      .ok (.mapping (Mapping.update (Mapping.update m plan.serviceSettings)
        service.serviceSettings)) := by
  have happly : ∀ m settings : Mapping, Settings.apply (.mapping m) (.mapping settings) =
      .ok (.mapping (Mapping.update m settings)) := by
    intro m settings
    cases settings with
    | nil => rfl
    | cons e rest => rfl
  have hstart : Settings.start v = .mapping m := by cases h <;> rfl
  rw [Settings.mergeFor, Settings.merge, hstart, List.foldlM_cons, happly]
  show List.foldlM Settings.apply _ _ = _
  rw [List.foldlM_cons, happly]
  rfl

/-- **Merging makes the same** what differs under forced keys only. -/
theorem same_of_merge {plan : Plan} {service : ServiceDefinition} {v v' : Value} {m m' : Mapping}
    (hv : Given v m) (hv' : Given v' m') (hplan : Keyed plan.serviceSettings)
    (hservice : Keyed service.serviceSettings) (h : SameUnforced plan service m m') :
    ∃ n n', Settings.mergeFor v plan service = .ok n ∧
      Settings.mergeFor v' plan service = .ok n' ∧ Same n n' := by
  refine ⟨_, _, mergeFor_of_given hv plan service, mergeFor_of_given hv' plan service,
    _, _, rfl, rfl, fun q hq => ?_⟩
  refine Mapping.agree_update _ hservice hq fun hout => ?_
  exact Mapping.agree_update _ hplan hq fun hout' => h q hq hout' hout

section Readings

variable {v v' : Value}

theorem Same.getD (h : Same v v') (name : Text) (fallback : Value) :
    v.getD name fallback = v'.getD name fallback := by
  obtain ⟨m, m', rfl, rfl, h⟩ := h
  show Except.ok _ = Except.ok _
  rw [h.get]

theorem Same.get (h : Same v v') (name : Text) : v.get name = v'.get name :=
  h.getD name .null

theorem Same.settingOf (h : Same v v') (name : Text) (fallback : Value) :
    ReclaimPolicy.settingOf v name fallback = ReclaimPolicy.settingOf v' name fallback := by
  obtain ⟨m, m', rfl, rfl, h⟩ := h
  rw [ReclaimPolicy.settingOf_mapping, ReclaimPolicy.settingOf_mapping, h.get]

/-- A policy check finds the same in the same parameters. -/
theorem Same.ofParameters (h : Same v v') (default : Value) :
    ReclaimPolicy.Check.ofParameters v default = ReclaimPolicy.Check.ofParameters v' default := by
  simp only [ReclaimPolicy.Check.ofParameters, ReclaimPolicy.requested, ReclaimPolicy.allowed,
    h.settingOf]

theorem Same.bucketCreate (h : Same v v') (name ns group : Value) :
    Record.bucketCreate name ns group v = Record.bucketCreate name ns group v' := by
  simp only [Record.bucketCreate, Record.flag, h.get, h.getD]

theorem Same.namespaceSettings (h : Same v v') :
    Record.namespaceSettings v = Record.namespaceSettings v' := by
  simp only [Record.namespaceSettings, Record.flag, h.get]

theorem Same.sizeOf (h : Same v v') (name : Text) : sizeOf v name = sizeOf v' name := by
  rw [Broker.sizeOf, Broker.sizeOf, h.get]

theorem Same.classesIn (h : Same v v') : classesIn v = classesIn v' := by
  rw [Broker.classesIn, Broker.classesIn, h.get]

/-- Parameters without a setting stay the same. -/
theorem Same.without (h : Same v v') (name : Text) :
    ∃ n n', without v name = .ok n ∧ without v' name = .ok n' ∧ Same n n' := by
  obtain ⟨m, m', rfl, rfl, h⟩ := h
  exact ⟨_, _, rfl, rfl, _, _, rfl, rfl, h.erase name⟩

/-- The settings check finds the same, and leaves the same. -/
theorem same_of_checkAll (checks : List (Text × (Value → Except Fault Value))) {m m' : Mapping}
    (h : Agree m m') : (Settings.checkAll checks m).fault = (Settings.checkAll checks m').fault ∧
      Same (Settings.checkAll checks m).parameters (Settings.checkAll checks m').parameters := by
  induction checks generalizing m m' with
  | nil => exact ⟨rfl, m, m', rfl, rfl, h⟩
  | cons c rest ih =>
    obtain ⟨name, check⟩ := c
    rw [Settings.checkAll, Settings.checkAll, h.get name]
    cases Mapping.get m' name with
    | none => exact ih h
    | some w =>
      dsimp only
      by_cases hnull : w.isNull
      · rw [if_pos hnull, if_pos hnull]
        exact ih h
      · rw [if_neg hnull, if_neg hnull]
        cases check w with
        | ok w' => exact ih (h.set name w')
        | error f => exact ⟨rfl, m, m', rfl, rfl, h⟩

theorem Same.check (h : Same v v') : (Settings.check v).fault = (Settings.check v').fault ∧
    Same (Settings.check v).parameters (Settings.check v').parameters := by
  obtain ⟨m, m', rfl, rfl, h⟩ := h
  exact same_of_checkAll _ h

end Readings

/-! ## 2. Parts of provisions -/

/-- States of a broker that differ in what has become of parameters only. -/
def SameState (s s' : State) : Prop := s.discovery = s'.discovery ∧ s.wipeReady = s'.wipeReady

section Parts

variable {v v' : Value}

/-- What is noted of parameters makes no difference. -/
theorem matched_note {given now given' now' : Value} :
    Matched SameState Eq (note given now) (note given' now') :=
  matched_modify fun _ _ hs => hs

theorem matched_discovered : Matched SameState Eq discovered discovered := by
  refine .get_bind fun s s' hs => ?_
  rw [hs.1]
  cases s'.discovery with
  | some d => exact matched_pure rfl
  | none => exact matched_throw

theorem matched_perform {c : Call} :
    Matched SameState Eq (perform c : Operation Unit) (perform c) :=
  Remote.matched_call.bind_same fun _ => matched_pure rfl

theorem matched_path {t : Text.Template} {args : List Value} :
    Matched SameState Eq (path t args : Operation Value) (path t args) :=
  matched_lift.bind_same fun _ => matched_pure rfl

theorem matched_perform_path {t : Text.Template} {args : List Value} {k : Value → Call} :
    Matched SameState Eq (path t args >>= fun p => perform (k p) : Operation Unit)
      (path t args >>= fun p => perform (k p)) :=
  matched_path.bind_same fun _ => matched_perform

theorem matched_written {t : Text.Template} {args : List Value} {v : Value}
    {k : Value → Value → Call} :
    Matched SameState Eq
      (path t args >>= fun p => liftM (bodyOf v) >>= fun body => perform (k p body) :
        Operation Unit)
      (path t args >>= fun p => liftM (bodyOf v) >>= fun body => perform (k p body)) :=
  matched_path.bind_same fun _ => matched_lift.bind_same fun _ => matched_perform

theorem matched_existence {t : Text.Template} {args : List Value} {k : Value → Call} :
    Matched SameState Eq (path t args >>= fun p => existence (k p) : Operation Bool)
      (path t args >>= fun p => existence (k p)) := by
  refine matched_path.bind_same fun p => matched_perform.attempt.bind fun r r' hr => ?_
  cases hr with
  | ok => exact matched_pure rfl
  | error f =>
    dsimp only
    split
    · exact matched_pure rfl
    · exact matched_throw

/-- **Parameters that are the same once merged** come to the same effective parameters, or fail in
the same way. -/
theorem matched_effective {plan : Plan} {service : ServiceDefinition} {n n' : Value}
    (hv : Settings.mergeFor v plan service = .ok n)
    (hv' : Settings.mergeFor v' plan service = .ok n') (h : Same n n') :
    Matched SameState Same (effective v plan service) (effective v' plan service) := by
  unfold effective
  rw [hv, hv']
  obtain ⟨hfault, hsame⟩ := h.check
  refine .ok_bind <| matched_note.bind fun _ _ _ => matched_note.bind fun _ _ _ => ?_
  rw [hfault]
  cases (Settings.check n').fault with
  | some f => exact matched_throw
  | none => exact matched_pure hsame

theorem matched_checkPolicy (h : Same v v') :
    Matched SameState Eq (checkPolicy v) (checkPolicy v') := by
  refine matched_discovered.bind_same fun d => ?_
  rw [h.ofParameters]
  refine matched_lift.bind_same fun c => ?_
  cases c.failure with
  | none => exact matched_pure rfl
  | some f => exact matched_throw

variable (b : Broker)

theorem matched_bucketExists {id : Value} :
    Matched SameState Eq (b.bucketExists id) (b.bucketExists id) :=
  .mapFault (matched_lift.bind_same fun _ => matched_existence) _

theorem matched_namespaceExists {id : Value} :
    Matched SameState Eq (b.namespaceExists id) (b.namespaceExists id) :=
  .mapFault (matched_lift.bind_same fun _ => matched_existence) _

theorem matched_applyBucketQuota {name : Value} (h : Same v v') :
    Matched SameState Eq (b.applyBucketQuota name v) (b.applyBucketQuota name v') := by
  unfold applyBucketQuota
  rw [h.get]
  refine matched_lift.bind_same fun quota => ?_
  split
  · exact matched_lift.bind_same fun _ => matched_lift.bind_same fun _ => matched_perform_path
  · exact matched_pure rfl

theorem matched_applyBucketRetention {name : Value} (h : Same v v') :
    Matched SameState Eq (b.applyBucketRetention name v) (b.applyBucketRetention name v') := by
  unfold applyBucketRetention
  rw [h.get]
  refine matched_lift.bind_same fun period => ?_
  split
  · exact matched_perform_path
  · exact matched_pure rfl

theorem matched_applyNamespaceQuota {name : Value} (h : Same v v') :
    Matched SameState Eq (applyNamespaceQuota name v) (applyNamespaceQuota name v') := by
  unfold applyNamespaceQuota
  rw [h.get]
  refine matched_lift.bind_same fun quota => ?_
  split
  · exact matched_lift.bind_same fun _ => matched_lift.bind_same fun _ => matched_written
  · exact matched_pure rfl

theorem matched_createClasses {name : Value} (classes : Mapping) :
    Matched SameState Eq (createClasses name classes) (createClasses name classes) := by
  induction classes with
  | nil => exact matched_pure rfl
  | cons entry rest ih => exact matched_perform_path.bind_same fun _ => ih

/-- The classes are the same, and so is what is left of the parameters. -/
theorem matched_reconcile {given given' name : Value} (classes : Mapping) (h : Same v v') :
    Matched SameState Same (reconcile given name classes v) (reconcile given' name classes v') := by
  induction classes generalizing v v' with
  | nil => exact matched_pure h
  | cons entry rest ih =>
    refine Matched.bind_same matched_existence fun there => ?_
    dsimp only
    split
    · split
      · refine Matched.bind_same matched_perform_path fun _ => ?_
        obtain ⟨n, n', hn, hn', hsame⟩ := h.without Settings.retention
        rw [hn, hn']
        exact .ok_bind <| matched_note.bind fun _ _ _ => ih hsame
      · exact ih h
    · split
      · exact Matched.bind_same matched_perform_path fun _ => ih h
      · exact Matched.bind_same matched_perform_path fun _ => ih h

end Parts

/-! ## 3. Provisions -/

section Provisions

variable (b : Broker) {id v v' n n' : Value} {plan : Plan} {service : ServiceDefinition}

theorem matched_createBucket (hv : Settings.mergeFor v plan service = .ok n)
    (hv' : Settings.mergeFor v' plan service = .ok n') (h : Same n n') :
    Matched SameState Same (b.createBucket id service plan v) (b.createBucket id service plan v') := by
  refine matched_note.bind fun _ _ _ => .mapFault ?_ _
  refine matched_lift.bind_same fun name => b.matched_bucketExists.bind_same fun there => ?_
  cases there with
  | true => exact matched_throw_bind
  | false =>
    refine (matched_effective hv hv' h).bind fun e e' he => ?_
    refine (matched_checkPolicy he).bind fun _ _ _ => matched_discovered.bind_same fun d => ?_
    rw [he.bucketCreate]
    refine matched_lift.bind_same fun body => ?_
    refine Matched.bind_same (matched_lift.bind_same fun _ => matched_perform) fun _ => ?_
    refine (b.matched_applyBucketQuota he).bind fun _ _ _ => ?_
    exact (b.matched_applyBucketRetention he).bind fun _ _ _ => matched_pure he

theorem matched_changeBucketPlan (hv : Settings.mergeFor v plan service = .ok n)
    (hv' : Settings.mergeFor v' plan service = .ok n') (h : Same n n') :
    Matched SameState Same (b.changeBucketPlan id service plan v)
      (b.changeBucketPlan id service plan v') := by
  refine matched_note.bind fun _ _ _ => .mapFault ?_ _
  refine (matched_effective hv hv' h).bind fun e e' he => ?_
  refine (matched_checkPolicy he).bind fun _ _ _ => matched_lift.bind_same fun name => ?_
  rw [he.sizeOf, he.sizeOf]
  refine matched_lift.bind_same fun limit => matched_lift.bind_same fun warn => ?_
  split
  · obtain ⟨w, w', hw, hw', hsame⟩ := he.without Settings.quota
    rw [hw, hw']
    refine .ok_bind <| matched_note.bind fun _ _ _ => ?_
    exact Matched.bind_same matched_perform_path fun _ => matched_pure hsame
  · exact Matched.bind_same matched_perform_path fun _ => matched_pure he

theorem matched_createNamespace (hv : Settings.mergeFor v plan service = .ok n)
    (hv' : Settings.mergeFor v' plan service = .ok n') (h : Same n n') :
    Matched SameState Same (b.createNamespace id service plan v)
      (b.createNamespace id service plan v') := by
  refine matched_note.bind fun _ _ _ => .mapFault ?_ _
  refine b.matched_namespaceExists.bind_same fun there => ?_
  cases there with
  | true => exact matched_throw_bind
  | false =>
    refine (matched_effective hv hv' h).bind fun e e' he => ?_
    refine matched_lift.bind_same fun name => matched_discovered.bind_same fun d => ?_
    rw [Record.namespaceCreate, Record.namespaceCreate, he.namespaceSettings]
    refine matched_lift.bind_same fun body => ?_
    refine Matched.bind_same (matched_lift.bind_same fun _ => matched_perform) fun _ => ?_
    refine (matched_applyNamespaceQuota he).bind fun _ _ _ => ?_
    rw [he.classesIn]
    refine matched_lift.bind_same fun classes => ?_
    exact (matched_createClasses classes).bind_same fun _ => matched_pure he

theorem matched_changeNamespacePlan (hv : Settings.mergeFor v plan service = .ok n)
    (hv' : Settings.mergeFor v' plan service = .ok n') (h : Same n n') :
    Matched SameState Same (b.changeNamespacePlan id service plan v)
      (b.changeNamespacePlan id service plan v') := by
  refine matched_note.bind fun _ _ _ => .mapFault ?_ _
  refine matched_lift.bind_same fun name => (matched_effective hv hv' h).bind fun e e' he => ?_
  rw [Record.namespaceUpdate, Record.namespaceUpdate, he.namespaceSettings]
  refine matched_lift.bind_same fun body => Matched.bind_same matched_written fun _ => ?_
  rw [he.classesIn]
  exact matched_lift.bind_same fun classes => matched_reconcile classes he

/-- **A provision runs in parallel** for parameters that are the same once merged. -/
theorem Provision.matched (p : Provision) (hv : Settings.mergeFor v plan service = .ok n)
    (hv' : Settings.mergeFor v' plan service = .ok n') (h : Same n n') :
    Matched SameState Same (p.perform b id service plan v) (p.perform b id service plan v') := by
  cases p with
  | createBucket => exact b.matched_createBucket hv hv' h
  | changeBucketPlan => exact b.matched_changeBucketPlan hv hv' h
  | createNamespace => exact b.matched_createNamespace hv hv' h
  | changeNamespacePlan => exact b.matched_changeNamespacePlan hv hv' h

end Provisions

/-! ## 4. Over a session -/

/-- **A request cannot influence a forced setting.** Where the parameters of two requests differ
under forced keys only, a provision sends the same for both, in every world, and leaves the session
and the world the same; and both come to the same effective parameters, or to the same failure. -/
theorem forced_settings_prevail (b : Broker) (p : Provision) (id : Value)
    (service : ServiceDefinition) (plan : Plan) {v v' : Value} {m m' : Mapping} (hv : Given v m)
    (hv' : Given v' m') (hplan : Keyed plan.serviceSettings)
    (hservice : Keyed service.serviceSettings) (h : SameUnforced plan service m m') {σ : Type}
    (w : Dialogue.World Wire σ) (st : σ) (s : Session) (bs : State) :
    let o := fun v => Dialogue.run w
      (Session.carryOut ((p.perform b id service plan v).run bs) s) st
    (o v).events = (o v').events ∧ (o v).state = (o v').state ∧
      (o v).result.2 = (o v').result.2 ∧ Alike Same (o v).result.1.1 (o v').result.1.1 := by
  obtain ⟨n, n', hn, hn', hsame⟩ := same_of_merge hv hv' hplan hservice h
  exact Session.run_matched (p.matched b hn hn' hsame) w st s ⟨rfl, rfl⟩

/-- A plan that forces a quota on buckets. -/
def limited : Plan :=
  ⟨"p1", "limited", .null,
    [(.text "quota", .mapping [(.text "limit", .int 5), (.text "warn", .int 4)])], false⟩

def unlimited : ServiceDefinition := ⟨"s1", "buckets", "bucket", .null, [], false, [limited]⟩

/-- A broker that has discovered nothing but the default reclaim policy. -/
def discovering : State :=
  { State.start with discovery := some ⟨.null, .null, .null, .null, .policy .fail, .null⟩ }

/-- What passes the check of settings and asks for an allowed policy is let through. -/
theorem admits_discovering {p : Provision} {m : Mapping}
    (hfault : (Settings.check (.mapping m)).fault.isNone)
    (hallowed : ReclaimPolicy.isAllowed (.mapping m) (.policy .fail) = .ok true) :
    p.Admits discovering.discovery m where
  valid := Settings.fault_check_eq_none_iff.1 (Option.isNone_iff_eq_none.1 hfault)
  policy _ := ⟨_, rfl, hallowed⟩

/-- A request for a larger quota gets the forced one, by the same requests as one that asks for
nothing. -/
theorem forced_settings_prevail_quota :
    let s := Session.expired.withToken none
    let asked : Mapping := [(.text "quota", .mapping [(.text "limit", .int 1000)])]
    let o := fun v => Dialogue.run Rehearsal.world (Session.carryOut
      ((Provision.changeBucketPlan.perform bare (.text "b") unlimited limited v).run discovering) s)
      singleObject
    Given (.mapping asked) asked ∧ Given .null [] ∧ Keyed limited.serviceSettings ∧
      Keyed unlimited.serviceSettings ∧ SameUnforced limited unlimited asked [] ∧
      (o (.mapping asked)).events.length = 2 ∧ (o (.mapping asked)).result.1.1.isOk ∧
      (o (.mapping asked)).events = (o .null).events := by
  intro s asked o
  have hplan : Keyed limited.serviceSettings := by
    intro e he
    cases List.mem_singleton.1 he
    rfl
  have hservice : Keyed unlimited.serviceSettings := fun _ he => absurd he List.not_mem_nil
  have hsame : SameUnforced limited unlimited asked [] := by
    intro q _ hout _
    have hq : ¬ q.equal (.text "quota") := hout _ List.mem_cons_self
    show Mapping.find? [(.text "quota", _)] q = _
    rw [Mapping.find?_cons, if_neg hq]
  refine ⟨.mapping asked, .nothing, hplan, hservice, hsame, by decide +kernel,
    by decide +kernel, ?_⟩
  exact (forced_settings_prevail bare .changeBucketPlan (.text "b") unlimited limited
    (.mapping asked) .nothing hplan hservice hsame Rehearsal.world singleObject s discovering).1

end StorageBroker.Broker
