import StorageBroker.Proofs.Broker.Forced
import StorageBroker.Proofs.Broker.Life
import StorageBroker.Proofs.Broker.Retention
/-!
# Retention classes of a new namespace

A new namespace gets the retention classes that its parameters ask for, each with the period that
is given for it. A change of plan on a namespace without classes does the same, with one exception:
the period that removes a class leaves it out there, while a creation sets it like any other one.

* `Space`, `spaceBackend` -- the management API as far as one namespace and its classes go;
* `achieves_createNamespace` -- what becomes of a namespace that is not there;
* `created_as_changed_iff` -- where a creation and a change of plan lead to the same classes;
* `created_unlike_changed` -- a class that is to be removed exists behind the creation.
-/

namespace StorageBroker.Management

open Text
open Record (entry)

/-! ## 1. A namespace that may not be there -/

/-- A namespace as the management API knows it. -/
structure Space where
  there : Bool
  classes : Classes

/-- Where a namespace is. -/
def homeOf (e ns : Text) : Text := e ++ Resource.space.address ns ""

/-- Where namespaces are created. -/
def rootOf (e : Text) : Text := e ++ Resource.space.root

/-- Whether something is demanded by a method at an address. -/
def isAt (method url : Text) (d : Demand) : Bool :=
  match d.method with
  | .text m => m == method && d.url == url
  | _ => false

/-- Whether a demand creates the namespace. -/
def creates (e ns : Text) (d : Demand) : Bool :=
  isAt "POST" (rootOf e) d && (entry d.body Resource.space.key).any (·.equal (.text ns))

/-- **The management API as far as one namespace goes.** Looking it up tells whether it is there,
and it is there once it has been created; its classes are kept as ever. -/
def spaceBackend (e ns : Text) : Backend Space where
  answers d t r t' :=
    if isAt "GET" (homeOf e ns) d then r.status = (if t.there then 200 else 404) ∧ t' = t
    else (classBackend (classesAt e ns)).answers d t.classes r t'.classes ∧
      t'.there = (t.there || creates e ns d)

/-- The response of the management API, and the namespace behind it. -/
def spaceAnswer (e ns : Text) (d : Demand) (t : Space) : Response × Space :=
  if isAt "GET" (homeOf e ns) d then (⟨if t.there then 200 else 404, [], []⟩, t)
  else
    let a := classAnswer (classesAt e ns) d t.classes
    (a.1, ⟨t.there || creates e ns d, a.2⟩)

variable {e ns : Text} {t t' : Space} {d : Demand} {r : Response}

theorem answers_probe (h : isAt "GET" (homeOf e ns) d) :
    (spaceBackend e ns).answers d t r t' ↔ r.status = (if t.there then 200 else 404) ∧ t' = t := by
  show (if isAt "GET" (homeOf e ns) d then _ else _) ↔ _
  rw [if_pos h]

theorem answers_other (h : isAt "GET" (homeOf e ns) d = false) :
    (spaceBackend e ns).answers d t r t' ↔
      (classBackend (classesAt e ns)).answers d t.classes r t'.classes ∧
        t'.there = (t.there || creates e ns d) := by
  show (if isAt "GET" (homeOf e ns) d then _ else _) ↔ _
  rw [if_neg (by rw [h]; exact Bool.false_ne_true)]

theorem spaceAnswer_fits (e ns : Text) (d : Demand) (t : Space) :
    (spaceBackend e ns).answers d t (spaceAnswer e ns d t).1 (spaceAnswer e ns d t).2 := by
  unfold spaceAnswer
  split
  next h => exact (answers_probe h).2 ⟨rfl, rfl⟩
  next h => exact (answers_other (Bool.eq_false_iff.2 h)).2 ⟨classAnswer_fits _ _ _, rfl⟩

theorem calm_spaceBackend : (spaceBackend e ns).Calm := by
  intro d t r t' h
  cases hprobe : isAt "GET" (homeOf e ns) d with
  | true =>
    rw [((answers_probe hprobe).1 h).1]
    cases t.there with
    | true => exact .inl rfl
    | false => exact .inr rfl
  | false => exact calm_classBackend _ _ _ _ ((answers_other hprobe).1 h).1

theorem url_of_isAt {method url : Text} (h : isAt method url d) :
    d.method = .text method ∧ d.url = url := by
  unfold isAt at h
  split at h
  next m hm =>
    rw [Bool.and_eq_true, beq_iff_eq, beq_iff_eq] at h
    exact ⟨h.1 ▸ hm, h.2⟩
  next => cases h

/-- **As long as a namespace is there** its classes are all that an exchange is about. -/
theorem talk_classes {es : Session.Events} (h : Talk (spaceBackend e ns) t es t')
    (ht : t.there = true) :
    Talk (classBackend (classesAt e ns)) t.classes es t'.classes := by
  induction h with
  | nil t => exact .nil _
  | login htoken _ ih => exact .login htoken (ih ht)
  | @resource t t₁ t' es method body verify timeout u params headers r hanswer _ ih =>
    cases hprobe : isAt "GET" (homeOf e ns) ⟨method, u, body⟩ with
    | true =>
      obtain ⟨hstatus, rfl⟩ := (answers_probe hprobe).1 hanswer
      obtain rfl : u = homeOf e ns := (url_of_isAt hprobe).2
      refine .resource ⟨?_, ?_⟩ (ih ht)
      · rw [homeOf, of?_self, hstatus, ht]
        rfl
      · rw [homeOf, of?_self]
        rfl
    | false =>
      obtain ⟨hclasses, hthere⟩ := (answers_other hprobe).1 hanswer
      exact .resource hclasses (ih (by rw [hthere, ht, Bool.true_or]))
  | aside haside _ ih => exact .aside haside (ih ht)

/-! ## 2. Calls -/

variable {σ : Type} {c : Call} {p : String} {errand : Option Errand}

/-- A call that looks for nothing does its errand, if it has one. -/
theorem achieves_onSpace {Q : Unit → Space → Prop} (hheaders : c.headers = .null)
    (hpath : c.path = .text p)
    (hprobe : isAt "GET" (homeOf e ns) ⟨c.method, e ++ p, c.body⟩ = false)
    (herrand : Errand.of? (classesAt e ns) ⟨c.method, e ++ p, c.body⟩ = errand)
    (hstatus : statusOf errand t.classes = 200) (haccepted : c.accepted = .list [.int 200])
    (hparse : c.parse = false)
    (hQ : Q () ⟨t.there || creates e ns ⟨c.method, e ++ p, c.body⟩,
      afterAll errand.toList t.classes⟩) :
    Achieves (spaceBackend e ns) e t (perform c : Calls σ Unit) Q := by
  refine achieves_perform hheaders hpath fun r t' hanswer => ?_
  obtain ⟨⟨hr, hclasses⟩, hthere⟩ := (answers_other hprobe).1 hanswer
  rw [herrand] at hr hclasses
  have ht' : t' = ⟨t.there || creates e ns ⟨c.method, e ++ p, c.body⟩,
      afterAll errand.toList t.classes⟩ := by
    cases t' with
    | mk there classes =>
      obtain rfl : there = _ := hthere
      obtain rfl : classes = _ := hclasses
      rfl
  refine ⟨Session.accept_standard haccepted (hr.trans hstatus) (by simp [hparse]), ?_⟩
  rw [ht']
  exact hQ

section Calls

variable (hns : Template.Sendable ns)

include hns in
theorem achieves_exist :
    Achieves (spaceBackend e ns) e t (Namespace.exist (.text ns) : Calls σ Bool) fun found t' =>
      found = t.there ∧ t' = t := by
  refine .path_bind (fill_of_sendable .space "" hns) (achieves_existence rfl rfl rfl rfl ?_)
  intro r t' hanswer
  have hprobe : isAt "GET" (homeOf e ns) ⟨"GET", e ++ Resource.space.address ns "", .null⟩ := by
    simp [isAt, homeOf]
  obtain ⟨hr, rfl⟩ := (answers_probe hprobe).1 hanswer
  cases hthere : t'.there with
  | true => exact .inl ⟨by rw [hr, hthere]; rfl, rfl, rfl⟩
  | false => exact .inr ⟨by rw [hr, hthere]; rfl, rfl, rfl⟩

/-- **The namespace is there** behind its creation. -/
theorem achieves_create {body data : Value} (hbody : bodyOf body = .ok data)
    (hnamed : entry data Resource.space.key = some (.text ns)) :
    Achieves (spaceBackend e ns) e t (Namespace.create body : Calls σ Unit) fun _ t' =>
      t' = ⟨true, t.classes⟩ := by
  have hroot : Errand.of? (classesAt e ns) ⟨"POST", rootOf e, data⟩ = none := by
    refine of?_of_length_lt ?_
    simp only [classesAt, rootOf, toList_append, toList_plain, List.length_map, toList_address,
      List.length_append, List.length_cons]
    omega
  have hcreates : creates e ns ⟨"POST", rootOf e, data⟩ := by
    simp [creates, isAt, hnamed, Mapping.text_equal_text]
  refine .lift_bind hbody (achieves_onSpace rfl rfl rfl hroot rfl rfl rfl ?_)
  show (⟨t.there || creates e ns ⟨"POST", rootOf e, data⟩, t.classes⟩ : Space) = _
  rw [hcreates, Bool.or_true]

/-- What is sent below a namespace does not create one. -/
theorem creates_below {method : Text} {part : String} {body : Value} :
    creates e ns ⟨method, e ++ Resource.space.address ns part, body⟩ = false := by
  have hne : e ++ Resource.space.address ns part ≠ rootOf e := by
    rw [rootOf, Ne, Text.append_right_inj]
    exact fun h => address_ne_root (Text.plain.inj h)
  simp [creates, isAt, hne]

include hns in
theorem achieves_createQuota {body data : Value} (hbody : bodyOf body = .ok data) :
    Achieves (spaceBackend e ns) e t (Namespace.createQuota (.text ns) body : Calls σ Unit)
      fun _ t' => t' = t := by
  refine .path_bind (fill_of_sendable .space "/quota" hns) (.lift_bind hbody ?_)
  refine achieves_onSpace rfl rfl rfl (of?_part (by decide)) rfl rfl rfl ?_
  show (⟨t.there || creates e ns _, t.classes⟩ : Space) = _
  rw [creates_below, Bool.or_false]

include hns in
theorem achieves_createClass {name : Text} {period : Int} :
    Achieves (spaceBackend e ns) e t
      (Namespace.createRetention (.text ns) (.text name) (.int period) : Calls σ Unit) fun _ t' =>
        t' = ⟨t.there, Function.update t.classes name (some (.int period))⟩ := by
  refine .path_bind (fill_of_sendable .space "/retention" hns) ?_
  refine achieves_onSpace rfl rfl rfl of?_create rfl rfl rfl ?_
  show (⟨t.there || creates e ns _, _⟩ : Space) = _
  rw [creates_below, Bool.or_false]
  rfl

end Calls

end StorageBroker.Management

namespace StorageBroker.Broker

open Management
open Text (Template.Sendable)

/-! ## 3. Operations of a broker that is started -/

section Provided

variable {τ α β : Type} {B : Backend τ} {d : Discovery} {e : Text} {t : τ} {Q : α → τ → Prop}

/-- **An operation comes to a result** in every broker that has discovered the same. -/
def Provided (d : Discovery) (B : Backend τ) (e : Text) (t : τ) (x : Operation α)
    (Q : α → τ → Prop) : Prop :=
  ∀ s es r s' t', s.discovery = some d → x.Course s es r s' → Speaks B e t es t' →
    ∃ a, r = .ok a ∧ Q a t'

theorem provided_of_achieves {x : Operation α} (h : Achieves B e t x Q) : Provided d B e t x Q :=
  fun _ _ _ _ _ _ hcourse hspeaks => h _ _ _ _ _ hcourse hspeaks

/-- What has been discovered is still there for the second of two operations. -/
theorem Provided.bind {x : Operation β} {f : β → Operation α} (hx : Leaves setUp x)
    (h : Achieves B e t x fun b t₁ => Provided d B e t₁ (f b) Q) :
    Provided d B e t (x >>= f) Q := by
  intro s es r s' t' hd hcourse hspeaks
  obtain ⟨g, hfirst, _⟩ | ⟨es₁, b, s₁, es₂, hfirst, hnext, rfl⟩ := Action.course_bind.1 hcourse
  · obtain ⟨_, hg, _⟩ := h _ _ _ _ _ hfirst hspeaks
    cases hg
  · obtain ⟨t₁, hspeaks₁, hspeaks₂⟩ := hspeaks.append
    obtain ⟨b', hb, hprovided⟩ := h _ _ _ _ _ hfirst hspeaks₁
    cases hb
    have hset : s₁.discovery = s.discovery := congrArg Prod.fst (hx _ _ _ _ hfirst)
    exact hprovided _ _ _ _ _ (hset.trans hd) hnext hspeaks₂

theorem achieves_note {given now : Value} {Q : Unit → τ → Prop} (h : Q () t) :
    Achieves B e t (note given now) Q := by
  intro s es r s' t' hcourse hspeaks
  obtain ⟨rfl, rfl, _⟩ := Action.course_modify.1 hcourse
  obtain rfl := speaks_nil.1 hspeaks
  exact ⟨(), rfl, h⟩

theorem Provided.discovered_bind {f : Discovery → Operation α} (h : Provided d B e t (f d) Q) :
    Provided d B e t (discovered >>= f) Q := by
  intro s es r s' t' hd hcourse hspeaks
  exact h _ _ _ _ _ hd (course_discovered_bind hd hcourse) hspeaks

theorem Provided.mapFault {x : Operation α} {g : Fault → Fault} (h : Provided d B e t x Q) :
    Provided d B e t (x.mapFault g) Q := by
  intro s es r s' t' hd hcourse hspeaks
  obtain ⟨r', hx, rfl⟩ := Action.course_mapFault.1 hcourse
  obtain ⟨a, rfl, ha⟩ := h _ _ _ _ _ hd hx hspeaks
  exact ⟨a, rfl, ha⟩

end Provided

/-! ## 4. Creation -/

/-- The errands that create classes with their periods, whatever the periods are. -/
def creations (periods : Periods) : List Errand := periods.map fun p => .create p.1 (.int p.2)

/-- **Classes with the periods that are given for them**, all others as they have been. -/
structure Imposed (classes : List (Text × Value)) (held held' : Classes) : Prop where
  asked : ∀ c ∈ classes, ∃ i, Settings.Reads c.2 i ∧ held' c.1 = some (.int i)
  other : ∀ name, name ∉ classes.map Prod.fst → held' name = held name

variable {σ : Type} {e ns : Text} {t : Space} {m : Mapping} {classes : List (Text × Value)}
  {periods : Periods} {held held' held'' : Classes}

theorem creations_other {name : Text} (h : name ∉ periods.map Prod.fst) :
    afterAll (creations periods) held name = held name := by
  induction periods generalizing held with
  | nil => rfl
  | cons p rest ih =>
    rw [List.map_cons, List.mem_cons, not_or] at h
    exact (ih h.2).trans (Function.update_of_ne h.1 _ _)

theorem creations_asked (hnodup : (periods.map Prod.fst).Nodup) :
    ∀ p ∈ periods, afterAll (creations periods) held p.1 = some (.int p.2) := by
  induction periods generalizing held with
  | nil => exact fun p hp => absurd hp List.not_mem_nil
  | cons p rest ih =>
    rw [List.map_cons, List.nodup_cons] at hnodup
    refine List.forall_mem_cons.2 ⟨?_, ih hnodup.2⟩
    exact (creations_other hnodup.1).trans (Function.update_self _ _ _)

theorem imposed_creations (hread : ReadAs classes periods)
    (hnodup : (classes.map Prod.fst).Nodup) :
    Imposed classes held (afterAll (creations periods) held) where
  asked c hc := by
    obtain ⟨p, hp, hname, hi⟩ := exists_right_of_forall₂ hread c hc
    refine ⟨p.2, hi, ?_⟩
    rw [← hname]
    exact creations_asked (by rwa [names_of_readAs hread]) p hp
  other name hname := creations_other (by rwa [names_of_readAs hread])

/-- **The classes of a namespace are created one after the other.** -/
theorem achieves_createClasses (hns : Template.Sendable ns) :
    Achieves (spaceBackend e ns) e t (createClasses (.text ns) (classesOf periods)) fun _ t' =>
      t' = ⟨t.there, afterAll (creations periods) t.classes⟩ := by
  induction periods generalizing t with
  | nil => exact achieves_pure rfl
  | cons p rest ih =>
    refine .bind ((achieves_createClass hns).mono ?_)
    rintro _ t' rfl
    exact ih

theorem achieves_applyNamespaceQuota (hns : Template.Sendable ns) {m' : Mapping}
    (h : Settings.Settled m m') :
    Achieves (spaceBackend e ns) e t (applyNamespaceQuota (.text ns) (.mapping m')) fun _ t' =>
      t' = t := by
  refine .lift_bind rfl ?_
  obtain ⟨habsent, _⟩ | ⟨_, q, _, hquota, _⟩ := h.quota_cases
  · rw [habsent.getD]
    exact achieves_pure rfl
  · rw [hquota]
    have hbody : ∀ limit warn, bodyOf (Record.namespaceQuota (.text ns) limit warn).toValue =
        .ok (Record.namespaceQuota (.text ns) limit warn).plainData :=
      fun _ _ => Record.bodyOf_toValue (rfl : _ = RecordKind.namespaceQuota) (by decide) (by decide)
    exact .lift_bind rfl (.lift_bind rfl (achieves_createQuota hns (hbody _ _)))

/-- The body of a creation can be told from any parameters, and names the namespace. -/
theorem namespaceCreate_mapping (ns : Text) (group : Value) (m : Mapping) :
    ∃ r, Record.namespaceCreate (.text ns) group (.mapping m) = .ok r ∧
      bodyOf r.toValue = .ok r.plainData ∧
      Record.entry r.plainData Resource.space.key = some (.text ns) := by
  have hrecord : ∃ r, Record.namespaceCreate (.text ns) group (.mapping m) = .ok r ∧
      r.kind = .namespaceCreate ∧ Record.entry r.plainData Resource.space.key = some (.text ns) :=
    ⟨_, rfl, rfl, Record.entry_plainData⟩
  obtain ⟨r, hr, hkind, hnamed⟩ := hrecord
  exact ⟨r, hr, Record.bodyOf_toValue hkind (by decide) (by decide), hnamed⟩

/-- **A namespace that is not there is created** with its classes. -/
theorem provided_createNamespace {b : Broker} {d : Discovery} {id given : Value} {plan : Plan}
    {service : ServiceDefinition} (hthere : t.there = false) (hname : b.nameOf id = .ok (.text ns))
    (hns : Template.Sendable ns)
    (hmerge : Settings.mergeFor given plan service = .ok (.mapping m)) (hvalid : Settings.Valid m)
    (hclasses : RetentionIn m classes) :
    Provided d (spaceBackend e ns) e t (b.createNamespace id service plan given) fun _ t' =>
      ∃ periods, ReadAs classes periods ∧ t' = ⟨true, afterAll (creations periods) t.classes⟩ := by
  refine .bind leaves_note (achieves_note (.mapFault (.bind b.leaves_namespaceExists ?_)))
  refine .mapFault (.lift_bind hname ((achieves_exist hns).mono ?_))
  rintro there t' ⟨rfl, rfl⟩
  rw [hthere]
  refine .bind leaves_effective (achieves_effective hmerge hvalid fun m' hsettled => ?_)
  refine .bind leaves_lift (achieves_lift hname (.discovered_bind ?_))
  obtain ⟨r, hr, hbody, hnamed⟩ := namespaceCreate_mapping ns d.replicationGroupId m'
  obtain ⟨periods, hread, hin⟩ := settled_periods hsettled hclasses
  refine provided_of_achieves (.lift_bind hr (.bind ((achieves_create hbody hnamed).mono ?_)))
  rintro _ t' rfl
  refine .bind ((achieves_applyNamespaceQuota hns hsettled).mono ?_)
  rintro _ t' rfl
  refine .lift_bind hin (.bind ((achieves_createClasses hns).mono ?_))
  rintro _ t' rfl
  exact achieves_pure ⟨periods, hread, rfl⟩

/-! ## 5. Creation and change -/

/-- A class that is not asked to be removed is created as it is changed. -/
theorem Imposed.agree (h : Imposed classes held held') (h' : Reconciled classes held held'')
    {c : Text × Value} (hc : c ∈ classes) (hkept : ¬ Settings.Reads c.2 Settings.unset) :
    held' c.1 = held'' c.1 := by
  obtain ⟨i, hi, hcreated⟩ := h.asked c hc
  obtain ⟨j, ⟨_, hj⟩, hchanged⟩ := h'.asked c hc
  obtain rfl : i = j := Except.ok.inj (hi.2.symm.trans hj)
  have hset : i ≠ Settings.unset := by
    rintro rfl
    exact hkept hi
  rw [hcreated, hchanged, wanted, if_neg hset]

/-- **A creation and a change of plan lead to the same classes** where no class is asked to be
removed, and nowhere else. -/
theorem Imposed.eq_iff (h : Imposed classes held held') (h' : Reconciled classes held held'') :
    held' = held'' ↔ ∀ c ∈ classes, ¬ Settings.Reads c.2 Settings.unset := by
  constructor
  · rintro rfl c hc ⟨_, hunset⟩
    obtain ⟨i, ⟨_, hi⟩, hcreated⟩ := h.asked c hc
    obtain ⟨j, ⟨_, hj⟩, hchanged⟩ := h'.asked c hc
    rw [hunset] at hi hj
    cases hi
    cases hj
    rw [hcreated, wanted, if_pos rfl] at hchanged
    cases hchanged
  · intro hkept
    funext name
    by_cases hname : name ∈ classes.map Prod.fst
    · obtain ⟨c, hc, rfl⟩ := List.mem_map.1 hname
      exact h.agree h' hc (hkept c hc)
    · rw [h.other name hname, h'.other name hname]

/-- A change of plan reconciles the classes of a namespace that is there. -/
theorem changed_of_run (w : Dialogue.World Wire σ) (st : σ) (b : Broker) (bs : State)
    {id given : Value} {plan : Plan} {service : ServiceDefinition} {s : Session}
    (hname : b.nameOf id = .ok (.text ns)) (hns : Template.Sendable ns)
    (hmerge : Settings.mergeFor given plan service = .ok (.mapping m)) (hvalid : Settings.Valid m)
    (hclasses : RetentionIn m classes) (hnodup : (classes.map Prod.fst).Nodup)
    (hsend : ∀ c ∈ classes, Template.Sendable c.1) (hs : s.Usable) (he : s.endpoint = .text e)
    {u : Space} (htalk : Talk (spaceBackend e ns) ⟨true, held⟩ (Dialogue.run w
      (Session.carryOut ((b.changeNamespacePlan id service plan given).run bs) s) st).events u) :
    (∃ v, (Dialogue.run w (Session.carryOut
      ((b.changeNamespacePlan id service plan given).run bs) s) st).result.1.1 = .ok v) ∧
      Reconciled classes held u.classes := by
  obtain ⟨v, hv, periods, hread, ht⟩ :=
    (achieves_changeNamespacePlan hname hns hmerge hvalid hclasses hsend).run
      calm_classBackend.noting w hs he bs st ((talk_classes htalk rfl).noting [])
  refine ⟨⟨v, hv⟩, ?_⟩
  rw [(Prod.mk.inj ht).1]
  exact reconciled_of_reaches hread (reaches_errands (by rwa [names_of_readAs hread]))

/-- **What a creation makes of retention classes.** A broker that has discovered something creates a
namespace that is not there, and each class that the merged parameters ask for exists with its
period, also with the one that removes a class. A change of plan to the same parameters, on that
namespace without classes, leads to the same classes exactly if none is asked to be removed; on all
others they agree. -/
theorem created_as_changed_iff (w : Dialogue.World Wire σ) (st : σ) (b : Broker) (bs : State)
    {d : Discovery} {id given : Value} {plan : Plan} {service : ServiceDefinition} {s : Session}
    (hd : bs.discovery = some d) (hname : b.nameOf id = .ok (.text ns))
    (hns : Template.Sendable ns)
    (hmerge : Settings.mergeFor given plan service = .ok (.mapping m)) (hvalid : Settings.Valid m)
    (hclasses : RetentionIn m classes) (hnodup : (classes.map Prod.fst).Nodup) (hs : s.Usable)
    (he : s.endpoint = .text e) {u : Space}
    (htalk : Talk (spaceBackend e ns) ⟨false, fun _ => none⟩ (Dialogue.run w
      (Session.carryOut ((b.createNamespace id service plan given).run bs) s) st).events u) :
    let o := Dialogue.run w
      (Session.carryOut ((b.createNamespace id service plan given).run bs) s) st
    (∃ v, o.result.1.1 = .ok v) ∧ u.there ∧ Imposed classes (fun _ => none) u.classes ∧
      ((∀ c ∈ classes, Template.Sendable c.1) →
        ∀ (s₂ : Session) (bs₂ : State) (st₂ : σ) (u₂ : Space), s₂.Usable →
          s₂.endpoint = .text e →
          let o₂ := Dialogue.run w
            (Session.carryOut ((b.changeNamespacePlan id service plan given).run bs₂) s₂) st₂
          Talk (spaceBackend e ns) ⟨true, fun _ => none⟩ o₂.events u₂ →
          (∃ v, o₂.result.1.1 = .ok v) ∧
            (u.classes = u₂.classes ↔ ∀ c ∈ classes, ¬ Settings.Reads c.2 Settings.unset) ∧
            ∀ c ∈ classes, ¬ Settings.Reads c.2 Settings.unset →
              u.classes c.1 = u₂.classes c.1) := by
  intro o
  obtain ⟨v, hv, periods, hread, rfl⟩ :=
    provided_createNamespace rfl hname hns hmerge hvalid hclasses _ _ _ _ _ hd
      (Session.course_carryOut w _ s st) (speaks_of_run w calm_spaceBackend _ hs he st htalk)
  have himposed : Imposed classes (fun _ => none) (afterAll (creations periods) fun _ => none) :=
    imposed_creations hread hnodup
  refine ⟨⟨v, hv⟩, rfl, himposed, ?_⟩
  intro hsend s₂ bs₂ st₂ u₂ hs₂ he₂ o₂ htalk₂
  obtain ⟨hok, hreconciled⟩ :=
    changed_of_run w st₂ b bs₂ hname hns hmerge hvalid hclasses hnodup hsend hs₂ he₂ htalk₂
  exact ⟨hok, himposed.eq_iff hreconciled, fun c hc hkept => himposed.agree hreconciled hc hkept⟩

/-- What comes of an operation for the classes of a namespace. -/
def inSpace (x : Operation Value) (t : Space) :
    Dialogue.Outcome Wire Space ((Except Fault Value × State) × Session) :=
  Dialogue.run (worldOf (spaceAnswer "https://ecs:4443" "ecs-cf-broker-n"))
    (Session.carryOut (x.run discovering) (Session.expired.withToken none)) t

theorem talk_inSpace (x : Operation Value) (t : Space) :
    Talk (spaceBackend "https://ecs:4443" "ecs-cf-broker-n") t (inSpace x t).events
      (inSpace x t).state :=
  talk_worldOf (spaceAnswer_fits _ _) _ t

/-- The creation of a namespace with retention classes. -/
def creating (classes : List (Text × Value)) : Operation Value :=
  bare.createNamespace (.text "n") spaces unforced (.mapping (asking classes))

/-- The change of a namespace to retention classes. -/
def changing (classes : List (Text × Value)) : Operation Value :=
  bare.changeNamespacePlan (.text "n") spaces unforced (.mapping (asking classes))

/-- **A class that is asked to be removed exists behind the creation**, and does not behind the
change of plan. -/
theorem created_unlike_changed :
    let classes : List (Text × Value) := [("old", .int (-1))]
    let created := inSpace (creating classes) ⟨false, fun _ => none⟩
    let changed := inSpace (changing classes) ⟨true, fun _ => none⟩
    Settings.Valid (asking classes) ∧ RetentionIn (asking classes) classes ∧
      created.result.1.1.isOk ∧ changed.result.1.1.isOk ∧
      (created.state.classes "old").any (·.equal (.int Settings.unset)) ∧
      (changed.state.classes "old").isNone ∧ created.state.classes ≠ changed.state.classes := by
  intro classes created changed
  have hvalid : Settings.Valid (asking classes) :=
    valid_asking (List.forall_mem_singleton.2 ⟨_, Settings.reads_int _⟩)
  have hruns : created.result.1.1.isOk ∧ changed.result.1.1.isOk ∧
      (created.state.classes "old").any (·.equal (.int Settings.unset)) ∧
      (changed.state.classes "old").isNone := by decide +kernel
  obtain ⟨hcreate, hchange, hcreated, hchanged⟩ := hruns
  refine ⟨hvalid, retentionIn_asking, hcreate, hchange, hcreated, hchanged, fun heq => ?_⟩
  rw [heq, Option.isNone_iff_eq_none.1 hchanged] at hcreated
  cases hcreated

/-- Of two classes the one with a period is the same behind both, and the other one is not. -/
theorem created_as_changed_iff_two :
    let classes : List (Text × Value) := [("old", .int (-1)), ("5 years/ü", .text "30")]
    let created := inSpace (creating classes) ⟨false, fun _ => none⟩
    let changed := inSpace (changing classes) ⟨true, fun _ => none⟩
    created.result.1.1.isOk ∧ changed.result.1.1.isOk ∧ created.state.there ∧
      created.state.classes "5 years/ü" = changed.state.classes "5 years/ü" ∧
      created.state.classes ≠ changed.state.classes := by
  intro classes created changed
  have hsend : ∀ c ∈ classes, Template.Sendable c.1 := by
    have hnames : ∀ name ∈ (["old", "5 years/ü"] : List Text), Template.Sendable name := by
      decide +kernel
    exact fun c hc => hnames c.1 (List.mem_map_of_mem (f := Prod.fst) hc)
  have hyears : Settings.Reads (.text "30") 30 := ⟨nofun, rfl⟩
  have hvalid : Settings.Valid (asking classes) := by
    refine valid_asking (List.forall_mem_cons.2 ⟨⟨_, Settings.reads_int _⟩, ?_⟩)
    exact List.forall_mem_singleton.2 ⟨_, hyears⟩
  have hname : bare.nameOf (.text "n") = .ok (.text "ecs-cf-broker-n") := rfl
  have hsession : (Session.expired.withToken none).Usable := Session.usable_expired.withToken none
  obtain ⟨⟨v, hv⟩, hthere, _, hchange⟩ := created_as_changed_iff
    (worldOf (spaceAnswer "https://ecs:4443" "ecs-cf-broker-n")) ⟨false, fun _ => none⟩ bare
    discovering rfl hname (by decide +kernel) (mergeFor_asking classes) hvalid retentionIn_asking
    (by decide) hsession rfl (talk_inSpace (creating classes) _)
  obtain ⟨⟨v', hv'⟩, heq, hagree⟩ := hchange hsend _ discovering ⟨true, fun _ => none⟩ _ hsession
    rfl (talk_inSpace (changing classes) _)
  have hkept : ¬ Settings.Reads (.text "30") Settings.unset := by
    rintro ⟨_, hi⟩
    cases hi.symm.trans hyears.2
  have hok : created.result.1.1 = .ok v := hv
  have hok' : changed.result.1.1 = .ok v' := hv'
  refine ⟨by rw [hok]; rfl, by rw [hok']; rfl, hthere, hagree ("5 years/ü", .text "30")
    (by simp [classes]) hkept, fun hsame => ?_⟩
  exact heq.1 hsame ("old", .int (-1)) (by simp [classes]) (Settings.reads_int _)

end StorageBroker.Broker
