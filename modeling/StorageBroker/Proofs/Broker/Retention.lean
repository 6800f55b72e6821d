import StorageBroker.Proofs.Broker.Provisioning
import StorageBroker.Proofs.Broker.Wiping
import StorageBroker.Proofs.Management.Retention
/-!
# Retention classes after a change of plan

A change of plan brings the retention classes of a namespace to the periods that the merged
parameters ask for.

* `settled_periods` -- the periods behind the check of the parameters;
* `achieves_reconcile` -- reconciling does the errands for the periods, and nothing else;
* `retention_reconciled` -- a change of plan over a session;
* `retention_halfName_fails` -- a name that cannot be sent stands in the way.
-/

namespace StorageBroker.Broker

open Management
open Text (Template.Sendable)

/-! ## 1. What is asked for -/

/-- **The retention classes in merged parameters**, all of which have texts for names. -/
def RetentionIn (m : Mapping) (classes : List (Text × Value)) : Prop :=
  (Settings.Absent (Mapping.get m Settings.retention) ∧ classes = []) ∨
    Mapping.get m Settings.retention = some (.mapping (Mapping.ofNamed classes))

/-- The periods as which the values of retention classes are read. -/
def ReadAs (classes : List (Text × Value)) (periods : Periods) : Prop :=
  List.Forall₂ (fun c p => p.1 = c.1 ∧ Settings.Reads c.2 p.2) classes periods

/-- Periods as retention classes in parameters. -/
def classesOf (periods : Periods) : Mapping := periods.map fun p => (.text p.1, .int p.2)

variable {m m' : Mapping} {classes : List (Text × Value)} {periods : Periods}

theorem names_of_readAs (h : ReadAs classes periods) :
    periods.map Prod.fst = classes.map Prod.fst := by
  induction h with
  | nil => rfl
  | cons h _ ih => rw [List.map_cons, List.map_cons, h.1, ih]

/-- The values of classes that have been read are the periods that they are read as. -/
theorem readAs_of_forall₂ {cs' : Mapping} (h : List.Forall₂
    (fun c c' => ∃ i, Settings.Reads c.2 i ∧ c' = (c.1, .int i)) (Mapping.ofNamed classes) cs') :
    ∃ periods, ReadAs classes periods ∧ cs' = classesOf periods := by
  induction classes generalizing cs' with
  | nil =>
    obtain rfl := List.forall₂_nil_left_iff.1 h
    exact ⟨[], .nil, rfl⟩
  | cons c rest ih =>
    obtain ⟨c', rest', ⟨i, hi, rfl⟩, hrest, rfl⟩ := List.forall₂_cons_left_iff.1 h
    obtain ⟨periods, hread, rfl⟩ := ih hrest
    exact ⟨(c.1, i) :: periods, .cons ⟨rfl, hi⟩ hread, rfl⟩

/-- **Behind the check the classes are there with the periods that were read.** -/
theorem settled_periods (h : Settings.Settled m m') (hclasses : RetentionIn m classes) :
    ∃ periods, ReadAs classes periods ∧ classesIn (.mapping m') = .ok (classesOf periods) := by
  have hreplaced := h.retention
  have hin : classesIn (.mapping m') = (((Mapping.get m' Settings.retention).getD .null).orElse
      (.mapping [])).entriesFor "items" := rfl
  rw [hin]
  unfold RetentionIn at hclasses
  generalize Mapping.get m Settings.retention = a, Mapping.get m' Settings.retention = b
    at hreplaced hclasses
  cases hreplaced with
  | missing =>
    obtain ⟨_, rfl⟩ | hclasses := hclasses
    · exact ⟨[], .nil, rfl⟩
    · cases hclasses
  | null =>
    obtain ⟨_, rfl⟩ | hclasses := hclasses
    · exact ⟨[], .nil, rfl⟩
    · cases hclasses
  | read hv hcheck =>
    obtain ⟨cs, cs', rfl, rfl, hall⟩ := Settings.checkRetention_eq_ok hcheck
    obtain ⟨(h | h), _⟩ | hclasses := hclasses
    · cases h
    · cases h
    cases hclasses
    obtain ⟨periods, hread, rfl⟩ := readAs_of_forall₂ hall
    refine ⟨periods, hread, ?_⟩
    cases periods with
    | nil => rfl
    | cons p rest => rfl

/-! ## 2. Reconciling -/

variable {σ : Type} {e ns : Text} {held : Classes} {log : List Errand}

theorem achieves_effective {τ : Type} {B : Backend τ} {t : τ} {given : Value} {plan : Plan}
    {service : ServiceDefinition} {Q : Value → τ → Prop}
    (hmerge : Settings.mergeFor given plan service = .ok (.mapping m)) (hvalid : Settings.Valid m)
    (hQ : ∀ m', Settings.Settled m m' → Q (.mapping m') t) :
    Achieves B e t (effective given plan service) Q := by
  have hfault := Settings.fault_check_eq_none_iff.2 hvalid
  obtain ⟨m', hm', hsettled⟩ := Settings.check_passed hfault
  refine .lift_bind hmerge (.modify_bind (.modify_bind ?_))
  rw [hfault, hm']
  exact achieves_pure (hQ m' hsettled)

/-- **One class is dealt with by its errands**, and then the others are. -/
theorem achieves_reconcile_cons {given : Value} {rest : Mapping} {name : Text} {period : Int}
    {Q : Value → Classes × List Errand → Prop} (hns : Template.Sendable ns)
    (hname : Template.Sendable name) (m : Mapping)
    (hnext : ∀ m, Achieves (classLog (classesAt e ns)) e
      (afterAll (errandsFor name period (held name).isSome) held,
        log ++ errandsFor name period (held name).isSome)
      (reconcile given (.text ns) rest (.mapping m)) Q) :
    Achieves (classLog (classesAt e ns)) e (held, log)
      (reconcile given (.text ns) ((.text name, .int period) :: rest) (.mapping m)) Q := by
  refine .bind ((achieves_retentionExist hns hname).mono ?_)
  rintro there t ⟨rfl, rfl⟩
  rw [Value.equal_int_int]
  unfold errandsFor at hnext
  by_cases hperiod : period = Settings.unset
  · rw [if_pos (decide_eq_true hperiod)]
    rw [if_pos hperiod] at hnext
    cases hthere : (held name).isSome with
    | true =>
      rw [hthere] at hnext
      refine .bind ((achieves_deleteRetention hns hname).mono ?_)
      rintro _ t rfl
      rw [List.append_assoc]
      exact .lift_bind rfl (.modify_bind (hnext _))
    | false =>
      rw [hthere] at hnext
      exact hnext m
  · rw [if_neg (by simpa using hperiod)]
    rw [if_neg hperiod] at hnext
    cases hthere : (held name).isSome with
    | true =>
      rw [hthere] at hnext
      refine .bind ((achieves_updateRetention hns hname).mono ?_)
      rintro _ t rfl
      rw [List.append_assoc]
      exact hnext m
    | false =>
      rw [hthere] at hnext
      refine .bind ((achieves_createRetention hns).mono ?_)
      rintro _ t rfl
      rw [List.append_assoc]
      exact hnext m

/-- **Reconciling does the errands for the periods that are asked for.** -/
theorem achieves_reconcile (hns : Template.Sendable ns)
    (hnames : ∀ p ∈ periods, Template.Sendable p.1) (given : Value) (m : Mapping) :
    Achieves (classLog (classesAt e ns)) e (held, log)
      (reconcile given (.text ns) (classesOf periods) (.mapping m)) fun _ t =>
        t = (afterAll (errands periods held) held, log ++ errands periods held) := by
  induction periods generalizing held log m with
  | nil => exact achieves_pure (by rw [errands, List.append_nil]; rfl)
  | cons p rest ih =>
    obtain ⟨hname, hrest⟩ := List.forall_mem_cons.1 hnames
    refine achieves_reconcile_cons hns hname m fun m => (ih hrest m).mono ?_
    rintro _ t rfl
    rw [errands, afterAll_append, List.append_assoc]

/-- The settings of a namespace can be told from any parameters. -/
theorem namespaceUpdate_mapping (m : Mapping) : ∃ r, Record.namespaceUpdate (.mapping m) = .ok r ∧
    bodyOf r.toValue = .ok r.plainData := by
  have hrecord : ∃ r, Record.namespaceUpdate (.mapping m) = .ok r ∧ r.kind = .namespaceUpdate :=
    ⟨_, rfl, rfl⟩
  obtain ⟨r, hr, hkind⟩ := hrecord
  exact ⟨r, hr, Record.bodyOf_toValue hkind (by decide) (by decide)⟩

/-! ## 3. A change of plan -/

/-- **Retention classes as merged parameters ask for them**: one with the period `unset` is not
there, any other one has its period, and what is not asked for has not changed. -/
structure Reconciled (classes : List (Text × Value)) (held held' : Classes) : Prop where
  asked : ∀ c ∈ classes, ∃ i, Settings.Reads c.2 i ∧ held' c.1 = wanted i
  other : ∀ name, name ∉ classes.map Prod.fst → held' name = held name

variable {held' held'' : Classes}

theorem reconciled_of_reaches (hread : ReadAs classes periods) (h : Reaches periods held held') :
    Reconciled classes held held' where
  asked c hc := by
    obtain ⟨p, hp, hname, hi⟩ := exists_right_of_forall₂ hread c hc
    exact ⟨p.2, hi, hname ▸ h.asked p hp⟩
  other name hname := h.other name (by rwa [names_of_readAs hread])

/-- **What has been reconciled is not changed by reconciling it again.** -/
theorem Reconciled.again (h : Reconciled classes held held') (h' : Reconciled classes held' held'') :
    held'' = held' := by
  funext name
  by_cases hname : name ∈ classes.map Prod.fst
  · obtain ⟨c, hc, rfl⟩ := List.mem_map.1 hname
    obtain ⟨i, ⟨_, hi⟩, heq⟩ := h.asked c hc
    obtain ⟨i', ⟨_, hi'⟩, heq'⟩ := h'.asked c hc
    rw [hi] at hi'
    cases hi'
    rw [heq', heq]
  · exact h'.other name hname

theorem achieves_changeNamespacePlan {b : Broker} {id given : Value} {plan : Plan}
    {service : ServiceDefinition} (hname : b.nameOf id = .ok (.text ns))
    (hns : Template.Sendable ns)
    (hmerge : Settings.mergeFor given plan service = .ok (.mapping m)) (hvalid : Settings.Valid m)
    (hclasses : RetentionIn m classes) (hsend : ∀ c ∈ classes, Template.Sendable c.1) :
    Achieves (classLog (classesAt e ns)) e (held, log)
      (b.changeNamespacePlan id service plan given) fun _ t => ∃ periods, ReadAs classes periods ∧
        t = (afterAll (errands periods held) held, log ++ errands periods held) := by
  refine .modify_bind (.mapFault (.lift_bind hname (.bind ?_)))
  refine achieves_effective hmerge hvalid fun m' hsettled => ?_
  obtain ⟨r, hr, hbody⟩ := namespaceUpdate_mapping m'
  obtain ⟨periods, hread, hin⟩ := settled_periods hsettled hclasses
  have hnames : ∀ p ∈ periods, Template.Sendable p.1 := by
    intro p hp
    obtain ⟨c, hc, hpc, _⟩ := exists_left_of_forall₂ hread p hp
    rw [hpc]
    exact hsend c hc
  refine .lift_bind hr (.bind ((achieves_update hns hbody).mono ?_))
  rintro _ t rfl
  refine .lift_bind hin ((achieves_reconcile hns hnames given m').mono ?_)
  exact fun _ t ht => ⟨periods, hread, ht⟩

/-- **A change of plan brings the retention classes of a namespace to what is asked for.** Against a
management API that keeps the classes and lets everything else succeed, it comes to its end; the
classes are as the merged parameters ask for, none is created that is there, and none is changed or
removed that is not; no class is changed twice. A second change to the same leaves the classes as
they are. -/
theorem retention_reconciled {σ : Type} (w : Dialogue.World Wire σ) (st : σ) (b : Broker)
    (bs : State) {id given : Value} {plan : Plan} {service : ServiceDefinition} {s : Session}
    (hname : b.nameOf id = .ok (.text ns)) (hns : Template.Sendable ns)
    (hmerge : Settings.mergeFor given plan service = .ok (.mapping m)) (hvalid : Settings.Valid m)
    (hclasses : RetentionIn m classes) (hnodup : (classes.map Prod.fst).Nodup)
    (hsend : ∀ c ∈ classes, Template.Sendable c.1) (hs : s.Usable) (he : s.endpoint = .text e)
    (htalk : Talk (classBackend (classesAt e ns)) held (Dialogue.run w
      (Session.carryOut ((b.changeNamespacePlan id service plan given).run bs) s) st).events held') :
    let o := Dialogue.run w
      (Session.carryOut ((b.changeNamespacePlan id service plan given).run bs) s) st
    let es := noted (Errand.of? (classesAt e ns)) o.events
    (∃ v, o.result.1.1 = .ok v) ∧ Reconciled classes held held' ∧
      Careful es held ∧ (es.filterMap Errand.changed?).Nodup ∧
      ∀ (s₂ : Session) (bs₂ : State) (st₂ : σ) (held'' : Classes), s₂.Usable →
        s₂.endpoint = .text e →
        let o₂ := Dialogue.run w
          (Session.carryOut ((b.changeNamespacePlan id service plan given).run bs₂) s₂) st₂
        Talk (classBackend (classesAt e ns)) held' o₂.events held'' →
        (∃ v, o₂.result.1.1 = .ok v) ∧ held'' = held' := by
  intro o es
  have hrun : ∀ {s : Session} {bs : State} {st : σ} {held held' : Classes}, s.Usable →
      s.endpoint = .text e →
      let o := Dialogue.run w
        (Session.carryOut ((b.changeNamespacePlan id service plan given).run bs) s) st
      Talk (classBackend (classesAt e ns)) held o.events held' →
      (∃ v, o.result.1.1 = .ok v) ∧ ∃ periods, ReadAs classes periods ∧
        held' = afterAll (errands periods held) held ∧
        noted (Errand.of? (classesAt e ns)) o.events = errands periods held := by
    intro s bs st held held' hs he o htalk
    obtain ⟨v, hv, periods, hread, ht⟩ :=
      (achieves_changeNamespacePlan hname hns hmerge hvalid hclasses hsend).run
        calm_classBackend.noting w hs he bs st (htalk.noting [])
    obtain ⟨hheld, hlog⟩ := Prod.mk.inj ht
    exact ⟨⟨v, hv⟩, periods, hread, hheld, hlog⟩
  have hreconciled : ∀ {periods : Periods} {held : Classes}, ReadAs classes periods →
      Reconciled classes held (afterAll (errands periods held) held) := by
    intro periods held hread
    exact reconciled_of_reaches hread (reaches_errands (by rwa [names_of_readAs hread]))
  obtain ⟨hok, periods, hread, rfl, hes⟩ := hrun hs he htalk
  have hnames : (periods.map Prod.fst).Nodup := by rwa [names_of_readAs hread]
  refine ⟨hok, hreconciled hread, ?_, ?_, ?_⟩
  · show Careful (noted _ _) held
    rw [hes]
    exact careful_errands periods held
  · show (List.filterMap _ (noted _ _)).Nodup
    rw [hes]
    exact (changed_errands periods held).nodup hnames
  · intro s₂ bs₂ st₂ held'' hs₂ he₂ o₂ htalk₂
    obtain ⟨hok₂, periods₂, hread₂, rfl, _⟩ := hrun hs₂ he₂ htalk₂
    exact ⟨hok₂, (hreconciled hread).again (hreconciled hread₂)⟩

/-! ## 4. Parameters that ask for classes only -/

/-- A plan that forces nothing. -/
def unforced : Plan := ⟨"p1", "unforced", .null, [], false⟩

def spaces : ServiceDefinition := ⟨"s1", "spaces", "namespace", .null, [], false, [unforced]⟩

/-- Parameters that ask for retention classes and nothing else. -/
def asking (classes : List (Text × Value)) : Mapping :=
  [(.text Settings.retention, .mapping (Mapping.ofNamed classes))]

theorem get_asking (name : Text) : Mapping.get (asking classes) name =
    if name = Settings.retention then some (.mapping (Mapping.ofNamed classes)) else none := by
  rw [asking, Mapping.get_cons, Mapping.text_equal_text]
  simp only [decide_eq_true_eq, Mapping.get_nil]

theorem mergeFor_asking (classes : List (Text × Value)) :
    Settings.mergeFor (.mapping (asking classes)) unforced spaces =
      .ok (.mapping (asking classes)) := rfl

theorem retentionIn_asking : RetentionIn (asking classes) classes := .inr (get_asking _)

theorem valid_asking (h : ∀ c ∈ classes, Settings.IsInteger c.2) :
    Settings.Valid (asking classes) where
  quota := .inl (.inl (get_asking _))
  defaultRetention := .inl (.inl (get_asking _))
  retention := by
    refine .inr ⟨_, get_asking _, _, rfl, fun entry hentry => ?_⟩
    obtain ⟨c, hc, rfl⟩ := List.mem_map.1 hentry
    exact h c hc

/-- A change of plan in the world of a management API that holds retention classes. -/
def planChange (classes : List (Text × Value)) (held : Classes) :
    Dialogue.Outcome Wire Classes ((Except Fault Value × State) × Session) :=
  Dialogue.run (worldOf (classAnswer (classesAt "https://ecs:4443" "ecs-cf-broker-n")))
    (Session.carryOut ((bare.changeNamespacePlan (.text "n") spaces unforced
      (.mapping (asking classes))).run .start) (Session.expired.withToken none)) held

/-- **A class whose name is half of a pair cannot be reconciled**, though its name is a text and all
else is as it has to be: its address cannot be written. -/
theorem retention_halfName_fails :
    let o := planChange [(Text.unpaired, .int 5)] fun _ => none
    Settings.Valid (asking [(Text.unpaired, .int 5)]) ∧
      RetentionIn (asking [(Text.unpaired, .int 5)]) [(Text.unpaired, .int 5)] ∧
      Talk (classBackend (classesAt "https://ecs:4443" "ecs-cf-broker-n")) (fun _ => none)
        o.events o.state ∧
      ¬ ∃ v, o.result.1.1 = .ok v := by
  intro o
  refine ⟨valid_asking ?_, retentionIn_asking, talk_worldOf (classAnswer_fits _) _ _, ?_⟩
  · intro c hc
    cases List.mem_singleton.1 hc
    exact ⟨5, Settings.reads_int 5⟩
  · rintro ⟨v, hv⟩
    have hfails : o.result.1.1.isOk = false := by decide +kernel
    rw [hv] at hfails
    cases hfails

/-- Of two classes asked for, one that is there is removed and one with blanks, a slash and an umlaut
in its name is created; a third one is left alone. -/
theorem retention_reconciled_two :
    let classes : List (Text × Value) := [("old", .int (-1)), ("5 years/ü", .text "30")]
    let held : Classes := fun name => if name = "old" ∨ name = "kept" then some (.int 7) else none
    let o := planChange classes held
    (∀ c ∈ classes, Template.Sendable c.1) ∧ o.result.1.1.isOk ∧ o.state "old" = none ∧
      o.state "5 years/ü" = some (.int 30) ∧ o.state "kept" = some (.int 7) := by
  intro classes held o
  have hsend : ∀ c ∈ classes, Template.Sendable c.1 :=
    List.forall_mem_cons.2 ⟨Text.Template.sendable_plain "old",
      List.forall_mem_singleton.2 (Text.Template.sendable_plain "5 years/ü")⟩
  have hyears : Settings.Reads (.text "30") 30 := ⟨nofun, rfl⟩
  have hvalid : Settings.Valid (asking classes) := by
    refine valid_asking (List.forall_mem_cons.2 ⟨⟨_, Settings.reads_int _⟩, ?_⟩)
    exact List.forall_mem_singleton.2 ⟨_, hyears⟩
  have hname : bare.nameOf (.text "n") = .ok (.text "ecs-cf-broker-n") := rfl
  obtain ⟨⟨v, hv⟩, hreconciled, _⟩ := retention_reconciled
    (worldOf (classAnswer (classesAt "https://ecs:4443" "ecs-cf-broker-n"))) held bare .start hname
    (by decide +kernel) (mergeFor_asking classes) hvalid retentionIn_asking (by decide) hsend
    (Session.usable_expired.withToken none) rfl (talk_worldOf (classAnswer_fits _) _ held)
  obtain ⟨i, ⟨_, hi⟩, hstate⟩ := hreconciled.asked ("old", .int (-1)) (by simp [classes])
  obtain ⟨j, ⟨_, hj⟩, hstate'⟩ := hreconciled.asked ("5 years/ü", .text "30") (by simp [classes])
  cases hi
  rw [hyears.2] at hj
  cases hj
  have hok : o.result.1.1 = .ok v := hv
  exact ⟨hsend, by rw [hok]; rfl, hstate, hstate', hreconciled.other "kept" (by decide)⟩

end StorageBroker.Broker
