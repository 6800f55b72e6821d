import StorageBroker.Proofs.Broker.Creation
/-!
# A broker that has not been started

Some commands need what a start has discovered: to create a bucket or a namespace, to change the
plan of a bucket, and to tell the address of a namespace. Each of them looks for it in another
place, behind other steps that may fail, but always before it has changed anything. So without a
start they all fail, and nothing has been done but to ask whether the new resource exists.

* `NeedsStart` -- the commands that need a start;
* `Stalls` -- operations that do not get on without a start, and `Stalls.bind` and the like, how
  they are put together;
* `stalls_existing_bind` -- what does not get on behind a probe;
* `stalls_creation`, `stalls_changeBucketPlan`, `stalls_namespaceUrl` -- the commands, each of which
  looks for what was discovered at another place;
* `unstarted_changes_nothing` -- these commands over a session.
-/

namespace StorageBroker.Broker

open Management
open Settings (Valid)

/-! ## 1. What needs a start -/

/-- The report that a broker has not been started. -/
def unstarted : Fault := failure "ECS service is not initialized"

/-- **The commands that need what a start discovers.** -/
inductive NeedsStart : Command → Prop where
  | creation (k : Resource) {id parameters : Value} {service : ServiceDefinition} {plan : Plan} :
      NeedsStart (.provision (creationOf k) id service plan parameters)
  | changeBucketPlan {id parameters : Value} {service : ServiceDefinition} {plan : Plan} :
      NeedsStart (.provision .changeBucketPlan id service plan parameters)
  | namespaceUrl {ns parameters settings : Value} :
      NeedsStart (.namespaceUrl ns parameters settings)

/-- Whether a command asks at first whether a resource exists. -/
def Command.probes : Command → Bool
  | .provision .createBucket .. | .provision .createNamespace .. => true
  | _ => false

/-- **The settings of a command can be merged**, and pass the check of a provision. -/
def Command.SettingsInOrder : Command → Prop
  | .provision _ _ service plan parameters =>
    ∃ m, Settings.mergeFor parameters plan service = .ok (.mapping m) ∧ Valid m
  | .namespaceUrl _ parameters settings =>
    ∃ own merged, (parameters.orElse (.mapping [])).toMapping = .ok own ∧
      Settings.merge (.mapping own) [settings] = .ok merged
  | _ => True

/-- **The probe of a command has found nothing**, if it has one: it is the first call. -/
def Unfound (probing : Bool) (es : List (Dialogue.Event Remote)) : Prop :=
  probing → ∃ c g rest, es = called c (.error g) :: rest ∧ g.isAbsence

/-- Without a probe there is nothing to be found. -/
theorem unfound_false {es : List (Dialogue.Event Remote)} : Unfound false es := by
  intro h
  cases h

/-! ## 2. Operations that do not get on -/

/-- **How an operation ends that does not get on without a start**: it asks nothing but probes, or
nothing at all, and fails. Under its condition, and where its probe has found nothing, it fails with
the report that there was no start. -/
structure Stalled {α : Type} (probing : Bool) (A : Prop) (es : List (Dialogue.Event Remote))
    (r : Except Fault α) (s' : State) : Prop where
  silent : probing = false → es = []
  probes : ∀ e ∈ es, ∃ c a, e = called c a ∧ IsProbe c
  undiscovered : s'.discovery = none
  fails : ∃ f, r = .error f
  reports : A → Unfound probing es → r = .error unstarted

/-- **An operation that does not get on without a start.** -/
def Stalls {α : Type} (probing : Bool) (A : Prop) (x : Operation α) : Prop :=
  ∀ s es r s', s.discovery = none → x.Course s es r s' → Stalled probing A es r s'

section Stalls

variable {α β : Type} {probing : Bool} {A : Prop}

/-- What fails before it has asked anything. -/
theorem stalled_nil {s' : State} {f : Fault} (hs : s'.discovery = none)
    (hA : A → Unfound probing [] → f = unstarted) :
    Stalled probing A [] (.error f : Except Fault α) s' where
  silent _ := rfl
  probes _ he := absurd he List.not_mem_nil
  undiscovered := hs
  fails := ⟨f, rfl⟩
  reports h hunfound := congrArg Except.error (hA h hunfound)

theorem stalls_discovered : Stalls probing A discovered := by
  intro s es r s' hs h
  rw [discovered, Action.course_get_bind, hs] at h
  obtain ⟨rfl, rfl, rfl⟩ := Action.course_throw.1 h
  exact stalled_nil hs fun _ _ => rfl

/-- What comes behind such an operation is not reached. -/
theorem Stalls.bind {x : Operation β} {f : β → Operation α} (hx : Stalls probing A x) :
    Stalls probing A (x >>= f) := by
  intro s es r s' hs h
  obtain ⟨e, hfirst, rfl⟩ | ⟨_, _, _, _, hfirst, _⟩ := Action.course_bind.1 h
  · have hstalled := hx _ _ _ _ hs hfirst
    refine ⟨hstalled.silent, hstalled.probes, hstalled.undiscovered, ⟨e, rfl⟩, fun hA hunfound => ?_⟩
    cases hstalled.reports hA hunfound
    rfl
  · obtain ⟨f, hr⟩ := (hx _ _ _ _ hs hfirst).fails
    cases hr

theorem stalls_checkPolicy {v : Value} : Stalls probing A (checkPolicy v) :=
  stalls_discovered.bind

theorem Stalls.note_bind {given now : Value} {f : PUnit → Operation α}
    (hf : Stalls probing A (f ())) : Stalls probing A (note given now >>= f) := by
  intro s es r s' hs h
  refine hf _ _ _ _ ?_ (Action.course_modify_bind.1 h)
  exact hs

/-- The report is one of the broker already. -/
theorem Stalls.reporting {x : Operation α} (hx : Stalls probing A x) :
    Stalls probing A (reporting x) := by
  intro s es r s' hs h
  obtain ⟨r', hinner, rfl⟩ := Action.course_mapFault.1 h
  have hstalled := hx _ _ _ _ hs hinner
  refine ⟨hstalled.silent, hstalled.probes, hstalled.undiscovered, ?_, fun hA hunfound => ?_⟩
  · obtain ⟨f, rfl⟩ := hstalled.fails
    exact ⟨f.wrap, rfl⟩
  · rw [hstalled.reports hA hunfound]
    exact congrArg Except.error (Fault.wrap_of_isBroker rfl)

/-- A step that the condition lets pass may stand before it, and so may any step before a probe. -/
theorem Stalls.lift_bind {x : Except Malformed β} {f : β → Operation α}
    (hx : A → probing = false → ∃ b, x = .ok b) (hf : ∀ b, x = .ok b → Stalls probing A (f b)) :
    Stalls probing A (liftM x >>= f) := by
  intro s es r s' hs h
  obtain ⟨m, hm, rfl, rfl, rfl⟩ | ⟨b, hb, h⟩ := Action.course_lift_malformed_bind.1 h
  · refine stalled_nil hs fun hA hunfound => ?_
    cases probing with
    | false =>
      obtain ⟨b, hb⟩ := hx hA rfl
      cases hb.symm.trans hm
    | true =>
      obtain ⟨_, _, _, hnil, _⟩ := hunfound rfl
      cases hnil
  · exact hf b hb _ _ _ _ hs h

/-- **The check of the settings** may stand before it. -/
theorem Stalls.effective_bind {given : Value} {plan : Plan} {service : ServiceDefinition}
    {f : Value → Operation α} (hf : ∀ v, Stalls probing
      (∃ m, Settings.mergeFor given plan service = .ok (.mapping m) ∧ Valid m) (f v)) :
    Stalls probing (∃ m, Settings.mergeFor given plan service = .ok (.mapping m) ∧ Valid m)
      (effective given plan service >>= f) := by
  intro s es r s' hs h
  obtain ⟨e, hfirst, rfl⟩ | ⟨es₁, v, s₁, es₂, hfirst, hnext, rfl⟩ := Action.course_bind.1 h
  · obtain ⟨rfl, hs', hinvalid | ⟨_, _, _, hr⟩⟩ := course_effective hfirst
    · obtain ⟨_, _, hinvalid⟩ := hinvalid
      refine stalled_nil (hs'.trans hs) fun hA _ => ?_
      obtain ⟨m, hmerge, hvalid⟩ := hA
      exact absurd hvalid (hinvalid m hmerge)
    · cases hr
  · obtain ⟨rfl, hs₁, _⟩ := course_effective hfirst
    exact hf v _ _ _ _ (hs₁.trans hs) hnext

/-- Such an operation asks for nothing but probes and never succeeds. -/
theorem Stalls.prepares {x : Operation α} (hx : Stalls probing A x) :
    Prepares none (fun _ => False) x := by
  intro s es r s' hs h
  have hstalled := hx _ _ _ _ hs h
  refine ⟨hstalled.probes, hstalled.undiscovered, fun a ha => ?_⟩
  obtain ⟨f, hr⟩ := hstalled.fails
  cases ha.symm.trans hr

end Stalls

/-! ## 3. Behind a probe -/

section Probe

variable {b : Broker} {id : Value}

theorem prepares_existing {d : Option Discovery} (k : Resource) :
    Prepares d (fun _ => ∃ name, b.nameOf id = .ok name) (b.existing id k) := by
  intro s es r s' hs h
  have hprepares : Prepares d (fun _ => True) (b.existing id k) := by
    cases k with
    | bucket => exact b.prepares_bucketExists
    | space => exact b.prepares_namespaceExists
  obtain ⟨hprobes, hs', _⟩ := hprepares _ _ _ _ hs h
  refine ⟨hprobes, hs', fun there hr => ?_⟩
  obtain ⟨_, ⟨_, ⟨f, hf⟩, _⟩ | ⟨name, _, _, hname, _⟩⟩ := course_existing h
  · cases hr.symm.trans hf
  · exact ⟨name, hname⟩

/-- **Behind a probe** an operation does not get on if it refuses what exists, and does not get on
with what does not. -/
theorem stalls_existing_bind {α : Type} {A : Prop} {k : Resource} {f : Bool → Operation α}
    (hthere : Prepares none (fun _ => False) (f true))
    (hmissing : ∀ name, b.nameOf id = .ok name → Stalls false A (f false)) :
    Stalls true A (b.existing id k >>= f) := by
  intro s es r s' hs h
  have hprepares : Prepares none (fun _ => False) (b.existing id k >>= f) := by
    refine (prepares_existing k).andThen fun there hname => ?_
    obtain ⟨name, hname⟩ := hname
    cases there with
    | true => exact hthere
    | false => exact (hmissing name hname).prepares
  obtain ⟨hprobes, hs', hnever⟩ := hprepares _ _ _ _ hs h
  refine ⟨fun hsilent => ?_, hprobes, hs', ?_, fun hA hunfound => ?_⟩
  · cases hsilent
  · cases r with
    | ok a => exact (hnever a rfl).elim
    | error f => exact ⟨f, rfl⟩
  · obtain ⟨c, g, rest, rfl, hg⟩ := hunfound rfl
    obtain ⟨name, hname, hbehind⟩ := course_existing_missing h hg
    exact (hmissing name hname _ _ _ _ hs hbehind).reports hA unfound_false

end Probe

/-! ## 4. Commands -/

section Commands

variable {b : Broker} {id parameters ns settings : Value} {plan : Plan}
  {service : ServiceDefinition}

/-- **A creation** does not get past the parameters behind its probe: the policy of a bucket is
checked next, and the description of a namespace is made. -/
theorem stalls_creation (k : Resource) :
    Stalls true (Command.SettingsInOrder (.provision (creationOf k) id service plan parameters))
      ((creationOf k).perform b id service plan parameters) := by
  have hrefused : ∀ {f : Fault} {g : PUnit → Operation Value},
      Prepares none (fun _ => False) (throw f >>= g) :=
    (prepares_throw (P := fun _ => False)).andThen fun _ h => h.elim
  cases k with
  | bucket =>
    refine .note_bind <| .reporting <| .lift_bind (fun _ h => by cases h) fun name _ => ?_
    refine stalls_existing_bind (k := .bucket) hrefused fun _ _ => ?_
    exact .effective_bind fun _ => stalls_checkPolicy.bind
  | space =>
    refine .note_bind <| .reporting <| stalls_existing_bind (k := .space) hrefused ?_
    intro name hname
    refine .effective_bind fun _ => .lift_bind (fun _ _ => ⟨name, hname⟩) fun _ _ => ?_
    exact stalls_discovered.bind

/-- **A change of plan** does not get past the check of its policy. -/
theorem stalls_changeBucketPlan :
    Stalls false (Command.SettingsInOrder (.provision .changeBucketPlan id service plan parameters))
      (b.changeBucketPlan id service plan parameters) :=
  .note_bind <| .reporting <| .effective_bind fun _ => stalls_checkPolicy.bind

/-- **The address of a namespace** is not told even where the parameters name the base URL. -/
theorem stalls_namespaceUrl :
    Stalls false (Command.SettingsInOrder (.namespaceUrl ns parameters settings))
      (namespaceUrl ns parameters settings) := by
  refine .reporting <| .lift_bind (fun h _ => ?_) fun own hown => .lift_bind (fun h _ => ?_)
    fun _ _ => stalls_discovered.bind
  · obtain ⟨own, _, hown, _⟩ := h
    exact ⟨own, hown⟩
  · obtain ⟨own', merged, hown', hmerged⟩ := h
    cases hown.symm.trans hown'
    exact ⟨merged, hmerged⟩

/-- **The commands that need a start** do not get on without one. -/
theorem stalls_of_needsStart {cmd : Command} (h : NeedsStart cmd) :
    Stalls cmd.probes cmd.SettingsInOrder (cmd.perform b) := by
  cases h with
  | creation k =>
    cases k with
    | bucket => exact stalls_creation .bucket
    | space => exact stalls_creation .space
  | changeBucketPlan => exact stalls_changeBucketPlan
  | namespaceUrl => exact stalls_namespaceUrl

end Commands

/-! ## 5. Over a session -/

variable (b : Broker)

/-- **A broker that has not been started changes nothing** by the commands that need a start. They
all fail, and send nothing but what belongs to a probe, and no request that changes anything; a
change of plan and the address of a namespace send nothing at all. Where the settings can be merged
and pass, and the probe of a creation has found nothing, the failure is that there was no start. -/
theorem unstarted_changes_nothing {cmd : Command} (hneeds : NeedsStart cmd) {bs : State}
    (hd : bs.discovery = none) {σ : Type} (w : Dialogue.World Wire σ) (st : σ) (s : Session) :
    let x := (cmd.perform b).run bs
    let o := Dialogue.run w (Session.carryOut x s) st
    (∃ f, o.result.1.1 = .error f) ∧ o.result.1.2.discovery = none ∧
      (∀ e ∈ o.events, ¬ IsChange e ∧ ∃ c, Session.RequestOf s c e ∧ IsProbe c) ∧
      (cmd.probes = false → o.events = []) ∧
      (cmd.SettingsInOrder →
        Unfound cmd.probes ((Session.turns w x s st).map Dialogue.Turn.event) →
        o.result.1.1 = .error unstarted) := by
  intro x o
  have hstalled := stalls_of_needsStart (b := b) hneeds _ _ _ _ hd
    (Action.course_iff.1 (Session.course_carryOut w x s st))
  have hevents := Session.events_of_calls w x s st hstalled.probes
  refine ⟨hstalled.fails, hstalled.undiscovered, fun e he => ?_, fun hsilent => ?_, hstalled.reports⟩
  · obtain ⟨c, hrequest, hprobe⟩ := hevents e he
    exact ⟨not_isChange_of_isProbe hprobe hrequest, c, hrequest, hprobe⟩
  · have hnone : Session.turns w x s st = [] := List.map_eq_nil_iff.1 (hstalled.silent hsilent)
    show (Dialogue.run w (Session.carryOut x s) st).events = []
    rw [Session.events_carryOut, hnone]
    rfl

/-- A namespace that is not there yet, and would be created: the storage is asked for it, and it is
left at that. -/
theorem unstarted_changes_nothing_space :
    let cmd : Command := .provision (creationOf .space) (.text "b") unlimited limited (.mapping [])
    let x := (cmd.perform bare).run .start
    let s := Session.expired.withToken none
    let o := Dialogue.run Rehearsal.world (Session.carryOut x s) withoutB
    o.events.filterMap addressOf = (["https://ecs:4443/login",
        "https://ecs:4443/object/namespaces/namespace/ecs-cf-broker-b"] : List Text) ∧
      NeedsStart cmd ∧ State.start.discovery = none ∧ cmd.SettingsInOrder ∧
      Unfound cmd.probes ((Session.turns Rehearsal.world x s withoutB).map Dialogue.Turn.event) ∧
      (∀ e ∈ o.events, ¬ IsChange e) ∧ o.result.1.1 = .error unstarted := by
  intro cmd x s o
  have hrun : o.events.filterMap addressOf = (["https://ecs:4443/login",
        "https://ecs:4443/object/namespaces/namespace/ecs-cf-broker-b"] : List Text) ∧
      ((Session.turns Rehearsal.world x s withoutB).map Dialogue.Turn.event).head?.any
        isMissing := by decide +kernel
  obtain ⟨haddresses, hprobe⟩ := hrun
  have hneeds : NeedsStart cmd := .creation .space
  have hd : State.start.discovery = none := rfl
  have horder : cmd.SettingsInOrder := by
    refine ⟨_, mergeFor_of_given (.mapping []) limited unlimited, ?_⟩
    exact Settings.fault_check_eq_none_iff.1 (Option.isNone_iff_eq_none.1 (by decide +kernel))
  have hunfound : Unfound cmd.probes
      ((Session.turns Rehearsal.world x s withoutB).map Dialogue.Turn.event) :=
    fun _ => missing_of_head hprobe
  obtain ⟨_, _, hsent, _, hreport⟩ :=
    bare.unstarted_changes_nothing hneeds hd Rehearsal.world withoutB s
  exact ⟨haddresses, hneeds, hd, horder, hunfound, fun e he => (hsent e he).1,
    hreport horder hunfound⟩

end StorageBroker.Broker
