import StorageBroker.Proofs.Broker.Retention
import StorageBroker.Proofs.Session.Acceptance
/-!
# Retention classes in the effective parameters

A change of plan gives back the parameters that took effect. The retention classes stand in them as
one setting, and that setting goes as a whole as soon as one class has been removed: a class that
was asked for survives exactly in the requests that remove none.

* `Settled.classAt` -- behind the check every class stands with its period;
* `course_reconcile` -- reconciling leaves the parameters alone, or drops the setting;
* `classes_survive_iff` -- a change of plan over a session;
* `class_lost_by_removal` -- a class that was created and is missing from what is given back.
-/

namespace StorageBroker

theorem Mapping.erase_erase (m : Mapping) (name : Text) :
    Mapping.erase (Mapping.erase m name) name = Mapping.erase m name := by
  simp only [Mapping.erase, List.filter_filter, Bool.and_self]

/-! ## 1. Classes behind the check -/

namespace Settings

/-- A retention class stands in parameters with its period. -/
def ClassAt (m : Mapping) (name : Value) (i : Int) : Prop :=
  ∃ cs, Mapping.get m Settings.retention = some (.mapping cs) ∧ (name, .int i) ∈ cs

/-- **Behind the check every class stands with the period that it was read as.** -/
theorem Settled.classAt {m m' : Mapping} {name : Value} {i : Int} (h : Settled m m')
    (hclass : ClassIn m name i) : ClassAt m' name i := by
  have hclasses := h.retention
  obtain ⟨cs, v, hcs, hmem, hread⟩ := hclass
  unfold ClassAt
  generalize Mapping.get m Settings.retention = a, Mapping.get m' Settings.retention = b
    at hclasses hcs
  cases hclasses with
  | missing => cases hcs
  | null => cases hcs
  | read _ hcheck =>
    cases hcs
    obtain ⟨_, cs', hsame, rfl, hall⟩ := checkRetention_eq_ok hcheck
    cases hsame
    obtain ⟨_, hmem', j, hj, rfl⟩ := exists_right_of_forall₂ hall _ hmem
    obtain rfl : i = j := Except.ok.inj (hread.2.symm.trans hj.2)
    exact ⟨cs', rfl, hmem'⟩

end Settings

namespace Broker

open Management
open Settings (ClassAt ClassIn Settled)

variable {n : Mapping} {given name v : Value} {s s' : State} {es : List (Dialogue.Event Remote)}

/-! ## 2. Reconciling -/

/-- The calls that remove nothing. -/
def Spares (c : Call) : Prop := c.method ≠ "DELETE"

theorem spares_of_method {c : Call} {t : Text} (h : c.method = .text t) (ht : t ≠ "DELETE") :
    Spares c := fun hc => ht (Value.text.inj (h.symm.trans hc))

theorem spares_of_isProbe {c : Call} (h : IsProbe c) : Spares c :=
  spares_of_method h.method.1 (by decide)

/-- **What becomes of parameters with their classes**: they are as they were, or they have lost the
classes behind the removal of one whose period is `unset`. -/
inductive Left (n : Mapping) (classes : Mapping) (es : List (Dialogue.Event Remote)) (v : Value) :
    Prop where
  | whole (hes : ∀ e ∈ es, ∃ c a, e = called c a ∧ Spares c) (hv : v = .mapping n)
  | dropped {c : Call} {a : Response} {e : Value × Value} (hc : called c (.ok a) ∈ es)
      (hmethod : c.method = "DELETE") (he : e ∈ classes) (hperiod : e.2.equal (.int Settings.unset))
      (hv : v = .mapping (Mapping.erase n Settings.retention))

variable {classes : Mapping}

/-- What comes before makes no difference if it removes nothing. -/
theorem Left.cons {es₁ es₂ : List (Dialogue.Event Remote)}
    (hes₁ : ∀ e ∈ es₁, ∃ c a, e = called c a ∧ Spares c) (h : Left n classes es₂ v) :
    Left n classes (es₁ ++ es₂) v := by
  cases h with
  | whole hes hv => exact .whole (fun e he => (List.mem_append.1 he).elim (hes₁ e) (hes e)) hv
  | dropped hc hmethod he hperiod hv =>
    exact .dropped (List.mem_append_right _ hc) hmethod he hperiod hv

theorem Left.later {e : Value × Value} (h : Left n classes es v) : Left n (e :: classes) es v := by
  cases h with
  | whole hes hv => exact .whole hes hv
  | dropped hc hmethod he hperiod hv =>
    exact .dropped hc hmethod (List.mem_cons_of_mem _ he) hperiod hv

/-- What was dropped is not there to be dropped again. -/
theorem Left.erased (h : Left (Mapping.erase n Settings.retention) classes es v) :
    v = .mapping (Mapping.erase n Settings.retention) := by
  cases h with
  | whole _ hv => exact hv
  | dropped _ _ _ _ hv => rw [hv, Mapping.erase_erase]

/-- A removal that succeeds is a call with the method for it. -/
theorem course_deleteRetention {className : Value} {es : List (Dialogue.Event Remote)}
    (h : (Namespace.deleteRetention name className : Operation Unit).Course s es (.ok ()) s') :
    ∃ c a, es = [called c (.ok a)] ∧ c.method = "DELETE" := by
  obtain ⟨_, ⟨_, m, hm⟩ | ⟨c, a, ⟨p, _, rfl⟩, rfl, ha⟩⟩ :=
    Namespace.makes_deleteRetention _ _ _ _ h
  · cases hm
  · cases a with
    | ok a => exact ⟨_, a, rfl, rfl⟩
    | error f => cases ha

theorem asks_probe_spares {className : Value} :
    Asks Spares (Namespace.retentionExist name className : Operation Bool) :=
  Namespace.makes_retentionExist.asks.mono fun _ hc => spares_of_isProbe (.retentionClass hc)

theorem asks_update_spares {className period : Value} :
    Asks Spares (Namespace.updateRetention name className period : Operation Unit) := by
  refine Namespace.makes_updateRetention.asks.mono fun c hc => ?_
  obtain ⟨p, _, rfl⟩ := hc
  exact spares_of_method rfl (by decide)

theorem asks_create_spares {className period : Value} :
    Asks Spares (Namespace.createRetention name className period : Operation Unit) := by
  refine Namespace.makes_createRetention.asks.mono fun c hc => ?_
  obtain ⟨p, _, rfl⟩ := hc
  exact spares_of_method rfl (by decide)

/-- The rest of a row that has removed nothing so far. -/
theorem course_behind_spares {α β : Type} {x : Operation α} {f : α → Operation β} {r : β}
    (hx : Asks Spares x) (h : (x >>= f).Course s es (.ok r) s') :
    ∃ es₁ a s₁ es₂, (∀ e ∈ es₁, ∃ c a, e = called c a ∧ Spares c) ∧
      (f a).Course s₁ es₂ (.ok r) s' ∧ es = es₁ ++ es₂ := by
  obtain ⟨e, _, he⟩ | ⟨es₁, a, s₁, es₂, hfirst, hrest, rfl⟩ := Action.course_bind.1 h
  · cases he
  · exact ⟨es₁, a, s₁, es₂, hx _ _ _ _ hfirst, hrest, rfl⟩

/-- **Reconciling leaves the parameters as they are, or without their classes.** -/
theorem course_reconcile (h : (reconcile given name classes (.mapping n)).Course s es (.ok v) s') :
    Left n classes es v := by
  induction classes generalizing n s es with
  | nil =>
    obtain ⟨rfl, hv, _⟩ := Action.course_pure.1 h
    cases hv
    exact .whole (fun e he => absurd he List.not_mem_nil) rfl
  | cons e rest ih =>
    obtain ⟨className, period⟩ := e
    rw [reconcile] at h
    obtain ⟨es₁, there, s₁, es₂, hes₁, hbehind, rfl⟩ := course_behind_spares asks_probe_spares h
    refine .cons hes₁ ?_
    by_cases hperiod : period.equal (.int Settings.unset)
    · rw [if_pos hperiod] at hbehind
      cases there with
      | false => exact .later (ih hbehind)
      | true =>
        rw [if_pos rfl, Action.course_bind] at hbehind
        obtain ⟨f, _, hf⟩ | ⟨es₃, ⟨⟩, s₂, es₄, hremoval, hrest, rfl⟩ := hbehind
        · cases hf
        obtain ⟨c, a, rfl, hmethod⟩ := course_deleteRetention hremoval
        obtain ⟨m, hm, _⟩ | ⟨w, hw, hrest⟩ := Action.course_lift_malformed_bind.1 hrest
        · cases hm
        cases hw
        have hlast := ih (Action.course_modify_bind.1 hrest)
        exact .dropped (List.mem_append_left _ (List.mem_singleton_self _)) hmethod
          List.mem_cons_self hperiod hlast.erased
    · rw [if_neg hperiod] at hbehind
      cases there with
      | true =>
        obtain ⟨es₃, _, _, _, hes₃, hrest, rfl⟩ :=
          course_behind_spares asks_update_spares hbehind
        exact .cons hes₃ (.later (ih hrest))
      | false =>
        obtain ⟨es₃, _, _, _, hes₃, hrest, rfl⟩ :=
          course_behind_spares asks_create_spares hbehind
        exact .cons hes₃ (.later (ih hrest))

/-! ## 3. A change of plan -/

/-- **What a change of plan gives back** are the settled parameters, whole or without their
classes. -/
theorem course_changeNamespacePlan {b : Broker} {id : Value} {plan : Plan}
    {service : ServiceDefinition}
    (h : (b.changeNamespacePlan id service plan given).Course s es (.ok v) s') :
    ∃ m m' classes, Settings.mergeFor given plan service = .ok (.mapping m) ∧ Settled m m' ∧
      classesIn (.mapping m') = .ok classes ∧ Left m' classes es v := by
  obtain ⟨r, h, hr⟩ := Action.course_mapFault.1 (Action.course_modify_bind.1 h)
  obtain rfl := mapError_eq_ok.1 hr.symm
  obtain ⟨_, _, _, hm, _⟩ | ⟨ns, _, h⟩ := Action.course_lift_malformed_bind.1 h
  · cases hm
  rw [Action.course_bind] at h
  obtain ⟨f, _, hf⟩ | ⟨es₁, _, s₁, es₂, heffective, hbehind, rfl⟩ := h
  · cases hf
  obtain ⟨hes₁, _, hgiven⟩ := prepares_effective _ _ _ _ rfl heffective
  obtain ⟨m, m', hmerge, rfl, hsettled⟩ := hgiven _ rfl
  have hspared : ∀ e ∈ es₁, ∃ c a, e = called c a ∧ Spares c := by
    intro e he
    obtain ⟨c, a, hc, hprobe⟩ := hes₁ e he
    exact ⟨c, a, hc, spares_of_isProbe hprobe⟩
  obtain ⟨_, _, _, hm, _⟩ | ⟨body, _, hbehind⟩ := Action.course_lift_malformed_bind.1 hbehind
  · cases hm
  have hupdate : Asks Spares (Namespace.update ns body.toValue : Operation Unit) := by
    refine Namespace.makes_update.asks.mono fun c hc => ?_
    obtain ⟨p, body, _, _, rfl⟩ := hc
    exact spares_of_method rfl (by decide)
  obtain ⟨es₃, _, _, es₄, hes₃, hrest, rfl⟩ := course_behind_spares hupdate hbehind
  obtain ⟨_, _, _, hm, _⟩ | ⟨classes, hclasses, hrest⟩ := Action.course_lift_malformed_bind.1 hrest
  · cases hm
  exact ⟨m, m', classes, hmerge, hsettled, hclasses,
    .cons hspared (.cons hes₃ (course_reconcile hrest))⟩

/-- A request that removes something. -/
def IsRemoval (e : Dialogue.Event Wire) : Prop :=
  ∃ q x, e = Session.sent q x ∧ q.method = "DELETE"

/-- The requests of a call that removes nothing do not either. -/
theorem not_isRemoval_of_requestOf {session : Session} {c : Call} {e : Dialogue.Event Wire}
    (hc : Spares c) (h : Session.RequestOf session c e) : ¬ IsRemoval e := by
  rintro ⟨q, x, rfl, hq⟩
  generalize hev : Session.sent q x = ev at h
  cases h with
  | login hu => cases hev; exact absurd (Value.text.inj hq) (by decide)
  | call hu => cases hev; exact hc hq
  | pause => cases hev
  | random => cases hev

section Run

variable {σ : Type} (w : Dialogue.World Wire σ) (st : σ) (session : Session)
  {α : Type} (d : Dialogue Remote α)

/-- **On the wire a removal is seen exactly where a call made one.** -/
theorem not_isRemoval_of_turns
    (h : ∀ e ∈ (Session.turns w d session st).map Dialogue.Turn.event,
      ∃ c a, e = called c a ∧ Spares c) :
    ∀ e ∈ (Dialogue.run w (Session.carryOut d session) st).events, ¬ IsRemoval e := by
  intro e he
  obtain ⟨c, hrequest, hc⟩ := Session.events_of_calls w d session st h e he
  exact not_isRemoval_of_requestOf hc hrequest

theorem isRemoval_of_turns {c : Call} {a : Response} (hc : c.method = "DELETE")
    (h : called c (.ok a) ∈ (Session.turns w d session st).map Dialogue.Turn.event) :
    ∃ e ∈ (Dialogue.run w (Session.carryOut d session) st).events, IsRemoval e := by
  obtain ⟨q, hq, hcarries, _⟩ := Session.accepted_of_turns w d session st h
  exact ⟨_, hq, q, _, rfl, hcarries.method.trans hc⟩

end Run

/-- **A retention class survives a change of plan exactly if nothing was removed.** For every world,
session and request, where the change succeeds: what it gives back holds each class of the merged
parameters whose period is not `unset`, with the period that it was read as, if no removal was sent,
and holds none of them if one was; and a removal is sent only where a class with that period is
asked for. -/
theorem classes_survive_iff {σ : Type} (w : Dialogue.World Wire σ) (st : σ) (b : Broker)
    (bs : State) (session : Session) (id given : Value) (plan : Plan)
    (service : ServiceDefinition) {v : Value}
    (h : (Dialogue.run w (Session.carryOut
      ((b.changeNamespacePlan id service plan given).run bs) session) st).result.1.1 = .ok v) :
    let es := (Dialogue.run w (Session.carryOut
      ((b.changeNamespacePlan id service plan given).run bs) session) st).events
    ∃ m n, Settings.mergeFor given plan service = .ok (.mapping m) ∧ v = .mapping n ∧
      (∀ c i, ClassIn m c i → i ≠ Settings.unset →
        (ClassAt n c i ↔ ∀ e ∈ es, ¬ IsRemoval e)) ∧
      ((∃ e ∈ es, IsRemoval e) → ∃ c, ClassIn m c Settings.unset) := by
  intro es
  have hcourse := Session.course_carryOut w ((b.changeNamespacePlan id service plan given).run bs)
    session st
  rw [Action.course_iff, h] at hcourse
  obtain ⟨m, m', classes, hmerge, hsettled, hclasses, hleft⟩ := course_changeNamespacePlan hcourse
  cases hleft with
  | whole hcalls hv =>
    have hnone : ∀ e ∈ es, ¬ IsRemoval e := not_isRemoval_of_turns w st session _ hcalls
    refine ⟨m, m', hmerge, hv, fun c i hc _ => ⟨fun _ => hnone, fun _ => hsettled.classAt hc⟩, ?_⟩
    rintro ⟨e, he, hremoval⟩
    exact absurd hremoval (hnone e he)
  | @dropped c a e hc hmethod he hperiod hv =>
    have hremoved : ∃ e ∈ es, IsRemoval e := isRemoval_of_turns w st session _ hmethod hc
    refine ⟨m, _, hmerge, hv, fun c i _ _ => ⟨?_, fun hnone => ?_⟩, fun _ => ?_⟩
    · rintro ⟨cs, hcs, _⟩
      rw [Mapping.get_erase, if_pos rfl] at hcs
      cases hcs
    · obtain ⟨e, he, hremoval⟩ := hremoved
      exact absurd hremoval (hnone e he)
    · obtain ⟨i, hclass, hi⟩ := mem_classesIn hsettled hclasses e he
      rw [hi, Value.equal_int_int, decide_eq_true_eq] at hperiod
      exact ⟨e.1, hperiod ▸ hclass⟩

/-- The class `old` is to go and the class `new` is asked for. -/
def replacement : List (Text × Value) := [("old", .int (-1)), ("new", .int 30)]

theorem classIn_replacement : ClassIn (asking replacement) "new" 30 :=
  ⟨_, .int 30, get_asking _, List.mem_cons_of_mem _ List.mem_cons_self, Settings.reads_int 30⟩

/-- In a namespace that does not hold the class `old` nothing is removed. -/
theorem classes_survive_iff_created :
    let o := planChange replacement fun _ => none
    ∃ v, o.result.1.1 = .ok v ∧ ∃ m n, Settings.mergeFor (.mapping (asking replacement)) unforced
        spaces = .ok (.mapping m) ∧ v = .mapping n ∧
      (∀ c i, ClassIn m c i → i ≠ Settings.unset →
        (ClassAt n c i ↔ ∀ e ∈ o.events, ¬ IsRemoval e)) ∧
      ((∃ e ∈ o.events, IsRemoval e) → ∃ c, ClassIn m c Settings.unset) := by
  intro o
  have hok : o.result.1.1.isOk := by decide +kernel
  cases hresult : o.result.1.1 with
  | error f => rw [hresult] at hok; cases hok
  | ok v => exact ⟨v, rfl, classes_survive_iff _ _ bare .start _ _ _ _ _ hresult⟩

/-- Whether parameters were given back without the setting of the classes. -/
def lacksClasses : Except Fault Value → Bool
  | .ok (.mapping n) => (Mapping.get n Settings.retention).isNone
  | _ => false

theorem lacksClasses_iff {r : Except Fault Value} :
    lacksClasses r ↔ ∃ n, r = .ok (.mapping n) ∧ Mapping.get n Settings.retention = none := by
  constructor
  · intro h
    unfold lacksClasses at h
    split at h
    · exact ⟨_, rfl, Option.isNone_iff_eq_none.1 h⟩
    · cases h
  · rintro ⟨n, rfl, hn⟩
    exact Option.isNone_iff_eq_none.2 hn

/-- **A class is lost by the removal of another one**: the class `old` is there and is removed, the
class `new` is created, and what is given back holds neither. -/
theorem class_lost_by_removal :
    let o := planChange replacement fun name => if name = "old" then some (.int 7) else none
    Settings.mergeFor (.mapping (asking replacement)) unforced spaces =
        .ok (.mapping (asking replacement)) ∧
      ClassIn (asking replacement) "new" 30 ∧ (30 : Int) ≠ Settings.unset ∧
      (o.state "new").isSome ∧
      ∃ n, o.result.1.1 = .ok (.mapping n) ∧ ¬ ClassAt n "new" 30 := by
  intro o
  have hrun : (o.state "new").isSome ∧ lacksClasses o.result.1.1 := by decide +kernel
  obtain ⟨n, hresult, hnone⟩ := lacksClasses_iff.1 hrun.2
  refine ⟨mergeFor_asking _, classIn_replacement, by decide, hrun.1, n, hresult, ?_⟩
  rintro ⟨cs, hcs, _⟩
  rw [hnone] at hcs
  cases hcs

end Broker

end StorageBroker
