import StorageBroker.Proofs.Management
/-!
# Calls in order

What changes a resource is a row of calls. Each of them is made once the ones before it have been
accepted, and the first one that is refused ends the row.

* `Tried` -- the events that come of calls tried in order, and what they end in;
* `Performs` -- an action that tries given calls in order, and gives a value behind the last one;
* `Performs.bind` -- two such actions in a row try the calls of both;
* `changes` -- the calls among some events that do more than read.
-/

namespace StorageBroker.Management

variable {σ α β : Type} {s s' : σ} {es : List (Dialogue.Event Remote)}

/-! ## 1. Events of calls in order -/

/-- **Calls tried in order**: either all of them are made and accepted, or those up to the first
one that is refused, whose failure is that of the whole. -/
inductive Tried : List Call → List (Dialogue.Event Remote) → Except Fault Unit → Prop where
  | done : Tried [] [] (.ok ())
  | accepted {c : Call} {cs : List Call} {x : Response} {es : List (Dialogue.Event Remote)}
      {u : Except Fault Unit} (h : Tried cs es u) : Tried (c :: cs) (called c (.ok x) :: es) u
  | refused {c : Call} {cs : List Call} {f : Fault} :
      Tried (c :: cs) [called c (.error f)] (.error f)

variable {cs ds : List Call} {u : Except Fault Unit}

/-- Calls that were all accepted are followed by the next ones. -/
theorem Tried.append {fs : List (Dialogue.Event Remote)} (h : Tried cs es (.ok ()))
    (h' : Tried ds fs u) : Tried (cs ++ ds) (es ++ fs) u := by
  generalize hu : Except.ok () = v at h
  induction h with
  | done => exact h'
  | accepted _ ih => exact .accepted (ih hu)
  | refused => cases hu

/-- Behind a refused call nothing is tried. -/
theorem Tried.append_refused {f : Fault} (h : Tried cs es (.error f)) (ds : List Call) :
    Tried (cs ++ ds) es (.error f) := by
  generalize hu : Except.error f = v at h ⊢
  induction h with
  | done => cases hu
  | accepted _ ih => exact .accepted (ih hu)
  | refused => exact .refused

/-- One call is made, whatever its answer is. -/
theorem Tried.single {c : Call} (h : Tried [c] es u) :
    ∃ a, es = [called c a] ∧ u = a.map fun _ => () := by
  cases h with
  | accepted h =>
    cases h
    exact ⟨.ok _, rfl, rfl⟩
  | refused => exact ⟨.error _, rfl, rfl⟩

/-- What has been called is one of the calls that were to be tried. -/
theorem Tried.mem {c : Call} {a : Except Fault Response} (h : Tried cs es u)
    (hmem : called c a ∈ es) : c ∈ cs := by
  induction h with
  | done => cases hmem
  | accepted _ ih =>
    rcases List.mem_cons.1 hmem with heq | hmem
    · cases heq
      exact List.mem_cons_self
    · exact List.mem_cons_of_mem _ (ih hmem)
  | refused =>
    cases List.mem_singleton.1 hmem
    exact List.mem_cons_self

/-! ## 2. Actions that try calls in order -/

/-- **An action that tries calls in order** and, if none is refused, gives a value. -/
def Performs (cs : List Call) (a : α) (x : Calls σ α) : Prop :=
  ∀ s es r s', x.Course s es r s' → ∃ u, Tried cs es u ∧ r = u.map fun _ => a

variable {a : α} {b : β}

theorem performs_pure : Performs [] a (pure a : Calls σ α) := by
  intro s es r s' h
  obtain ⟨rfl, rfl, _⟩ := Action.course_pure.1 h
  exact ⟨.ok (), .done, rfl⟩

theorem performs_perform {c : Call} : Performs [c] () (perform c : Calls σ Unit) := by
  intro s es r s' h
  obtain ⟨x, rfl, rfl, _⟩ := course_perform.1 h
  cases x with
  | ok x => exact ⟨.ok (), .accepted .done, rfl⟩
  | error f => exact ⟨.error f, .refused, rfl⟩

theorem Performs.bind {x : Calls σ β} {f : β → Calls σ α} (hx : Performs cs b x)
    (hf : Performs ds a (f b)) : Performs (cs ++ ds) a (x >>= f) := by
  intro s es r s' h
  obtain ⟨e, hfirst, rfl⟩ | ⟨es₁, b', s₁, es₂, hfirst, hnext, rfl⟩ := Action.course_bind.1 h
  · obtain ⟨u | u, htried, hu⟩ := hx _ _ _ _ hfirst
    · cases hu
      exact ⟨_, htried.append_refused ds, rfl⟩
    · cases hu
  · obtain ⟨u | u, htried, hu⟩ := hx _ _ _ _ hfirst
    · cases hu
    · cases hu
      obtain ⟨v, htried', rfl⟩ := hf _ _ _ _ hnext
      exact ⟨v, htried.append htried', rfl⟩

/-- Giving a value back needs no call. -/
theorem Performs.andReturn {x : Calls σ β} (hx : Performs cs b x) :
    Performs cs a (x >>= fun _ => pure a) := by
  have h : Performs (cs ++ []) a (x >>= fun _ => pure a) := hx.bind performs_pure
  rwa [List.append_nil] at h

theorem Performs.lift_bind {x : Except Malformed β} {f : β → Calls σ α} (hx : x = .ok b)
    (hf : Performs cs a (f b)) : Performs cs a (liftM x >>= f) := by
  subst hx
  exact fun s es r s' h => hf s es r s' h

theorem Performs.modify_bind {g : σ → σ} {f : PUnit → Calls σ α} (hf : Performs cs a (f ())) :
    Performs cs a (modify g >>= f) :=
  fun _ _ _ _ h => hf _ _ _ _ (Action.course_modify_bind.1 h)

theorem performs_path {t : Text.Template} {args : List Value} {p : String}
    {k : Value → Call} (hp : t.fill args = .ok p) :
    Performs [k (.text p)] () (path t args >>= fun p => perform (k p) : Calls σ Unit) := by
  intro s es r s' h
  obtain ⟨m, hm, _⟩ | ⟨p', hp', h⟩ := course_path_bind.1 h
  · rw [hp] at hm
    cases hm
  · rw [hp] at hp'
    cases hp'
    exact performs_perform _ _ _ _ h

theorem performs_written {t : Text.Template} {args : List Value} {v body : Value} {p : String}
    {k : Value → Value → Call} (hp : t.fill args = .ok p) (hbody : bodyOf v = .ok body) :
    Performs [k (.text p) body] ()
      (path t args >>= fun p => liftM (bodyOf v) >>= fun body => perform (k p body) :
        Calls σ Unit) := by
  intro s es r s' h
  obtain ⟨m, hm, _⟩ | ⟨p', hp', h⟩ := course_path_bind.1 h
  · rw [hp] at hm
    cases hm
  · rw [hp] at hp'
    cases hp'
    exact Performs.lift_bind hbody performs_perform _ _ _ _ h

/-- What stands behind a failure is not begun. -/
theorem course_throw_bind {f : Fault} {k : β → Calls σ α} {r : Except Fault α}
    (h : (throw f >>= k : Calls σ α).Course s es r s') : es = [] ∧ r = .error f := by
  obtain ⟨e, hthrow, rfl⟩ | ⟨_, _, _, _, hthrow, _⟩ := Action.course_bind.1 h
  · obtain ⟨rfl, he, _⟩ := Action.course_throw.1 hthrow
    cases he
    exact ⟨rfl, rfl⟩
  · cases (Action.course_throw.1 hthrow).2.1

/-! ## 3. Changes -/

/-- **The calls among events that do more than read**, in order. -/
def changes (es : List (Dialogue.Event Remote)) : List Call :=
  es.filterMap fun e => match e.question with
    | .call c => if c.isReading then none else some c
    | .storage _ => none

theorem changes_called {c : Call} {x : Except Fault Response} :
    changes (called c x :: es) = if c.isReading then changes es else c :: changes es := by
  unfold changes called
  rw [List.filterMap_cons]
  cases hc : c.isReading <;> simp [hc]

/-- **Of calls that were all accepted** each one is among the changes. -/
theorem Tried.changes (h : Tried cs es (.ok ())) (hcs : ∀ c ∈ cs, c.isReading = false) :
    changes es = cs := by
  generalize hu : Except.ok () = v at h
  induction h with
  | done => rfl
  | accepted _ ih =>
    obtain ⟨hc, hcs⟩ := List.forall_mem_cons.1 hcs
    rw [changes_called, hc, ih hcs hu]
    rfl
  | refused => cases hu

/-- Where every change is accepted, calls that are changes are all accepted. -/
theorem Tried.ok (h : Tried cs es u) (hcs : ∀ c ∈ cs, c.isReading = false)
    (hall : ∀ c x, called c x ∈ es → c.isReading = false → x.isOk) : u = .ok () := by
  induction h with
  | done => rfl
  | accepted _ ih =>
    exact ih (List.forall_mem_cons.1 hcs).2 fun c x hx => hall c x (List.mem_cons_of_mem _ hx)
  | refused =>
    cases hall _ _ List.mem_cons_self (List.forall_mem_cons.1 hcs).1

/-! ## 4. A storage without the resource -/

/-- Whether an event is a look-up that has found nothing. -/
def isMissing (e : Dialogue.Event Remote) : Bool :=
  match e with
  | ⟨.call c, .error f⟩ => c.isReading && f.isAbsence
  | _ => false

/-- Whether an event is one of a storage on which nothing exists and every change is accepted. -/
def isFresh (e : Dialogue.Event Remote) : Bool :=
  match e with
  | ⟨.call c, .ok _⟩ => !c.isReading
  | e => isMissing e

theorem missing_of_isMissing {e : Dialogue.Event Remote} (h : isMissing e) :
    ∃ c f, e = called c (.error f) ∧ c.isReading ∧ f.isAbsence := by
  obtain ⟨_ | q, x⟩ := e
  next c =>
    cases x with
    | ok x => cases h
    | error f =>
      have hc : (c.isReading && f.isAbsence) = true := h
      rw [Bool.and_eq_true] at hc
      exact ⟨c, f, rfl, hc.1, hc.2⟩
  next => cases h

/-- Calls whose first one is a look-up that has found nothing. -/
theorem missing_of_head {es : List (Dialogue.Event Remote)} (h : es.head?.any isMissing) :
    ∃ c f rest, es = called c (.error f) :: rest ∧ f.isAbsence := by
  cases es with
  | nil => cases h
  | cons e rest =>
    obtain ⟨c, f, rfl, _, hf⟩ := missing_of_isMissing h
    exact ⟨c, f, rest, rfl, hf⟩

/-- A change is accepted by a storage on which nothing exists. -/
theorem ok_of_isFresh {c : Call} {x : Except Fault Response} (h : isFresh (called c x))
    (hc : c.isReading = false) : x.isOk := by
  cases x with
  | ok x => rfl
  | error f =>
    have hmissing : (c.isReading && f.isAbsence) = true := h
    rw [hc] at hmissing
    cases hmissing

/-- A look-up finds nothing on such a storage. -/
theorem absent_of_isFresh {c : Call} {x : Except Fault Response} (h : isFresh (called c x))
    (hc : c.isReading) : ∃ f, x = .error f ∧ f.isAbsence := by
  cases x with
  | ok x =>
    have hchange : (!c.isReading) = true := h
    rw [hc] at hchange
    cases hchange
  | error f =>
    have hmissing : (c.isReading && f.isAbsence) = true := h
    rw [hc] at hmissing
    exact ⟨f, rfl, hmissing⟩

end StorageBroker.Management
