import StorageBroker.Proofs.Course
import StorageBroker.Proofs.Outcome
import StorageBroker.Management
/-!
# Single calls

Everything that the management API is used for comes down to single calls: data is prepared, one
call is made, and its answer is read. Data that cannot be prepared leaves nothing behind, and a call
that fails ends the whole as it failed, except where it is asked whether something exists.

* `Makes` -- an action that makes one call;
* `Done`, `Fails`, `Probed` -- what becomes of the answer;
* `Makes.lift_bind`, `Makes.path_bind`, `Makes.bind_quiet` -- preparing and reading data;
* `Asks` -- an action all of whose calls are of a kind.
-/

namespace StorageBroker.Management

variable {σ α β : Type} {s s' : σ} {es : List (Dialogue.Event Remote)}

/-- The event of a call with its answer. -/
def called (c : Call) (a : Except Fault Response) : Dialogue.Event Remote := ⟨.call c, a⟩

/-! ## 1. One call -/

/-- **An action that makes one call** of a kind: it leaves the state alone, and comes to a result
that is fit for the answer, or fails before the call. -/
def Makes (P : Call → Prop) (R : Except Fault Response → Except Fault α → Prop) (x : Calls σ α) :
    Prop :=
  ∀ s es r s', x.Course s es r s' → s' = s ∧
    ((es = [] ∧ ∃ m, r = .error (.malformed m)) ∨ ∃ c a, P c ∧ es = [called c a] ∧ R a r)

/-- The answer counts only as a success or a failure. -/
def Done (a : Except Fault Response) (r : Except Fault Unit) : Prop := r = a.map fun _ => ()

/-- A failure of the call is one of the whole. -/
def Fails (a : Except Fault Response) (r : Except Fault α) : Prop :=
  ∀ f, a = .error f → r = .error f

/-- A failure that says that there is nothing is an answer. -/
def Probed (a : Except Fault Response) (r : Except Fault Bool) : Prop :=
  (∃ x, a = .ok x ∧ r = .ok true) ∨ (∃ f, a = .error f ∧ f.isAbsence ∧ r = .ok false) ∨
    ∃ f, a = .error f ∧ f.isAbsence = false ∧ r = .error f

/-- An action that makes no call. -/
def Quiet (x : Calls σ α) : Prop := ∀ s es r s', x.Course s es r s' → es = [] ∧ s' = s

variable {P P' : Call → Prop} {R R' : Except Fault Response → Except Fault α → Prop}

theorem Makes.mono {x : Calls σ α} (h : Makes P R x) (hP : ∀ c, P c → P' c)
    (hR : ∀ a r, R a r → R' a r) : Makes P' R' x := by
  intro s es r s' hcourse
  obtain ⟨rfl, hnone | ⟨c, a, hc, rfl, ha⟩⟩ := h _ _ _ _ hcourse
  · exact ⟨rfl, .inl hnone⟩
  · exact ⟨rfl, .inr ⟨c, a, hP c hc, rfl, hR a r ha⟩⟩

theorem Done.fails {a : Except Fault Response} {r : Except Fault Unit} (h : Done a r) :
    Fails a r := by
  rintro f rfl
  exact h

theorem Makes.fails {x : Calls σ Unit} (h : Makes P Done x) : Makes P Fails x :=
  h.mono (fun _ hc => hc) fun _ _ ha => ha.fails

/-! ## 2. Calls -/

theorem course_perform {c : Call} {r : Except Fault Unit} :
    (perform c : Calls σ Unit).Course s es r s' ↔
      ∃ a, es = [called c a] ∧ r = a.map (fun _ => ()) ∧ s' = s := by
  rw [perform, Action.course_bind]
  simp only [Remote.course_call, Action.course_pure]
  constructor
  · rintro (⟨f, ⟨rfl, rfl⟩, rfl⟩ | ⟨_, a, _, _, ⟨rfl, rfl⟩, ⟨rfl, rfl, rfl⟩, rfl⟩)
    · exact ⟨.error f, rfl, rfl, rfl⟩
    · exact ⟨.ok a, rfl, rfl, rfl⟩
  · rintro ⟨f | a, rfl, rfl, rfl⟩
    · exact .inl ⟨f, ⟨rfl, rfl⟩, rfl⟩
    · exact .inr ⟨_, a, _, [], ⟨rfl, rfl⟩, ⟨rfl, rfl, rfl⟩, rfl⟩

theorem makes_perform {c : Call} (hc : P c) : Makes P Done (perform c : Calls σ Unit) := by
  intro s es r s' h
  obtain ⟨a, rfl, rfl, rfl⟩ := course_perform.1 h
  exact ⟨rfl, .inr ⟨c, a, hc, rfl, rfl⟩⟩

theorem course_fetch {c : Call} {r : Except Fault Value} :
    (fetch c : Calls σ Value).Course s es r s' ↔
      ∃ a, es = [called { c with parse := true } a] ∧ r = a.map Response.document ∧ s' = s := by
  rw [fetch, Action.course_bind]
  simp only [Remote.course_call, Action.course_pure]
  constructor
  · rintro (⟨f, ⟨rfl, rfl⟩, rfl⟩ | ⟨_, a, _, _, ⟨rfl, rfl⟩, ⟨rfl, rfl, rfl⟩, rfl⟩)
    · exact ⟨.error f, rfl, rfl, rfl⟩
    · exact ⟨.ok a, rfl, rfl, rfl⟩
  · rintro ⟨f | a, rfl, rfl, rfl⟩
    · exact .inl ⟨f, ⟨rfl, rfl⟩, rfl⟩
    · exact .inr ⟨_, a, _, [], ⟨rfl, rfl⟩, ⟨rfl, rfl, rfl⟩, rfl⟩

theorem makes_fetch {c : Call} (hc : P { c with parse := true }) :
    Makes P Fails (fetch c : Calls σ Value) := by
  intro s es r s' h
  obtain ⟨a, rfl, rfl, rfl⟩ := course_fetch.1 h
  refine ⟨rfl, .inr ⟨_, a, hc, rfl, ?_⟩⟩
  rintro f rfl
  rfl

/-- Whether a resource exists is told by one call. -/
theorem course_existence {c : Call} {r : Except Fault Bool}
    (h : (existence c : Calls σ Bool).Course s es r s') :
    ∃ a, es = [called c a] ∧ Probed a r ∧ s' = s := by
  rw [existence, Action.course_bind] at h
  obtain ⟨f, hcall, _⟩ | ⟨_, a, _, es₂, hcall, h, rfl⟩ := h
  · obtain ⟨_, _, hf⟩ := Action.course_attempt.1 hcall
    cases hf
  obtain ⟨a', hcall, ha⟩ := Action.course_attempt.1 hcall
  cases ha
  obtain ⟨a, rfl, rfl, rfl⟩ := course_perform.1 hcall
  cases a with
  | ok x =>
    obtain ⟨rfl, rfl, rfl⟩ := Action.course_pure.1 h
    exact ⟨.ok x, rfl, .inl ⟨x, rfl, rfl⟩, rfl⟩
  | error f =>
    dsimp only [Except.map] at h
    split at h
    next habsent =>
      obtain ⟨rfl, rfl, rfl⟩ := Action.course_pure.1 h
      exact ⟨.error f, rfl, .inr (.inl ⟨f, rfl, habsent, rfl⟩), rfl⟩
    next habsent =>
      obtain ⟨rfl, rfl, rfl⟩ := Action.course_throw.1 h
      exact ⟨.error f, rfl, .inr (.inr ⟨f, rfl, Bool.eq_false_iff.2 habsent, rfl⟩), rfl⟩

theorem makes_existence {c : Call} (hc : P c) :
    Makes P Probed (existence c : Calls σ Bool) := by
  intro s es r s' h
  obtain ⟨a, rfl, hprobed, rfl⟩ := course_existence h
  exact ⟨rfl, .inr ⟨c, a, hc, rfl, hprobed⟩⟩

/-! ## 3. Data before and behind a call -/

theorem Makes.lift_bind {x : Except Malformed β} {f : β → Calls σ α}
    (hf : ∀ b, x = .ok b → Makes P R (f b)) : Makes P R (liftM x >>= f) := by
  intro s es r s' h
  rw [Action.course_lift_malformed_bind] at h
  obtain ⟨m, _, rfl, rfl, rfl⟩ | ⟨b, hb, h⟩ := h
  · exact ⟨rfl, .inl ⟨rfl, m, rfl⟩⟩
  · exact hf b hb _ _ _ _ h

theorem course_path_bind {t : Text.Template} {args : List Value} {f : Value → Calls σ β}
    {r : Except Fault β} :
    (path t args >>= f : Calls σ β).Course s es r s' ↔
      (∃ m, t.fill args = .error m ∧ es = [] ∧ r = .error (.malformed m) ∧ s' = s) ∨
        ∃ p, t.fill args = .ok p ∧ (f (.text p)).Course s es r s' := by
  rw [path, Action.course_bind]
  simp only [Action.course_lift_malformed_bind, Action.course_pure]
  constructor
  · rintro (⟨e, ⟨m, hm, rfl, he, rfl⟩ | ⟨p, _, _, he, _⟩, rfl⟩ |
      ⟨_, v, _, _, ⟨m, _, _, hv, _⟩ | ⟨p, hp, rfl, hv, rfl⟩, h, rfl⟩)
    · cases he
      exact .inl ⟨m, hm, rfl, rfl, rfl⟩
    · cases he
    · cases hv
    · cases hv
      exact .inr ⟨p, hp, h⟩
  · rintro (⟨m, hm, rfl, rfl, rfl⟩ | ⟨p, hp, h⟩)
    · exact .inl ⟨_, .inl ⟨m, hm, rfl, rfl, rfl⟩, rfl⟩
    · exact .inr ⟨[], _, s, es, .inr ⟨p, hp, rfl, rfl, rfl⟩, h, rfl⟩

theorem Makes.path_bind {t : Text.Template} {args : List Value} {f : Value → Calls σ α}
    (hf : ∀ p, t.fill args = .ok p → Makes P R (f (.text p))) : Makes P R (path t args >>= f) := by
  intro s es r s' h
  rw [course_path_bind] at h
  obtain ⟨m, _, rfl, rfl, rfl⟩ | ⟨p, hp, h⟩ := h
  · exact ⟨rfl, .inl ⟨rfl, m, rfl⟩⟩
  · exact hf p hp _ _ _ _ h

theorem quiet_pure {a : α} : Quiet (pure a : Calls σ α) := by
  intro s es r s' h
  obtain ⟨rfl, _, rfl⟩ := Action.course_pure.1 h
  exact ⟨rfl, rfl⟩

theorem quiet_lift {x : Except Malformed α} : Quiet (liftM x : Calls σ α) := by
  intro s es r s' h
  obtain ⟨rfl, _, rfl⟩ := Action.course_lift_malformed.1 h
  exact ⟨rfl, rfl⟩

theorem Quiet.lift_bind {x : Except Malformed β} {f : β → Calls σ α} (hf : ∀ b, Quiet (f b)) :
    Quiet (liftM x >>= f) := by
  intro s es r s' h
  rw [Action.course_lift_malformed_bind] at h
  obtain ⟨m, _, rfl, _, rfl⟩ | ⟨b, _, h⟩ := h
  · exact ⟨rfl, rfl⟩
  · exact hf b _ _ _ _ h

/-- **Reading an answer** adds nothing to the call. -/
theorem Makes.bind_quiet {x : Calls σ β} {f : β → Calls σ α} (hx : Makes P Fails x)
    (hf : ∀ b, Quiet (f b)) : Makes P Fails (x >>= f) := by
  intro s es r s' h
  rw [Action.course_bind] at h
  obtain ⟨e, hfirst, rfl⟩ | ⟨es₁, b, s₁, es₂, hfirst, h, rfl⟩ := h
  · obtain ⟨rfl, ⟨rfl, m, hm⟩ | ⟨c, a, hc, rfl, ha⟩⟩ := hx _ _ _ _ hfirst
    · cases hm
      exact ⟨rfl, .inl ⟨rfl, m, rfl⟩⟩
    · exact ⟨rfl, .inr ⟨c, a, hc, rfl, fun g hg => by cases ha g hg; rfl⟩⟩
  · obtain ⟨rfl, rfl⟩ := hf b _ _ _ _ h
    obtain ⟨rfl, ⟨rfl, m, hm⟩ | ⟨c, a, hc, rfl, ha⟩⟩ := hx _ _ _ _ hfirst
    · cases hm
    · exact ⟨rfl, .inr ⟨c, a, hc, rfl, fun g hg => by cases ha g hg⟩⟩

/-- A call whose document is only read is the one call that is made. -/
theorem course_fetch_bind {c : Call} {f : Value → Calls σ α} (hf : ∀ v, Quiet (f v))
    {r : Except Fault α} (h : (fetch c >>= f : Calls σ α).Course s es r s') :
    s' = s ∧ ∃ a, es = [called { c with parse := true } a] ∧ Fails a r := by
  obtain ⟨e, hfetch, rfl⟩ | ⟨es₁, v, s₁, es₂, hfetch, hread, rfl⟩ := Action.course_bind.1 h
  · obtain ⟨a, rfl, ha, rfl⟩ := course_fetch.1 hfetch
    refine ⟨rfl, a, rfl, ?_⟩
    rintro f rfl
    cases ha
    rfl
  · obtain ⟨a, rfl, ha, rfl⟩ := course_fetch.1 hfetch
    obtain ⟨rfl, rfl⟩ := hf v _ _ _ _ hread
    refine ⟨rfl, a, rfl, ?_⟩
    rintro f rfl
    cases ha

/-- The calls whose path is that of a template with its holes filled. -/
def Filled (t : Text.Template) (args : List Value) (k : Value → Call) (c : Call) : Prop :=
  ∃ p, t.fill args = .ok p ∧ c = k (.text p)

theorem makes_perform_path {t : Text.Template} {args : List Value} {k : Value → Call} :
    Makes (Filled t args k) Done (path t args >>= fun p => perform (k p) : Calls σ Unit) :=
  .path_bind fun p hp => makes_perform ⟨p, hp, rfl⟩

theorem makes_existence_path {t : Text.Template} {args : List Value} {k : Value → Call} :
    Makes (Filled t args k) Probed (path t args >>= fun p => existence (k p) : Calls σ Bool) :=
  .path_bind fun p hp => makes_existence ⟨p, hp, rfl⟩

theorem makes_fetch_path {t : Text.Template} {args : List Value} {k : Value → Call}
    {f : Value → Calls σ α} (hf : ∀ v, Quiet (f v)) :
    Makes (Filled t args fun p => { k p with parse := true }) Fails
      (path t args >>= fun p => fetch (k p) >>= f) :=
  .path_bind fun p hp => (makes_fetch ⟨p, hp, rfl⟩).bind_quiet hf

/-- The calls with a filled path and the data of a record for a body. -/
def Written (t : Text.Template) (args : List Value) (v : Value) (k : Value → Value → Call)
    (c : Call) : Prop :=
  ∃ p body, t.fill args = .ok p ∧ bodyOf v = .ok body ∧ c = k (.text p) body

theorem makes_written {t : Text.Template} {args : List Value} {v : Value}
    {k : Value → Value → Call} :
    Makes (Written t args v k) Done
      (path t args >>= fun p => liftM (bodyOf v) >>= fun body => perform (k p body) :
        Calls σ Unit) :=
  .path_bind fun p hp => .lift_bind fun body hbody => makes_perform ⟨p, body, hp, hbody, rfl⟩

/-! ## 4. Many calls -/

/-- **An action that asks for nothing but calls of a kind.** -/
def Asks (P : Call → Prop) (x : Calls σ α) : Prop :=
  ∀ s es r s', x.Course s es r s' → ∀ e ∈ es, ∃ c a, e = called c a ∧ P c

theorem Makes.asks {x : Calls σ α} (h : Makes P R x) : Asks P x := by
  intro s es r s' hcourse e he
  obtain ⟨_, ⟨rfl, _⟩ | ⟨c, a, hc, rfl, _⟩⟩ := h _ _ _ _ hcourse
  · cases he
  · exact ⟨c, a, List.mem_singleton.1 he, hc⟩

theorem Asks.mono {x : Calls σ α} (h : Asks P x) (hP : ∀ c, P c → P' c) : Asks P' x := by
  intro s es r s' hcourse e he
  obtain ⟨c, a, rfl, hc⟩ := h _ _ _ _ hcourse e he
  exact ⟨c, a, rfl, hP c hc⟩

/-- What makes no call asks for nothing. -/
theorem asks_of_nil {x : Calls σ α} (h : ∀ s es r s', x.Course s es r s' → es = []) : Asks P x := by
  intro s es r s' hcourse e he
  rw [h _ _ _ _ hcourse] at he
  cases he

theorem asks_pure {a : α} : Asks P (pure a : Calls σ α) :=
  asks_of_nil fun _ _ _ _ h => (Action.course_pure.1 h).1

theorem asks_throw {f : Fault} : Asks P (throw f : Calls σ α) :=
  asks_of_nil fun _ _ _ _ h => (Action.course_throw.1 h).1

theorem asks_throw_bind {f : Fault} {k : β → Calls σ α} : Asks P (throw f >>= k : Calls σ α) := by
  refine asks_of_nil fun s es r s' h => ?_
  obtain ⟨e, hthrow, _⟩ | ⟨_, _, _, _, hthrow, _, _⟩ := Action.course_bind.1 h
  · exact (Action.course_throw.1 hthrow).1
  · cases (Action.course_throw.1 hthrow).2.1

theorem asks_modify {f : σ → σ} : Asks P (modify f : Calls σ PUnit) :=
  asks_of_nil fun _ _ _ _ h => (Action.course_modify.1 h).1

theorem Asks.bind {x : Calls σ β} {f : β → Calls σ α} (hx : Asks P x) (hf : ∀ b, Asks P (f b)) :
    Asks P (x >>= f) := by
  intro s es r s' h e he
  obtain ⟨_, hfirst, _⟩ | ⟨es₁, b, s₁, es₂, hfirst, hnext, rfl⟩ := Action.course_bind.1 h
  · exact hx _ _ _ _ hfirst e he
  · exact (List.mem_append.1 he).elim (hx _ _ _ _ hfirst e) (hf b _ _ _ _ hnext e)

theorem Asks.lift_bind {x : Except Malformed β} {f : β → Calls σ α}
    (hf : ∀ b, x = .ok b → Asks P (f b)) : Asks P (liftM x >>= f) := by
  intro s es r s' h e he
  obtain ⟨m, _, rfl, _, _⟩ | ⟨b, hb, h⟩ := Action.course_lift_malformed_bind.1 h
  · cases he
  · exact hf b hb _ _ _ _ h e he

theorem Asks.get_bind {f : σ → Calls σ α} (hf : ∀ s, Asks P (f s)) : Asks P (get >>= f) :=
  fun s _ _ _ h => hf s _ _ _ _ (Action.course_get_bind.1 h)

theorem Asks.mapFault {x : Calls σ α} {g : Fault → Fault} (hx : Asks P x) :
    Asks P (x.mapFault g) := by
  intro s es r s' h
  obtain ⟨r', h, _⟩ := Action.course_mapFault.1 h
  exact hx _ _ _ _ h

end StorageBroker.Management
