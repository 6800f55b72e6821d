import StorageBroker.Proofs.Management.Resources
/-!
# Stopping at a failure

Most of what is done with the management API is a row of calls. The first one that fails ends it;
the only failures that count as answers are those of the probes, which ask whether something exists.

* `IsProbe` -- the calls that ask whether something exists;
* `FailStop` -- behind a call that failed comes nothing more, and its failure is that of the whole;
* `FailStop.bind`, `FailStop.wrapped` -- kept by rows of actions and by reporting;
* `Wrapped` -- an action that fails only as the broker reports failures.
-/

namespace StorageBroker.Management

variable {σ α β : Type} {P : Call → Prop}

/-- **The calls that ask whether something exists**: a bucket, a user, a namespace or a retention
class. The answer to none of them has to be a document. -/
inductive IsProbe : Call → Prop where
  | bucket {name ns : Value} {c : Call} (h : Filled Bucket.info [name]
      (fun p => { path := p, params := Bucket.inNamespace ns }) c) : IsProbe c
  | user {name ns : Value} {c : Call} (h : Filled User.info [name]
      (fun p => { path := p, params := [(.text "namespace", ns)] }) c) : IsProbe c
  | ofNamespace {name : Value} {c : Call} (h : Filled Namespace.self [name]
      (fun p => { path := p }) c) : IsProbe c
  | retentionClass {ns name : Value} {c : Call} (h : Filled Namespace.retentionClass [ns, name]
      (fun p => { path := p }) c) : IsProbe c

/-- A probe reads. -/
theorem IsProbe.method {c : Call} (h : IsProbe c) : c.method = "GET" ∧ c.parse = false := by
  cases h with
  | bucket h => obtain ⟨p, _, rfl⟩ := h; exact ⟨rfl, rfl⟩
  | user h => obtain ⟨p, _, rfl⟩ := h; exact ⟨rfl, rfl⟩
  | ofNamespace h => obtain ⟨p, _, rfl⟩ := h; exact ⟨rfl, rfl⟩
  | retentionClass h => obtain ⟨p, _, rfl⟩ := h; exact ⟨rfl, rfl⟩

/-- A failure that a probe takes as an answer. -/
def Absorbed (c : Call) (f : Fault) : Prop := IsProbe c ∧ f.isAbsence

/-- **An action that stops at a failure**: a call that failed is the last event, and the action
fails with a fault that is reported as that of the call. -/
def FailStop (x : Calls σ α) : Prop :=
  ∀ s es r s', x.Course s es r s' → ∀ before c f after,
    es = before ++ called c (.error f) :: after → ¬ Absorbed c f →
      after = [] ∧ ∃ f', r = .error f' ∧ f'.wrap = f.wrap

/-! ## 1. Single calls -/

theorem Quiet.failStop {x : Calls σ α} (h : Quiet x) : FailStop x := by
  intro s es r s' hcourse before c f after hes
  obtain ⟨rfl, rfl⟩ := h _ _ _ _ hcourse
  simp at hes

/-- An event that is the only one has nothing behind it. -/
theorem eq_of_singleton_eq {e e' : Dialogue.Event Remote}
    {before after : List (Dialogue.Event Remote)}
    (h : [e] = before ++ e' :: after) : after = [] ∧ e' = e := by
  obtain ⟨_, h⟩ | ⟨_, h⟩ := List.singleton_eq_append_iff.1 h
  · cases h
    exact ⟨rfl, rfl⟩
  · cases h

theorem called_injective {c c' : Call} {a a' : Except Fault Response}
    (h : called c a = called c' a') : c = c' ∧ a = a' := by
  unfold called at h
  cases h
  exact ⟨rfl, rfl⟩

theorem Makes.failStop {x : Calls σ α} (h : Makes P Fails x) : FailStop x := by
  intro s es r s' hcourse before c f after hes _
  obtain ⟨rfl, ⟨rfl, _⟩ | ⟨c', a, hc, rfl, ha⟩⟩ := h _ _ _ _ hcourse
  · simp at hes
  · obtain ⟨rfl, heq⟩ := eq_of_singleton_eq hes
    obtain ⟨rfl, rfl⟩ := called_injective heq
    exact ⟨rfl, f, ha f rfl, rfl⟩

/-- A probe stops at a failure that is no answer. -/
theorem Makes.failStop_of_probed {x : Calls σ Bool} (h : Makes P Probed x)
    (hP : ∀ c, P c → IsProbe c) : FailStop x := by
  intro s es r s' hcourse before c f after hes habsorbed
  obtain ⟨rfl, ⟨rfl, _⟩ | ⟨c', a, hc, rfl, ha⟩⟩ := h _ _ _ _ hcourse
  · simp at hes
  · obtain ⟨rfl, heq⟩ := eq_of_singleton_eq hes
    obtain ⟨rfl, rfl⟩ := called_injective heq
    obtain ⟨x, hx, _⟩ | ⟨g, hg, habsent, _⟩ | ⟨g, hg, _, rfl⟩ := ha
    · cases hx
    · cases hg
      exact absurd ⟨hP c hc, habsent⟩ habsorbed
    · cases hg
      exact ⟨rfl, f, rfl, rfl⟩

/-! ## 2. Rows of actions -/

theorem failStop_pure {a : α} : FailStop (pure a : Calls σ α) := quiet_pure.failStop

theorem failStop_throw {f : Fault} : FailStop (throw f : Calls σ α) := by
  intro s es r s' h before c g after hes
  obtain ⟨rfl, _, _⟩ := Action.course_throw.1 h
  simp at hes

theorem failStop_modify {f : σ → σ} : FailStop (modify f : Calls σ PUnit) := by
  intro s es r s' h before c g after hes
  obtain ⟨rfl, _, _⟩ := Action.course_modify.1 h
  simp at hes

theorem FailStop.lift_bind {x : Except Malformed β} {f : β → Calls σ α}
    (hf : ∀ b, FailStop (f b)) : FailStop (liftM x >>= f) := by
  intro s es r s' h before c g after hes
  rw [Action.course_lift_malformed_bind] at h
  obtain ⟨m, _, rfl, _, _⟩ | ⟨b, _, h⟩ := h
  · simp at hes
  · exact hf b _ _ _ _ h _ _ _ _ hes

theorem FailStop.get_bind {f : σ → Calls σ α} (hf : ∀ s, FailStop (f s)) :
    FailStop (get >>= f) := fun s _ _ _ h => hf s _ _ _ _ (Action.course_get_bind.1 h)

/-- An event of two lists in a row stands in the first one or in the second one. -/
theorem split_append {e : Dialogue.Event Remote}
    {es₁ es₂ before after : List (Dialogue.Event Remote)}
    (h : es₁ ++ es₂ = before ++ e :: after) :
    (∃ rest, es₁ = before ++ e :: rest ∧ after = rest ++ es₂) ∨
      ∃ front, before = es₁ ++ front ∧ es₂ = front ++ e :: after := by
  obtain ⟨front, hbefore, hes₂⟩ | ⟨rest, hes₁, hrest⟩ := List.append_eq_append_iff.1 h
  · exact .inr ⟨front, hbefore, hes₂⟩
  · obtain ⟨hnil, hes₂⟩ | ⟨rest', hcons, hafter⟩ := List.cons_eq_append_iff.1 hrest
    · exact .inr ⟨[], by simp [hes₁, hnil], hes₂⟩
    · exact .inl ⟨rest', by rw [hes₁, hcons], hafter⟩

/-- **A row of two actions that stop at a failure stops at one**: after a call of the first that
failed the second one is not begun. -/
theorem FailStop.bind {x : Calls σ β} {f : β → Calls σ α} (hx : FailStop x)
    (hf : ∀ b, FailStop (f b)) : FailStop (x >>= f) := by
  intro s es r s' h before c g after hes habsorbed
  rw [Action.course_bind] at h
  obtain ⟨e, hfirst, rfl⟩ | ⟨es₁, b, s₁, es₂, hfirst, hnext, rfl⟩ := h
  · obtain ⟨rfl, f', hf', hwrap⟩ := hx _ _ _ _ hfirst _ _ _ _ hes habsorbed
    cases hf'
    exact ⟨rfl, _, rfl, hwrap⟩
  · obtain ⟨rest, hes₁, _⟩ | ⟨front, _, hes₂⟩ := split_append hes
    · obtain ⟨_, f', hf', _⟩ := hx _ _ _ _ hfirst _ _ _ _ hes₁ habsorbed
      cases hf'
    · exact hf b _ _ _ _ hnext _ _ _ _ hes₂ habsorbed

/-- What stands behind a failure is not begun. -/
theorem failStop_throw_bind {f : Fault} {k : β → Calls σ α} :
    FailStop (throw f >>= k : Calls σ α) := by
  intro s es r s' h before c g after hes
  rw [Action.course_bind] at h
  obtain ⟨e, hthrow, _⟩ | ⟨_, _, _, _, hthrow, _, _⟩ := h
  · obtain ⟨rfl, _, _⟩ := Action.course_throw.1 hthrow
    simp at hes
  · obtain ⟨_, hok, _⟩ := Action.course_throw.1 hthrow
    cases hok

/-- Reporting a failure twice is reporting it once. -/
theorem FailStop.wrapped {x : Calls σ α} (hx : FailStop x) : FailStop (x.mapFault Fault.wrap) := by
  intro s es r s' h before c g after hes habsorbed
  obtain ⟨r', hinner, rfl⟩ := Action.course_mapFault.1 h
  obtain ⟨rfl, f', rfl, hwrap⟩ := hx _ _ _ _ hinner _ _ _ _ hes habsorbed
  exact ⟨rfl, f'.wrap, rfl, by rw [Fault.wrap_wrap, hwrap]⟩

/-! ## 3. Failures as the broker reports them -/

/-- An action that fails only as the broker reports failures. -/
def Wrapped (x : Calls σ α) : Prop :=
  ∀ s es f s', x.Course s es (.error f) s' → f.wrap = f

theorem wrapped_mapFault {x : Calls σ α} : Wrapped (x.mapFault Fault.wrap) := by
  intro s es f s' h
  obtain ⟨r, _, hr⟩ := Action.course_mapFault.1 h
  obtain ⟨g, _, rfl⟩ := mapError_eq_error.1 hr.symm
  exact Fault.wrap_wrap g

theorem Wrapped.modify_bind {g : σ → σ} {x : Calls σ α} (hx : Wrapped x) :
    Wrapped (modify g >>= fun _ => x) :=
  fun _ _ _ _ h => hx _ _ _ _ (Action.course_modify_bind.1 h)

end StorageBroker.Management
