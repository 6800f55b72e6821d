import StorageBroker.Action
import StorageBroker.Remote
/-!
# Courses

A course of a dialogue is one way in which it can go: the questions that it asks with an answer to
each, in order, up to its end. What holds on every course holds in every world, whatever the world
remembers, so statements about all answers are proved on courses and read off for worlds.

* `course_run` -- what a world makes of a dialogue is one of its courses;
* `Dialogue.course_bind` -- a course of two dialogues in a row is a course of each, one behind the
  other;
* `Action.course_bind` -- the same for actions: the second one has no part in the course if the
  first one fails.
-/

namespace StorageBroker

/-! ## 1. Dialogues -/

namespace Dialogue

variable {S T : Signature} {α β : Type}

/-- **A course of a dialogue**: events that it can go through, and what it ends in after them. -/
inductive Course : Dialogue S α → List (Event S) → α → Prop where
  | done (a : α) : Course (.done a) [] a
  | ask {q : S.Question} {next : S.Answer q → Dialogue S α} {x : S.Answer q}
      {es : List (Event S)} {a : α} (h : Course (next x) es a) :
      Course (.ask q next) (⟨q, x⟩ :: es) a

variable {d : Dialogue S α} {es : List (Event S)} {a : α} {b : β}

theorem course_done {c : α} : Course (.done c) es a ↔ es = [] ∧ a = c := by
  constructor
  · rintro ⟨⟩
    exact ⟨rfl, rfl⟩
  · rintro ⟨rfl, rfl⟩
    exact .done _

theorem course_ask {q : S.Question} {next : S.Answer q → Dialogue S α} :
    Course (.ask q next) es a ↔ ∃ x rest, es = ⟨q, x⟩ :: rest ∧ Course (next x) rest a := by
  constructor
  · intro h
    cases h with
    | ask h => exact ⟨_, _, rfl, h⟩
  · rintro ⟨x, rest, rfl, h⟩
    exact .ask h

theorem course_question {q : S.Question} {x : S.Answer q} :
    Course (question q) es x ↔ es = [⟨q, x⟩] := by
  simp only [question, course_ask, course_done]
  constructor
  · rintro ⟨y, rest, rfl, rfl, rfl⟩
    rfl
  · rintro rfl
    exact ⟨x, [], rfl, rfl, rfl⟩

theorem Course.bind {f : α → Dialogue S β} {es₁ es₂ : List (Event S)} (h₁ : Course d es₁ a)
    (h₂ : Course (f a) es₂ b) : Course (d >>= f) (es₁ ++ es₂) b := by
  induction h₁ with
  | done a => exact h₂
  | ask _ ih => exact .ask (ih h₂)

/-- **A course of two dialogues in a row** is a course of the first and then one of the second. -/
theorem course_bind {f : α → Dialogue S β} :
    Course (d >>= f) es b ↔
      ∃ es₁ a es₂, Course d es₁ a ∧ Course (f a) es₂ b ∧ es = es₁ ++ es₂ := by
  constructor
  · intro h
    induction d generalizing es with
    | done a => exact ⟨[], a, es, .done a, h, rfl⟩
    | ask q next ih =>
      rw [ask_bind, course_ask] at h
      obtain ⟨x, rest, rfl, h⟩ := h
      obtain ⟨es₁, a, es₂, h₁, h₂, rfl⟩ := ih x h
      exact ⟨⟨q, x⟩ :: es₁, a, es₂, .ask h₁, h₂, rfl⟩
  · rintro ⟨es₁, a, es₂, h₁, h₂, rfl⟩
    exact h₁.bind h₂

/-- **What a world makes of a dialogue is one of its courses.** -/
theorem course_run {σ : Type} (w : World S σ) (d : Dialogue S α) (s : σ) :
    Course d (run w d s).events (run w d s).result := by
  induction d generalizing s with
  | done a => exact .done a
  | ask q next ih => exact .ask (ih _ _)

/-- Every answer in a run is one that the world gives. -/
theorem answer_of_mem_run {σ : Type} {w : World S σ} {d : Dialogue S α} {s : σ} {e : Event S}
    (he : e ∈ (run w d s).events) : ∃ s', e.answer = (w.answer e.question s').1 := by
  induction d generalizing s with
  | done a => exact absurd he List.not_mem_nil
  | ask q next ih =>
    rcases List.mem_cons.1 he with rfl | he
    · exact ⟨s, rfl⟩
    · exact ih _ he

end Dialogue

/-! ## 2. Actions -/

namespace Action

variable {S : Signature} {σ τ α β : Type}

/-- **A course of an action** from a state: its events, how it ends, and the state it leaves. -/
def Course (x : Action S σ α) (s : σ) (es : List (Dialogue.Event S)) (r : Except Fault α)
    (s' : σ) : Prop :=
  Dialogue.Course (x.run s) es (r, s')

variable {s s' : σ} {es : List (Dialogue.Event S)} {r : Except Fault α}

theorem course_iff {x : Action S σ α} {p : Except Fault α × σ} :
    Dialogue.Course (x.run s) es p ↔ x.Course s es p.1 p.2 := Iff.rfl

theorem course_pure {a : α} :
    (pure a : Action S σ α).Course s es r s' ↔ es = [] ∧ r = .ok a ∧ s' = s := by
  rw [Course, pure_run, Dialogue.course_done, Prod.mk.injEq]

theorem course_throw {f : Fault} :
    (throw f : Action S σ α).Course s es r s' ↔ es = [] ∧ r = .error f ∧ s' = s := by
  show Dialogue.Course (.done (.error f, s)) es (r, s') ↔ _
  rw [Dialogue.course_done, Prod.mk.injEq]

/-- **A course of two actions in a row**: the first one fails and ends it, or succeeds and is
followed by the second. -/
theorem course_bind {x : Action S σ α} {f : α → Action S σ β} {r : Except Fault β} :
    (x >>= f).Course s es r s' ↔
      (∃ e, x.Course s es (.error e) s' ∧ r = .error e) ∨
      ∃ es₁ a s₁ es₂, x.Course s es₁ (.ok a) s₁ ∧ (f a).Course s₁ es₂ r s' ∧ es = es₁ ++ es₂ := by
  simp only [Course, bind_run, Dialogue.course_bind]
  constructor
  · rintro ⟨es₁, ⟨a | a, s₁⟩, es₂, h₁, h₂, rfl⟩
    · obtain ⟨rfl, h⟩ := Dialogue.course_done.1 h₂
      cases h
      exact .inl ⟨a, by simpa using h₁, rfl⟩
    · exact .inr ⟨es₁, a, s₁, es₂, h₁, h₂, rfl⟩
  · rintro (⟨e, h, rfl⟩ | ⟨es₁, a, s₁, es₂, h₁, h₂, rfl⟩)
    · exact ⟨es, (.error e, s'), [], h, .done _, by simp⟩
    · exact ⟨es₁, (.ok a, s₁), es₂, h₁, h₂, rfl⟩

theorem course_lift {x : Except Fault α} :
    (liftM x : Action S σ α).Course s es r s' ↔ es = [] ∧ r = x ∧ s' = s := by
  show Dialogue.Course (.done (x, s)) es (r, s') ↔ _
  rw [Dialogue.course_done, Prod.mk.injEq]

theorem course_lift_malformed {x : Except Malformed α} :
    (liftM x : Action S σ α).Course s es r s' ↔
      es = [] ∧ r = x.mapError .malformed ∧ s' = s := by
  have hrun : (liftM x : Action S σ α).run s = .done (x.mapError .malformed, s) := by
    cases x <;> rfl
  rw [Course, hrun, Dialogue.course_done, Prod.mk.injEq]

theorem course_set {t : σ} {r : Except Fault PUnit} :
    (set t : Action S σ PUnit).Course s es r s' ↔ es = [] ∧ r = .ok () ∧ s' = t := by
  show Dialogue.Course (.done (.ok (), t)) es (r, s') ↔ _
  rw [Dialogue.course_done, Prod.mk.injEq]

theorem course_modify {f : σ → σ} {r : Except Fault PUnit} :
    (modify f : Action S σ PUnit).Course s es r s' ↔ es = [] ∧ r = .ok () ∧ s' = f s := by
  show Dialogue.Course (.done (.ok (), f s)) es (r, s') ↔ _
  rw [Dialogue.course_done, Prod.mk.injEq]

theorem course_attempt {x : Action S σ α} {r : Except Fault (Except Fault α)} :
    x.attempt.Course s es r s' ↔ ∃ r', x.Course s es r' s' ∧ r = .ok r' := by
  simp only [Course, attempt_run, Dialogue.course_bind, Dialogue.course_done]
  constructor
  · rintro ⟨es₁, p, es₂, h, ⟨rfl, hp⟩, rfl⟩
    cases hp
    exact ⟨p.1, by simpa using h, rfl⟩
  · rintro ⟨r', h, rfl⟩
    exact ⟨es, (r', s'), [], h, ⟨rfl, rfl⟩, by simp⟩

theorem course_mapFault {x : Action S σ α} {f : Fault → Fault} :
    (x.mapFault f).Course s es r s' ↔ ∃ r', x.Course s es r' s' ∧ r = r'.mapError f := by
  simp only [Course, mapFault_run, Dialogue.course_bind, Dialogue.course_done]
  constructor
  · rintro ⟨es₁, p, es₂, h, ⟨rfl, hp⟩, rfl⟩
    cases hp
    exact ⟨p.1, by simpa using h, rfl⟩
  · rintro ⟨r', h, rfl⟩
    exact ⟨es, (r', s'), [], h, ⟨rfl, rfl⟩, by simp⟩

theorem course_perform {d : Dialogue S α} :
    (perform d : Action S σ α).Course s es r s' ↔
      ∃ a, Dialogue.Course d es a ∧ r = .ok a ∧ s' = s := by
  simp only [Course, perform_run, Dialogue.course_bind, Dialogue.course_done]
  constructor
  · rintro ⟨es₁, a, es₂, h, ⟨rfl, hp⟩, rfl⟩
    cases hp
    exact ⟨a, by simpa using h, rfl, rfl⟩
  · rintro ⟨a, h, rfl, rfl⟩
    exact ⟨es, a, [], h, ⟨rfl, rfl⟩, by simp⟩

theorem course_stateAfter {x : Action S τ Unit} {t : τ} {r : Except Fault τ} :
    (x.stateAfter t : Action S σ τ).Course s es r s' ↔
      ∃ r' t', x.Course t es r' t' ∧ r = .ok t' ∧ s' = s := by
  simp only [Course, stateAfter_run, Dialogue.course_bind, Dialogue.course_done]
  constructor
  · rintro ⟨es₁, p, es₂, h, ⟨rfl, hp⟩, rfl⟩
    cases hp
    exact ⟨p.1, p.2, by simpa using h, rfl, rfl⟩
  · rintro ⟨r', t', h, rfl, rfl⟩
    exact ⟨es, (r', t'), [], h, ⟨rfl, rfl⟩, by simp⟩

/-- The failure of a lifted computation ends the action where it stands. -/
theorem course_lift_bind {x : Except Fault α} {f : α → Action S σ β} {r : Except Fault β} :
    (liftM x >>= f : Action S σ β).Course s es r s' ↔
      (∃ e, x = .error e ∧ es = [] ∧ r = .error e ∧ s' = s) ∨
      ∃ a, x = .ok a ∧ (f a).Course s es r s' := by
  simp only [course_bind, course_lift]
  constructor
  · rintro (⟨e, ⟨rfl, rfl, rfl⟩, rfl⟩ | ⟨_, a, _, es₂, ⟨rfl, rfl, rfl⟩, h, rfl⟩)
    · exact .inl ⟨e, rfl, rfl, rfl, rfl⟩
    · exact .inr ⟨a, rfl, h⟩
  · rintro (⟨e, rfl, rfl, rfl, rfl⟩ | ⟨a, rfl, h⟩)
    · exact .inl ⟨e, ⟨rfl, rfl, rfl⟩, rfl⟩
    · exact .inr ⟨[], a, s, es, ⟨rfl, rfl, rfl⟩, h, rfl⟩

theorem course_lift_malformed_bind {x : Except Malformed α} {f : α → Action S σ β}
    {r : Except Fault β} :
    (liftM x >>= f : Action S σ β).Course s es r s' ↔
      (∃ m, x = .error m ∧ es = [] ∧ r = .error (.malformed m) ∧ s' = s) ∨
      ∃ a, x = .ok a ∧ (f a).Course s es r s' := by
  simp only [course_bind, course_lift_malformed]
  constructor
  · rintro (⟨e, ⟨rfl, h, rfl⟩, rfl⟩ | ⟨_, a, _, es₂, ⟨rfl, h, rfl⟩, hf, rfl⟩)
    · cases x with
      | ok a => cases h
      | error m => cases h; exact .inl ⟨m, rfl, rfl, rfl, rfl⟩
    · cases x with
      | ok b => cases h; exact .inr ⟨a, rfl, hf⟩
      | error m => cases h
  · rintro (⟨m, rfl, rfl, rfl, rfl⟩ | ⟨a, rfl, h⟩)
    · exact .inl ⟨_, ⟨rfl, rfl, rfl⟩, rfl⟩
    · exact .inr ⟨[], a, s, es, ⟨rfl, rfl, rfl⟩, h, rfl⟩

/-- Two actions in a row succeed if each of them does. -/
theorem course_bind_ok {x : Action S σ α} {f : α → Action S σ β} {b : β} :
    (x >>= f).Course s es (.ok b) s' ↔
      ∃ es₁ a s₁ es₂, x.Course s es₁ (.ok a) s₁ ∧ (f a).Course s₁ es₂ (.ok b) s' ∧
        es = es₁ ++ es₂ := by
  rw [course_bind]
  exact or_iff_right fun ⟨_, _, h⟩ => nomatch h

theorem course_lift_malformed_bind_ok {x : Except Malformed α} {f : α → Action S σ β} {b : β} :
    (liftM x >>= f : Action S σ β).Course s es (.ok b) s' ↔
      ∃ a, x = .ok a ∧ (f a).Course s es (.ok b) s' := by
  rw [course_lift_malformed_bind]
  exact or_iff_right fun ⟨_, _, _, h, _⟩ => nomatch h

theorem course_pure_bind {a : α} {f : α → Action S σ β} {r : Except Fault β} :
    (pure a >>= f : Action S σ β).Course s es r s' ↔ (f a).Course s es r s' := Iff.rfl

theorem course_get_bind {f : σ → Action S σ β} {r : Except Fault β} :
    (get >>= f : Action S σ β).Course s es r s' ↔ (f s).Course s es r s' := Iff.rfl

theorem course_modify_bind {g : σ → σ} {f : PUnit → Action S σ β} {r : Except Fault β} :
    (modify g >>= f : Action S σ β).Course s es r s' ↔ (f ()).Course (g s) es r s' := Iff.rfl

end Action

/-! ## 3. Calls -/

namespace Remote

variable {σ : Type} {s s' : σ} {es : List (Dialogue.Event Remote)}

theorem course_call {c : Call} {r : Except Fault Response} :
    (call c : Action Remote σ Response).Course s es r s' ↔ es = [⟨.call c, r⟩] ∧ s' = s := by
  rw [Action.Course, call_run]
  constructor
  · intro h
    obtain ⟨x, rest, rfl, hrest⟩ := Dialogue.course_ask.1 h
    obtain ⟨rfl, hend⟩ := Dialogue.course_done.1 hrest
    cases hend
    exact ⟨rfl, rfl⟩
  · rintro ⟨rfl, rfl⟩
    exact .ask (.done _)

theorem course_askStorage {q : Storage.Question} {x : q.Answer} :
    Dialogue.Course (askStorage q) es x ↔ es = [⟨.storage q, x⟩] :=
  Dialogue.course_question

end Remote

end StorageBroker
