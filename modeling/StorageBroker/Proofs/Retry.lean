import StorageBroker.Proofs.Course
import StorageBroker.Retry
/-!
# Attempts

An action that is tried again goes through a list of attempts. Each one but the last failed in a way
that is worth another one and was followed by a wait; the last one ends the whole.

* `course_wait` -- a wait draws at most one random number and pauses once, or fails before it does;
* `retried_of_course` -- the courses of the loop, by what the first attempt comes to;
* `Retried.attempts` -- the list of the attempts, of which there is at most one more than retries;
* `retrying_closed` -- what holds of every attempt, and of attempts in a row, holds of the whole.
-/

namespace StorageBroker.Retry

variable {σ α : Type} {s s' : σ} {es : List (Dialogue.Event Wire)}

/-! ## 1. Waits -/

/-- The events of a wait that came to its end. -/
def Waited (es : List (Dialogue.Event Wire)) : Prop :=
  ∃ seconds, es = [⟨.pause seconds, ()⟩] ∨ ∃ x, es = [⟨.random, x⟩, ⟨.pause seconds, ()⟩]

/-- The events of a wait whose length could not be told. -/
def Unpaused (es : List (Dialogue.Event Wire)) : Prop := es = [] ∨ ∃ x, es = [⟨.random, x⟩]

theorem course_random {r : Except Fault Float} :
    (Action.perform Wire.random : Action Wire σ Float).Course s es r s' ↔
      ∃ x, es = [⟨.random, x⟩] ∧ r = .ok x ∧ s' = s := by
  rw [Action.course_perform]
  constructor
  · rintro ⟨x, hx, rfl, rfl⟩
    exact ⟨x, Dialogue.course_question.1 hx, rfl, rfl⟩
  · rintro ⟨x, rfl, rfl, rfl⟩
    exact ⟨x, Dialogue.course_question.2 rfl, rfl, rfl⟩

theorem course_pause {seconds : Float} {r : Except Fault Unit} :
    (Action.perform (Wire.pause seconds) : Action Wire σ Unit).Course s es r s' ↔
      es = [⟨.pause seconds, ()⟩] ∧ r = .ok () ∧ s' = s := by
  rw [Action.course_perform]
  constructor
  · rintro ⟨⟨⟩, hx, rfl, rfl⟩
    exact ⟨Dialogue.course_question.1 hx, rfl, rfl⟩
  · rintro ⟨rfl, rfl, rfl⟩
    exact ⟨(), Dialogue.course_question.2 rfl, rfl, rfl⟩

theorem course_pauseFor {delay extra : Number} {r : Except Fault Unit}
    (h : (match delay.add extra with
      | some total => do Action.perform (Wire.pause (← asFloat total))
      | none => throw (.malformed (.magnitude "int too large to convert to float")) :
        Action Wire σ Unit).Course s es r s') :
    s' = s ∧ ((r = .ok () ∧ ∃ seconds, es = [⟨.pause seconds, ()⟩]) ∨
      (es = [] ∧ ∃ m, r = .error (.malformed m))) := by
  split at h
  · rw [Action.course_lift_malformed_bind] at h
    obtain ⟨m, _, rfl, rfl, rfl⟩ | ⟨total, _, h⟩ := h
    · exact ⟨rfl, .inr ⟨rfl, m, rfl⟩⟩
    · obtain ⟨rfl, rfl, rfl⟩ := course_pause.1 h
      exact ⟨rfl, .inl ⟨rfl, total, rfl⟩⟩
  · obtain ⟨rfl, rfl, rfl⟩ := Action.course_throw.1 h
    exact ⟨rfl, .inr ⟨rfl, _, rfl⟩⟩

/-- **A wait pauses once**, or fails before it has paused. -/
theorem course_wait {p : Policy} {delay : Number} {r : Except Fault Unit}
    (h : (wait p delay).Course s es r s') :
    s' = s ∧ ((r = .ok () ∧ Waited es) ∨ (Unpaused es ∧ ∃ m, r = .error (.malformed m))) := by
  unfold wait at h
  dsimp only at h
  split at h
  · rw [Action.course_bind] at h
    obtain ⟨f, hx, _⟩ | ⟨_, x, _, es₂, hx, h, rfl⟩ := h
    · obtain ⟨_, _, hx, _⟩ := course_random.1 hx
      cases hx
    obtain ⟨x, rfl, hx, rfl⟩ := course_random.1 hx
    cases hx
    rw [Action.course_lift_malformed_bind] at h
    obtain ⟨m, _, rfl, rfl, rfl⟩ | ⟨initial, _, h⟩ := h
    · exact ⟨rfl, .inr ⟨.inr ⟨x, rfl⟩, m, rfl⟩⟩
    rw [Action.course_lift_malformed_bind] at h
    obtain ⟨m, _, rfl, rfl, rfl⟩ | ⟨d, _, h⟩ := h
    · exact ⟨rfl, .inr ⟨.inr ⟨x, rfl⟩, m, rfl⟩⟩
    rw [Action.course_pure_bind] at h
    obtain ⟨rfl, ⟨rfl, seconds, rfl⟩ | ⟨rfl, m, rfl⟩⟩ := course_pauseFor h
    · exact ⟨rfl, .inl ⟨rfl, seconds, .inr ⟨x, rfl⟩⟩⟩
    · exact ⟨rfl, .inr ⟨.inr ⟨x, rfl⟩, m, rfl⟩⟩
  · rw [Action.course_pure_bind] at h
    obtain ⟨rfl, ⟨rfl, seconds, rfl⟩ | ⟨rfl, m, rfl⟩⟩ := course_pauseFor h
    · exact ⟨rfl, .inl ⟨rfl, seconds, .inl rfl⟩⟩
    · exact ⟨rfl, .inr ⟨.inl rfl, m, rfl⟩⟩

/-! ## 2. The loop -/

/-- **The courses of an action that is tried again**, with a number of retries left. -/
inductive Retried (codes : Value) (x : Action Wire σ α) :
    Nat → σ → List (Dialogue.Event Wire) → Except Fault α → σ → Prop where
  /-- The attempt is the last one: no retry is left, or it is not worth one. -/
  | last {left : Nat} {s s' : σ} {es : List (Dialogue.Event Wire)} {r : Except Fault α}
      (h : x.Course s es r s')
      (hr : left = 0 ∨ ∀ f, r = .error f → isRetryable codes f = .ok false) :
      Retried codes x left s es r s'
  /-- It cannot be told whether the attempt is worth another one. -/
  | untold {left : Nat} {s s' : σ} {es : List (Dialogue.Event Wire)} {f : Fault} {m : Malformed}
      (h : x.Course s es (.error f) s') (hf : isRetryable codes f = .error m) :
      Retried codes x (left + 1) s es (.error (.malformed m)) s'
  /-- The wait for the next attempt fails. -/
  | unwaited {left : Nat} {s s' : σ} {es ws : List (Dialogue.Event Wire)} {f : Fault}
      {m : Malformed} (h : x.Course s es (.error f) s') (hf : isRetryable codes f = .ok true)
      (hw : Unpaused ws) : Retried codes x (left + 1) s (es ++ ws) (.error (.malformed m)) s'
  | again {left : Nat} {s s₁ s' : σ} {es ws rest : List (Dialogue.Event Wire)} {f : Fault}
      {r : Except Fault α} (h : x.Course s es (.error f) s₁) (hf : isRetryable codes f = .ok true)
      (hw : Waited ws) (hrest : Retried codes x left s₁ rest r s') :
      Retried codes x (left + 1) s (es ++ ws ++ rest) r s'

theorem retried_of_course {p : Policy} {codes : Value} {x : Action Wire σ α} {left n : Nat}
    {delay : Number} {r : Except Fault α} (h : (loop p codes x left n delay).Course s es r s') :
    Retried codes x left s es r s' := by
  induction left generalizing n delay s es with
  | zero => exact .last h (.inl rfl)
  | succ left ih =>
    rw [loop, Action.course_bind] at h
    obtain ⟨f, hx, _⟩ | ⟨es₁, r₁, s₁, es₂, hx, h, rfl⟩ := h
    · obtain ⟨_, _, hf⟩ := Action.course_attempt.1 hx
      cases hf
    obtain ⟨r₁, hx, hr⟩ := Action.course_attempt.1 hx
    cases hr
    cases r₁ with
    | ok a =>
      obtain ⟨rfl, rfl, rfl⟩ := Action.course_pure.1 h
      rw [List.append_nil]
      exact .last hx (.inr fun f hf => by cases hf)
    | error f =>
      dsimp only at h
      rw [Action.course_lift_malformed_bind] at h
      obtain ⟨m, hm, rfl, rfl, rfl⟩ | ⟨worth, hworth, h⟩ := h
      · rw [List.append_nil]
        exact .untold hx hm
      cases worth with
      | false =>
        obtain ⟨rfl, rfl, rfl⟩ := Action.course_throw.1 h
        rw [List.append_nil]
        exact .last hx (.inr fun g hg => by cases hg; exact hworth)
      | true =>
        rw [if_pos rfl, Action.course_lift_malformed_bind] at h
        obtain ⟨m, _, rfl, rfl, rfl⟩ | ⟨delay', _, h⟩ := h
        · exact .unwaited hx hworth (.inl rfl)
        rw [Action.course_bind] at h
        obtain ⟨g, hw, rfl⟩ | ⟨ws, ⟨⟩, s₂, rest, hw, h, rfl⟩ := h
        · obtain ⟨rfl, ⟨hg, _⟩ | ⟨hunpaused, m, hm⟩⟩ := course_wait hw
          · cases hg
          · cases hm
            exact .unwaited hx hworth hunpaused
        · obtain ⟨rfl, ⟨_, hwaited⟩ | ⟨_, m, hm⟩⟩ := course_wait hw
          · rw [← List.append_assoc]
            exact .again hx hworth hwaited (ih h)
          · cases hm

/-! ## 3. The list of attempts -/

/-- One attempt: its events, how it ended, and the events of the wait behind it. -/
structure Attempt (α : Type) where
  sent : List (Dialogue.Event Wire)
  result : Except Fault α
  waited : List (Dialogue.Event Wire)

/-- The events of an attempt with the wait behind it. -/
def Attempt.events (a : Attempt α) : List (Dialogue.Event Wire) := a.sent ++ a.waited

/-- **The attempts of an action that is tried again**: all but the last failed in a way that is
worth another attempt and were followed by a wait; the last one is followed by no pause, and its
result is that of the whole unless it cannot be told how to go on. -/
structure Attempts (codes : Value) (x : Action Wire σ α) (left : Nat)
    (es : List (Dialogue.Event Wire)) (r : Except Fault α) (earlier : List (Attempt α))
    (last : Attempt α) : Prop where
  events : es = (earlier ++ [last]).flatMap Attempt.events
  count : earlier.length ≤ left
  course : ∀ a ∈ earlier ++ [last], ∃ s s', x.Course s a.sent a.result s'
  failed : ∀ a ∈ earlier, (∃ f, a.result = .error f ∧ isRetryable codes f = .ok true) ∧
    Waited a.waited
  unpaused : Unpaused last.waited
  result : r = last.result ∨ ∃ f m, last.result = .error f ∧ r = .error (.malformed m)

theorem attempts_single {codes : Value} {x : Action Wire σ α} {left : Nat}
    {ws : List (Dialogue.Event Wire)} {r r₀ : Except Fault α} (h : x.Course s es r₀ s')
    (hws : Unpaused ws)
    (hr : r = r₀ ∨ ∃ f m, r₀ = .error f ∧ r = .error (.malformed m)) :
    Attempts codes x left (es ++ ws) r [] ⟨es, r₀, ws⟩ where
  events := by simp [Attempt.events]
  count := Nat.zero_le _
  course a ha := by
    cases List.mem_singleton.1 ha
    exact ⟨_, _, h⟩
  failed a ha := absurd ha List.not_mem_nil
  unpaused := hws
  result := hr

theorem Retried.attempts {codes : Value} {x : Action Wire σ α} {left : Nat} {r : Except Fault α}
    (h : Retried codes x left s es r s') :
    ∃ earlier last, Attempts codes x left es r earlier last := by
  induction h with
  | @last _ _ _ es _ h _ =>
    rw [← List.append_nil es]
    exact ⟨[], _, attempts_single h (.inl rfl) (.inl rfl)⟩
  | @untold _ _ _ es _ _ h _ =>
    rw [← List.append_nil es]
    exact ⟨[], _, attempts_single h (.inl rfl) (.inr ⟨_, _, rfl, rfl⟩)⟩
  | unwaited h _ hw => exact ⟨[], _, attempts_single h hw (.inr ⟨_, _, rfl, rfl⟩)⟩
  | @again _ _ _ _ es ws _ f _ h hf hw _ ih =>
    obtain ⟨earlier, last, ih⟩ := ih
    refine ⟨⟨es, .error f, ws⟩ :: earlier, last, ⟨?_, Nat.succ_le_succ ih.count, ?_, ?_,
      ih.unpaused, ih.result⟩⟩
    · rw [ih.events, List.cons_append, List.flatMap_cons, Attempt.events]
    · intro a ha
      rcases List.mem_cons.1 ha with rfl | ha
      · exact ⟨_, _, h⟩
      · exact ih.course a ha
    · intro a ha
      rcases List.mem_cons.1 ha with rfl | ha
      · exact ⟨⟨_, rfl, hf⟩, hw⟩
      · exact ih.failed a ha

/-! ## 4. What holds of all attempts -/

/-- A statement about courses that goes on from a failed attempt to the next one. -/
structure Closed (Q : σ → List (Dialogue.Event Wire) → Except Fault α → σ → Prop) : Prop where
  again : ∀ {s es f s₁ ws rest r s'}, Q s es (.error f) s₁ → Waited ws → Q s₁ rest r s' →
    Q s (es ++ ws ++ rest) r s'
  stopped : ∀ {s es f s' ws m}, Q s es (.error f) s' → Unpaused ws →
    Q s (es ++ ws) (.error (.malformed m)) s'

variable {Q : σ → List (Dialogue.Event Wire) → Except Fault α → σ → Prop}

theorem Retried.closed {codes : Value} {x : Action Wire σ α} {left : Nat} {r : Except Fault α}
    (hQ : Closed Q) (hx : ∀ {s es r s'}, x.Course s es r s' → Q s es r s')
    (h : Retried codes x left s es r s') : Q s es r s' := by
  induction h with
  | last h _ => exact hx h
  | @untold _ _ _ es _ _ h _ =>
    rw [← List.append_nil es]
    exact hQ.stopped (hx h) (.inl rfl)
  | unwaited h _ hw => exact hQ.stopped (hx h) hw
  | again h _ hw _ ih => exact hQ.again (hx h) hw ih

/-- **What holds of every attempt holds of the whole**, whatever the policy is. -/
theorem retrying_closed {policy : Option Policy} {codes : Value} {x : Action Wire σ α}
    {r : Except Fault α} (hQ : Closed Q) (hx : ∀ {s es r s'}, x.Course s es r s' → Q s es r s')
    (h : (retrying policy codes x).Course s es r s') : Q s es r s' := by
  cases policy with
  | none => exact hx h
  | some p =>
    rw [retrying] at h
    cases hmost : asNumber p.maxRetries with
    | ok most =>
      rw [hmost] at h
      exact (retried_of_course h).closed hQ hx
    | error m =>
      rw [hmost] at h
      dsimp only at h
      rw [uncounted, Action.course_bind] at h
      obtain ⟨f, hx', _⟩ | ⟨es₁, r₁, s₁, es₂, hx', h, rfl⟩ := h
      · obtain ⟨_, _, hf⟩ := Action.course_attempt.1 hx'
        cases hf
      obtain ⟨r₁, hx', hr⟩ := Action.course_attempt.1 hx'
      cases hr
      cases r₁ with
      | ok a =>
        obtain ⟨rfl, rfl, rfl⟩ := Action.course_pure.1 h
        rw [List.append_nil]
        exact hx hx'
      | error f =>
        by_cases hhttp : ∃ g, f = .http g
        · obtain ⟨g, rfl⟩ := hhttp
          obtain ⟨rfl, rfl, rfl⟩ := Action.course_throw.1 h
          exact hQ.stopped (hx hx') (.inl rfl)
        · have hthrow : (throw f : Action Wire σ α).Course s₁ es₂ r s' := by
            cases f with
            | http g => exact absurd ⟨g, rfl⟩ hhttp
            | _ => exact h
          obtain ⟨rfl, rfl, rfl⟩ := Action.course_throw.1 hthrow
          rw [List.append_nil]
          exact hx hx'

end StorageBroker.Retry
