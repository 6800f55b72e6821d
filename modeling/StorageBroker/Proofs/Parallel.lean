import StorageBroker.Proofs.Turns
/-!
# Parallel dialogues

Two dialogues run in parallel if they ask the same questions as long as they get the same answers,
and end in results that are related. What is said of one of them is then said of the other: in any
world they send the same and leave it as they found it.

* `Dialogue.Parallel` -- parallel dialogues; `Parallel.bind` keeps them so, `Parallel.delegate` too;
* `Dialogue.Parallel.run` -- in every world they ask the same;
* `Action.Matched` -- parallel actions, from states that are related;
* `Session.run_matched` -- matched actions over a session.
-/

namespace StorageBroker

/-! ## 1. Dialogues -/

namespace Dialogue

variable {S T : Signature} {α β γ δ : Type}

/-- **Dialogues that ask the same questions** and end in related results. -/
inductive Parallel (R : α → β → Prop) : Dialogue S α → Dialogue S β → Prop where
  | done {a : α} {b : β} (h : R a b) : Parallel R (.done a) (.done b)
  | ask {q : S.Question} {next : S.Answer q → Dialogue S α} {next' : S.Answer q → Dialogue S β}
      (h : ∀ x, Parallel R (next x) (next' x)) : Parallel R (.ask q next) (.ask q next')

variable {R : α → β → Prop} {R' : γ → δ → Prop} {d : Dialogue S α} {d' : Dialogue S β}

theorem parallel_refl {R : α → α → Prop} (hR : ∀ a, R a a) (d : Dialogue S α) :
    Parallel R d d := by
  induction d with
  | done a => exact .done (hR a)
  | ask q next ih => exact .ask ih

/-- Parallel dialogues that go on in parallel are parallel. -/
theorem Parallel.bind {f : α → Dialogue S γ} {g : β → Dialogue S δ} (h : Parallel R d d')
    (hf : ∀ a b, R a b → Parallel R' (f a) (g b)) : Parallel R' (d >>= f) (d' >>= g) := by
  induction h with
  | done h => exact hf _ _ h
  | ask _ ih => exact .ask ih

/-- **Parallel dialogues are delegated in parallel**, since their questions are answered alike. -/
theorem Parallel.delegate {τ : Type}
    {answer : (q : S.Question) → τ → Dialogue T (S.Answer q × τ)} (h : Parallel R d d') (t : τ) :
    Parallel (fun r r' => R r.1 r'.1 ∧ r.2 = r'.2) (delegate answer d t)
      (delegate answer d' t) := by
  induction h generalizing t with
  | done h => exact .done ⟨h, rfl⟩
  | @ask q next next' _ ih =>
    have hsame : Parallel Eq (answer q t) (answer q t) := parallel_refl (fun _ => rfl) _
    refine hsame.bind fun r r' hr => ?_
    rw [hr]
    exact ih r'.1 r'.2

/-- **In every world parallel dialogues ask the same**, and leave the world the same. -/
theorem Parallel.run {σ : Type} (w : World S σ) (h : Parallel R d d') (s : σ) :
    (run w d s).events = (run w d' s).events ∧ (run w d s).state = (run w d' s).state ∧
      R (run w d s).result (run w d' s).result := by
  induction h generalizing s with
  | done h => exact ⟨rfl, rfl, h⟩
  | @ask q next next' _ ih =>
    obtain ⟨hevents, hstate, hresult⟩ := ih (w.answer q s).1 (w.answer q s).2
    rw [run_ask, run_ask]
    exact ⟨congrArg _ hevents, hstate, hresult⟩

end Dialogue

/-! ## 2. Actions -/

namespace Action

open Dialogue (Parallel)

variable {S : Signature} {σ α β γ δ : Type}

/-- Outcomes alike: the same failure, or related results. -/
inductive Alike (R : α → β → Prop) : Except Fault α → Except Fault β → Prop where
  | ok {a : α} {b : β} (h : R a b) : Alike R (.ok a) (.ok b)
  | error (f : Fault) : Alike R (.error f) (.error f)

/-- **Actions that run in parallel** from related states, to related states and outcomes alike. -/
def Matched (Q : σ → σ → Prop) (R : α → β → Prop) (x : Action S σ α) (y : Action S σ β) : Prop :=
  ∀ s s', Q s s' → Parallel (fun p p' => Alike R p.1 p'.1 ∧ Q p.2 p'.2) (x.run s) (y.run s')

variable {Q : σ → σ → Prop} {R : α → β → Prop} {R' : γ → δ → Prop}

theorem matched_pure {a : α} {b : β} (h : R a b) :
    Matched Q R (pure a : Action S σ α) (pure b : Action S σ β) :=
  fun _ _ hs => .done ⟨.ok h, hs⟩

theorem matched_throw {f : Fault} :
    Matched Q R (throw f : Action S σ α) (throw f : Action S σ β) :=
  fun _ _ hs => .done ⟨.error f, hs⟩

theorem matched_lift {x : Except Malformed α} :
    Matched Q Eq (liftM x : Action S σ α) (liftM x : Action S σ α) := by
  intro s s' hs
  cases x with
  | ok a => exact .done ⟨.ok rfl, hs⟩
  | error m => exact .done ⟨.error _, hs⟩

theorem matched_modify {f g : σ → σ} (h : ∀ s s', Q s s' → Q (f s) (g s')) :
    Matched Q Eq (modify f : Action S σ PUnit) (modify g : Action S σ PUnit) :=
  fun s s' hs => .done ⟨.ok rfl, h s s' hs⟩

/-- **Two matched actions in a row**: if the first ones fail the second ones are not begun. -/
theorem Matched.bind {x : Action S σ α} {y : Action S σ β} {f : α → Action S σ γ}
    {g : β → Action S σ δ} (hx : Matched Q R x y)
    (hf : ∀ a b, R a b → Matched Q R' (f a) (g b)) : Matched Q R' (x >>= f) (y >>= g) := by
  intro s s' hs
  rw [bind_run, bind_run]
  refine (hx s s' hs).bind ?_
  rintro ⟨r, t⟩ ⟨r', t'⟩ ⟨hr, ht⟩
  cases hr with
  | ok h => exact hf _ _ h t t' ht
  | error f => exact .done ⟨.error f, ht⟩

/-- What stands behind a failure does not count. -/
theorem matched_throw_bind {e : Fault} {f : α → Action S σ γ} {g : β → Action S σ δ} :
    Matched Q R' (throw e >>= f) (throw e >>= g) :=
  Matched.bind (matched_throw : Matched Q (fun _ _ => False) _ _) fun _ _ h => h.elim

/-- What was computed before is gone on with. -/
theorem Matched.ok_bind {a : α} {b : β} {f : α → Action S σ γ} {g : β → Action S σ δ}
    (h : Matched Q R' (f a) (g b)) :
    Matched Q R' (liftM (.ok a : Except Malformed α) >>= f)
      (liftM (.ok b : Except Malformed β) >>= g) := h

/-- The same action on both sides, followed by matched ones. -/
theorem Matched.bind_same {x : Action S σ α} {f : α → Action S σ γ} {g : α → Action S σ δ}
    (hx : Matched Q Eq x x) (hf : ∀ a, Matched Q R' (f a) (g a)) :
    Matched Q R' (x >>= f) (x >>= g) :=
  hx.bind fun a _ h => h ▸ hf a

theorem Matched.get_bind {f : σ → Action S σ γ} {g : σ → Action S σ δ}
    (hf : ∀ s s', Q s s' → Matched Q R' (f s) (g s')) : Matched Q R' (get >>= f) (get >>= g) :=
  fun s s' hs => hf s s' hs s s' hs

theorem Matched.attempt {x : Action S σ α} {y : Action S σ β} (hx : Matched Q R x y) :
    Matched Q (Alike R) x.attempt y.attempt := by
  intro s s' hs
  rw [attempt_run, attempt_run]
  exact (hx s s' hs).bind fun p p' h => .done ⟨.ok h.1, h.2⟩

theorem Matched.mapFault {x : Action S σ α} {y : Action S σ β} (hx : Matched Q R x y)
    (g : Fault → Fault) : Matched Q R (x.mapFault g) (y.mapFault g) := by
  intro s s' hs
  rw [mapFault_run, mapFault_run]
  refine (hx s s' hs).bind ?_
  rintro ⟨r, t⟩ ⟨r', t'⟩ ⟨hr, ht⟩
  cases hr with
  | ok h => exact .done ⟨.ok h, ht⟩
  | error f => exact .done ⟨.error (g f), ht⟩

end Action

/-! ## 3. Calls -/

theorem Remote.matched_call {σ : Type} {Q : σ → σ → Prop} {c : Call} :
    Action.Matched Q Eq (call c : Action Remote σ Response) (call c) := by
  intro s s' hs
  rw [call_run, call_run]
  refine .ask fun r => .done ⟨?_, hs⟩
  cases r with
  | ok a => exact .ok rfl
  | error f => exact .error f

/-- **Matched actions over a session** send the same requests, leave the session and the world the
same, and come to outcomes alike. -/
theorem Session.run_matched {σ τ α β : Type} {Q : τ → τ → Prop} {R : α → β → Prop}
    {x : Action Remote τ α} {y : Action Remote τ β} (hx : Action.Matched Q R x y)
    (w : Dialogue.World Wire σ) (st : σ) (s : Session) {t t' : τ} (ht : Q t t') :
    let o := Dialogue.run w (carryOut (x.run t) s) st
    let o' := Dialogue.run w (carryOut (y.run t') s) st
    o.events = o'.events ∧ o.state = o'.state ∧ o.result.2 = o'.result.2 ∧
      Action.Alike R o.result.1.1 o'.result.1.1 := by
  intro o o'
  have hparallel : Dialogue.Parallel _ (carryOut (x.run t) s) (carryOut (y.run t') s) :=
    .delegate (hx t t' ht) s
  obtain ⟨hevents, hstate, ⟨halike, _⟩, hsession⟩ := hparallel.run w st
  exact ⟨hevents, hstate, hsession, halike⟩

end StorageBroker
