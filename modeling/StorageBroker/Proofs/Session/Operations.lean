import StorageBroker.Proofs.Session.Standing
import StorageBroker.Proofs.Turns
/-!
# Operations over a session

How a session comes through an operation. Its calls are made one after the other, each with the
token that the one before has left; questions to the object storage pass it by.

* `turn_of_call` -- every call is made by the session itself, with the token that it holds by then;
* `event_of_turns`, `events_of_calls` -- what is sent belongs to the calls;
* `run_storage` -- an operation that only asks the object storage leaves the session alone;
* `filter_isStorage` -- what is asked of the object storage is what the operation asks of it;
* `isLoggedIn_of_last` -- behind a call that got a response the session holds a token.
-/

namespace StorageBroker.Session

variable {s s₁ : Session} {es : Events}

/-! ## 1. The session in an operation -/

/-- A session as it was, but for its token, and no less sound. -/
def Succeeds (s s' : Session) : Prop := (∃ t, s' = s.withToken t) ∧ (s.Sound → s'.Sound)

theorem succeeds_of_serve {q : Remote.Question} {s₀ : Session} {x : q.Answer × Session}
    (hs : Succeeds s₀ s) (h : Dialogue.Course (serve q s) es x) : Succeeds s₀ x.2 := by
  obtain ⟨⟨t, rfl⟩, hsound⟩ := hs
  cases q with
  | call c =>
    have hserved := served_of_request (Action.course_iff.1 h)
    obtain ⟨t', ht'⟩ := hserved.same
    exact ⟨⟨t', ht'⟩, fun hs => hserved.sound (hsound hs)⟩
  | storage q =>
    obtain ⟨es₁, a, es₂, _, hend, _⟩ := Dialogue.course_bind.1 h
    obtain ⟨_, rfl⟩ := Dialogue.course_done.1 hend
    exact ⟨⟨t, rfl⟩, hsound⟩

variable {σ α : Type} (w : Dialogue.World Wire σ) (d : Dialogue Remote α) (s : Session) (st : σ)

theorem turns_succeed :
    (∀ turn ∈ turns w d s st, Dialogue.Answered (S := Remote) serve (Succeeds s) turn) ∧
      Succeeds s (Dialogue.run w (carryOut d s) st).result.2 := by
  have hkeeps : ∀ (q : Remote.Question) (t : Session) (es : Events) (x : q.Answer × Session),
      Succeeds s t → Dialogue.Course (serve q t) es x → Succeeds s x.2 :=
    fun _ _ _ _ ht h => succeeds_of_serve ht h
  exact @Dialogue.turns_answered Remote _ _ _ _ serve w _ hkeeps d s ⟨⟨s.token, rfl⟩, id⟩ st

/-- **In an operation every call is made by the session** with the token that it holds by then. -/
theorem turn_of_call {turn : Dialogue.Turn Remote Wire} (hturn : turn ∈ turns w d s st) {c : Call}
    {a : Except Fault Response} (h : turn.event = ⟨.call c, a⟩) :
    ∃ s₁ s₂, Succeeds s s₁ ∧ (request c).Course s₁ turn.sent a s₂ := by
  obtain ⟨⟨q, a'⟩, es⟩ := turn
  cases h
  obtain ⟨s₁, s₂, hs₁, _, hcourse⟩ := (turns_succeed w d s st).1 _ hturn
  exact ⟨s₁, s₂, hs₁, hcourse⟩

/-- **What is seen of an operation on the wire** belongs to one of its calls, or is one of its
questions to the object storage. -/
theorem event_of_turns {e : Dialogue.Event Wire}
    (he : e ∈ (Dialogue.run w (carryOut d s) st).events) :
    (∃ c a, (⟨.call c, a⟩ : Dialogue.Event Remote) ∈ (turns w d s st).map Dialogue.Turn.event ∧
      RequestOf s c e) ∨
    ∃ q a, (⟨.storage q, a⟩ : Dialogue.Event Remote) ∈ (turns w d s st).map Dialogue.Turn.event ∧
      e = ⟨.storage q, a⟩ := by
  rw [events_carryOut, List.mem_flatMap] at he
  obtain ⟨turn, hturn, he⟩ := he
  have hmem := List.mem_map_of_mem (f := Dialogue.Turn.event) hturn
  obtain ⟨s₁, s₂, ⟨⟨t, rfl⟩, _⟩, _, hcourse⟩ := (turns_succeed w d s st).1 turn hturn
  obtain ⟨⟨q, a⟩, es⟩ := turn
  cases q with
  | call c =>
    have hserved := served_of_request (Action.course_iff.1 hcourse)
    exact .inl ⟨c, a, hmem, (hserved.requests e he).of_withToken⟩
  | storage q =>
    obtain ⟨es₁, a', es₂, hask, hend, hes⟩ := Dialogue.course_bind.1 hcourse
    obtain ⟨rfl, hresult⟩ := Dialogue.course_done.1 hend
    cases hresult
    obtain rfl := Dialogue.course_question.1 hask
    have hsent : es = [⟨.storage q, a⟩] := hes
    rw [hsent] at he
    exact .inr ⟨q, a, hmem, List.mem_singleton.1 he⟩

/-- **All that is sent in an operation belongs to its calls**, if it asks for nothing else. -/
theorem events_of_calls {P : Call → Prop}
    (h : ∀ e ∈ (turns w d s st).map Dialogue.Turn.event, ∃ c a, e = ⟨.call c, a⟩ ∧ P c) :
    ∀ e ∈ (Dialogue.run w (carryOut d s) st).events, ∃ c, RequestOf s c e ∧ P c := by
  intro e he
  rcases event_of_turns w d s st he with ⟨c, a, hturn, hrequest⟩ | ⟨q, a, hturn, _⟩
  · obtain ⟨c', a', hevent, hc⟩ := h _ hturn
    cases hevent
    exact ⟨c, hrequest, hc⟩
  · obtain ⟨c', a', hevent, _⟩ := h _ hturn
    cases hevent

section Row

variable {τ β : Type} {x : Action Remote τ α} {f : α → Action Remote τ β} {t : τ}

/-- **The second of two actions** is carried out behind a success of the first one. -/
theorem run_bind_of_ok {a : α} (h : (Dialogue.run w (carryOut (x.run t) s) st).result.1.1 = .ok a) :
    Dialogue.run w (carryOut ((x >>= f).run t) s) st =
      let o := Dialogue.run w (carryOut (x.run t) s) st
      let p := Dialogue.run w (carryOut ((f a).run o.result.1.2) o.result.2) o.state
      ⟨p.result, o.events ++ p.events, p.state⟩ := by
  rw [Action.bind_run, run_carryOut_bind]
  generalize Dialogue.run w (carryOut (x.run t) s) st = o at h ⊢
  obtain ⟨⟨⟨r, t'⟩, s'⟩, es, st'⟩ := o
  cases h
  rfl

/-- Behind a failure nothing more is done. -/
theorem run_bind_of_error {e : Fault}
    (h : (Dialogue.run w (carryOut (x.run t) s) st).result.1.1 = .error e) :
    Dialogue.run w (carryOut ((x >>= f).run t) s) st =
      let o := Dialogue.run w (carryOut (x.run t) s) st
      ⟨((.error e, o.result.1.2), o.result.2), o.events, o.state⟩ := by
  rw [Action.bind_run, run_carryOut_bind]
  generalize Dialogue.run w (carryOut (x.run t) s) st = o at h ⊢
  obtain ⟨⟨⟨r, t'⟩, s'⟩, es, st'⟩ := o
  cases h
  simp only [carryOut, Dialogue.delegate, Dialogue.run_done, List.append_nil]

end Row

/-- The first call of an operation is made with the token that the session holds. -/
theorem course_of_first {turn : Dialogue.Turn Remote Wire} {rest : List (Dialogue.Turn Remote Wire)}
    (hturns : turns w d s st = turn :: rest) {c : Call} {a : Except Fault Response}
    (h : turn.event = ⟨.call c, a⟩) : ∃ s', (request c).Course s turn.sent a s' := by
  cases d with
  | done a => cases hturns
  | ask q next =>
    rw [turns_ask] at hturns
    obtain ⟨rfl, _⟩ := List.cons.inj hturns
    have hcourse := Dialogue.course_run w (serve q s) st
    dsimp only at h ⊢
    generalize Dialogue.run w (serve q s) st = o at h hcourse ⊢
    obtain ⟨⟨x, s'⟩, es, st'⟩ := o
    cases h
    exact ⟨s', Action.course_iff.1 hcourse⟩

/-! ## 2. Questions to the object storage -/

/-- What is seen of an event on the wire, calls left out. -/
def onWire : Dialogue.Event Remote → Events
  | ⟨.storage q, a⟩ => [⟨.storage q, a⟩]
  | ⟨.call _, _⟩ => []

/-- **The object storage is asked past the session.** -/
theorem run_storage (h : ∀ turn ∈ turns w d s st, ∃ q a, turn.event = ⟨.storage q, a⟩) :
    (Dialogue.run w (carryOut d s) st).result.2 = s ∧
      (Dialogue.run w (carryOut d s) st).events =
        ((turns w d s st).map Dialogue.Turn.event).flatMap onWire := by
  induction d generalizing st with
  | done a => exact ⟨rfl, rfl⟩
  | ask q next ih =>
    rw [turns_ask, List.forall_mem_cons] at h
    rw [run_carryOut_ask, turns_ask]
    obtain ⟨⟨q', a', hq⟩, hrest⟩ := h
    cases hq
    obtain ⟨hsession, hevents⟩ := ih _ _ hrest
    refine ⟨hsession, ?_⟩
    rw [List.map_cons, List.flatMap_cons]
    exact congrArg (onWire ⟨.storage q', _⟩ ++ ·) hevents

/-- Whether an event is a question to the object storage. -/
def isStorage (e : Dialogue.Event Wire) : Bool :=
  match e.question with
  | .storage _ => true
  | _ => false

theorem isStorage_of_requestOf {s : Session} {c : Call} {e : Dialogue.Event Wire}
    (h : RequestOf s c e) : isStorage e = false := by
  cases h <;> rfl

/-- **The questions to the object storage on the wire** are those of the operation, in order. -/
theorem filter_isStorage :
    (Dialogue.run w (carryOut d s) st).events.filter isStorage =
      ((turns w d s st).map Dialogue.Turn.event).flatMap onWire := by
  induction d generalizing s st with
  | done a => rfl
  | ask q next ih =>
    rw [run_carryOut_ask, turns_ask, List.map_cons, List.flatMap_cons]
    show (_ ++ _ : Events).filter isStorage = _
    rw [List.filter_append]
    refine congrArg₂ (· ++ ·) ?_ (ih _ _ _)
    have hcourse := Dialogue.course_run w (serve q s) st
    dsimp only
    generalize Dialogue.run w (serve q s) st = o at hcourse ⊢
    cases q with
    | call c =>
      have hserved := served_of_request (Action.course_iff.1 hcourse)
      refine List.filter_eq_nil_iff.2 fun e he => ?_
      rw [isStorage_of_requestOf (hserved.requests e he)]
      exact Bool.false_ne_true
    | storage q =>
      obtain ⟨es₁, a, es₂, hask, hend, hes⟩ := Dialogue.course_bind.1 hcourse
      obtain ⟨rfl, hresult⟩ := Dialogue.course_done.1 hend
      obtain rfl := Dialogue.course_question.1 hask
      rw [hes, hresult]
      rfl

/-! ## 3. The last call -/

theorem turns_eq_nil (h : turns w d s st = []) :
    (Dialogue.run w (carryOut d s) st).result.2 = s := by
  cases d with
  | done a => rfl
  | ask q next => cases h

/-- **Behind a call that got a response the session holds a token.** -/
theorem isLoggedIn_of_last {init : List (Dialogue.Event Remote)} {c : Call} {a : Response}
    (h : (turns w d s st).map Dialogue.Turn.event = init ++ [⟨.call c, .ok a⟩]) :
    (Dialogue.run w (carryOut d s) st).result.2.isLoggedIn := by
  induction d generalizing s st init with
  | done a => simp [turns, Dialogue.turns] at h
  | ask q next ih =>
    rw [run_carryOut_ask]
    rw [turns_ask, List.map_cons] at h
    cases init with
    | nil =>
      obtain ⟨hfirst, hrest⟩ := List.cons.inj h
      have hend := turns_eq_nil w _ _ _ (List.map_eq_nil_iff.1 hrest)
      have hcourse := Dialogue.course_run w (serve q s) st
      show (Dialogue.run w (carryOut _ _) _).result.2.isLoggedIn
      rw [hend]
      dsimp only at hfirst
      generalize Dialogue.run w (serve q s) st = o at hfirst hcourse
      obtain ⟨⟨x, s'⟩, es, st'⟩ := o
      cases hfirst
      exact (served_of_request (Action.course_iff.1 hcourse)).token ⟨a, rfl⟩
    | cons first init => exact ih _ _ _ (List.cons.inj h).2

end StorageBroker.Session
