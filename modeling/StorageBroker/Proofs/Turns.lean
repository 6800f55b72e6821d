import StorageBroker.Proofs.Course
import StorageBroker.Session
/-!
# Turns

When a dialogue is delegated, every question of it is answered by a dialogue of its own. A turn is
one such question with its answer, together with everything that was asked on for it. The turns of
a run tell both stories at once: read by their events they are a course of the delegated dialogue,
read by what was asked on they are the run itself.

* `course_turns` -- the questions and answers of the turns are a course;
* `events_delegate` -- what was asked on in the turns, one after the other, is all that was asked;
* `turns_answered` -- each turn is a course of its question's own dialogue, from a state that meets
  whatever the answers keep;
* `Session.turns` -- the turns of an operation over a session: one for each call.
-/

namespace StorageBroker

namespace Dialogue

variable {S T : Signature} {σ τ α β : Type}

/-- A question of a delegated dialogue with its answer and all that was asked on for it. -/
structure Turn (S T : Signature) where
  event : Event S
  sent : List (Event T)

/-- **The turns of a delegated dialogue** in a world. -/
def turns (answer : (q : S.Question) → τ → Dialogue T (S.Answer q × τ)) (w : World T σ) :
    Dialogue S α → τ → σ → List (Turn S T)
  | .done _, _, _ => []
  | .ask q next, t, s =>
    let o := run w (answer q t) s
    ⟨⟨q, o.result.1⟩, o.events⟩ :: turns answer w (next o.result.1) o.result.2 o.state

variable (answer : (q : S.Question) → τ → Dialogue T (S.Answer q × τ)) (w : World T σ)

/-! ## 1. The two readings of the turns -/

theorem course_turns (d : Dialogue S α) (t : τ) (s : σ) :
    Course d ((turns answer w d t s).map Turn.event) (run w (delegate answer d t) s).result.1 := by
  induction d generalizing t s with
  | done a => exact .done a
  | ask q next ih =>
    rw [delegate, run_bind]
    exact .ask (ih _ _ _)

/-- **Nothing is asked outside of the turns.** -/
theorem events_delegate (d : Dialogue S α) (t : τ) (s : σ) :
    (run w (delegate answer d t) s).events = (turns answer w d t s).flatMap Turn.sent := by
  induction d generalizing t s with
  | done a => rfl
  | ask q next ih =>
    rw [delegate, run_bind, turns, List.flatMap_cons, ← ih]

/-! ## 2. One turn -/

/-- A turn is answered in a state with a property that all answers keep. -/
def Answered (Keeps : τ → Prop) (turn : Turn S T) : Prop :=
  ∃ t t', Keeps t ∧ Keeps t' ∧
    Course (answer turn.event.question t) turn.sent (turn.event.answer, t')

variable {answer} {Keeps : τ → Prop}

/-- What every answer keeps holds at every turn and at the end. -/
theorem turns_answered
    (hkeeps : ∀ q t es x, Keeps t → Course (answer q t) es x → Keeps x.2)
    (d : Dialogue S α) {t : τ} (ht : Keeps t) (s : σ) :
    (∀ turn ∈ turns answer w d t s, Answered answer Keeps turn) ∧
      Keeps (run w (delegate answer d t) s).result.2 := by
  induction d generalizing t s with
  | done a => exact ⟨fun _ h => absurd h List.not_mem_nil, ht⟩
  | ask q next ih =>
    have hfirst := course_run w (answer q t) s
    have hnext := hkeeps _ _ _ _ ht hfirst
    obtain ⟨hturns, hend⟩ := ih (run w (answer q t) s).result.1 hnext (run w (answer q t) s).state
    rw [delegate, run_bind]
    refine ⟨fun turn hturn => ?_, hend⟩
    rcases List.mem_cons.1 hturn with rfl | hturn
    · exact ⟨t, _, ht, hnext, hfirst⟩
    · exact hturns turn hturn

end Dialogue

/-! ## 3. Operations over a session -/

namespace Session

variable {σ α : Type}

/-- **The turns of an operation over a session**: its calls and its questions to the object
storage, each with the requests that the session sent for it. -/
def turns (w : Dialogue.World Wire σ) (d : Dialogue Remote α) (s : Session) (st : σ) :
    List (Dialogue.Turn Remote Wire) :=
  Dialogue.turns (S := Remote) serve w d s st

variable (w : Dialogue.World Wire σ) (d : Dialogue Remote α) (s : Session) (st : σ)

theorem turns_ask {q : Signature.Question Remote}
    {next : Signature.Answer Remote q → Dialogue Remote α} :
    turns w (.ask q next) s st =
      let o := Dialogue.run w (serve q s) st
      ⟨⟨q, o.result.1⟩, o.events⟩ :: turns w (next o.result.1) o.result.2 o.state := rfl

theorem run_carryOut_ask {q : Signature.Question Remote}
    {next : Signature.Answer Remote q → Dialogue Remote α} :
    Dialogue.run w (carryOut (.ask q next) s) st =
      let o := Dialogue.run w (serve q s) st
      let p := Dialogue.run w (carryOut (next o.result.1) o.result.2) o.state
      ⟨p.result, o.events ++ p.events, p.state⟩ :=
  Dialogue.run_bind w (serve q s) (fun r => carryOut (next r.1) r.2) st

/-- **Two operations in a row** are carried out in a row: the second one begins with the session
that the first one has left. -/
theorem run_carryOut_bind {β : Type} (f : α → Dialogue Remote β) :
    Dialogue.run w (carryOut (d >>= f) s) st =
      let o := Dialogue.run w (carryOut d s) st
      let p := Dialogue.run w (carryOut (f o.result.1) o.result.2) o.state
      ⟨p.result, o.events ++ p.events, p.state⟩ := by
  have hbind : carryOut (d >>= f) s = (carryOut d s >>= fun r => carryOut (f r.1) r.2) :=
    Dialogue.delegate_bind (S := Remote) serve d f s
  rw [hbind, Dialogue.run_bind]

/-- **An operation over a session goes one of its own ways**: its calls end as the session lets
them end. -/
theorem course_carryOut :
    d.Course ((turns w d s st).map Dialogue.Turn.event)
      (Dialogue.run w (carryOut d s) st).result.1 :=
  Dialogue.course_turns (S := Remote) serve w d s st

theorem events_carryOut :
    (Dialogue.run w (carryOut d s) st).events = (turns w d s st).flatMap Dialogue.Turn.sent :=
  Dialogue.events_delegate (S := Remote) serve w d s st

end Session

end StorageBroker
