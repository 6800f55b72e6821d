/-!
# Dialogues

A computation that needs the outside world is a tree of questions: it is either done, or asks one
question and goes on with the answer. Nothing happens in the tree itself; a `World` answers the
questions, and `Dialogue.run` gives the result together with what was asked and answered, in order.

* `run_bind` -- two dialogues one after the other: the events of the first come first;
* `delegate_bind` -- replacing every question by a dialogue in other questions keeps sequencing.
-/

namespace StorageBroker

/-! ## 1. Questions and dialogues -/

/-- The questions that a computation may ask, and what an answer to each of them is. -/
structure Signature where
  Question : Type
  Answer : Question → Type

/-- A computation that is done or goes on with the answer to a question. -/
inductive Dialogue (S : Signature) (α : Type) where
  | done (a : α)
  | ask (q : S.Question) (next : S.Answer q → Dialogue S α)

namespace Dialogue

variable {S T : Signature} {α β γ : Type}

/-- Goes on where a dialogue is done. -/
def bind : Dialogue S α → (α → Dialogue S β) → Dialogue S β
  | .done a, f => f a
  | .ask q next, f => .ask q fun a => bind (next a) f

instance : Monad (Dialogue S) where
  pure := .done
  bind := bind

theorem pure_eq (a : α) : (pure a : Dialogue S α) = .done a := rfl

theorem done_bind (a : α) (f : α → Dialogue S β) : (Dialogue.done a >>= f) = f a := rfl

theorem ask_bind (q : S.Question) (next : S.Answer q → Dialogue S α) (f : α → Dialogue S β) :
    (Dialogue.ask q next >>= f) = .ask q fun a => next a >>= f := rfl

theorem bind_done (d : Dialogue S α) : (d >>= Dialogue.done) = d := by
  induction d with
  | done a => rfl
  | ask q next ih => rw [ask_bind]; congr 1; funext a; exact ih a

theorem bind_assoc (d : Dialogue S α) (f : α → Dialogue S β) (g : β → Dialogue S γ) :
    ((d >>= f) >>= g) = (d >>= fun a => f a >>= g) := by
  induction d with
  | done a => rfl
  | ask q next ih =>
    simp only [ask_bind]
    congr 1
    funext a
    exact ih a

/-- Asks one question and gives its answer. -/
def question (q : S.Question) : Dialogue S (S.Answer q) := .ask q .done

/-! ## 2. Worlds -/

/-- What answers questions: each answer may depend on the state that the earlier ones left. -/
structure World (S : Signature) (σ : Type) where
  answer : (q : S.Question) → σ → S.Answer q × σ

/-- A question with the answer it got. -/
structure Event (S : Signature) where
  question : S.Question
  answer : S.Answer question

/-- A finished dialogue: its result, the events in order, and the world's state after it. -/
structure Outcome (S : Signature) (σ α : Type) where
  result : α
  events : List (Event S)
  state : σ

/-- **Runs a dialogue in a world.** -/
def run {σ : Type} (w : World S σ) : Dialogue S α → σ → Outcome S σ α
  | .done a, s => ⟨a, [], s⟩
  | .ask q next, s =>
    let (a, s') := w.answer q s
    let o := run w (next a) s'
    ⟨o.result, ⟨q, a⟩ :: o.events, o.state⟩

variable {σ : Type}

theorem run_done (w : World S σ) (a : α) (s : σ) : run w (.done a) s = ⟨a, [], s⟩ := rfl

theorem run_ask (w : World S σ) (q : S.Question) (next : S.Answer q → Dialogue S α) (s : σ) :
    run w (.ask q next) s =
      let o := run w (next (w.answer q s).1) (w.answer q s).2
      ⟨o.result, ⟨q, (w.answer q s).1⟩ :: o.events, o.state⟩ := rfl

/-- **The run of two dialogues in a row** is the run of the first and then that of the second. -/
theorem run_bind (w : World S σ) (d : Dialogue S α) (f : α → Dialogue S β) (s : σ) :
    run w (d >>= f) s =
      let o := run w d s
      let p := run w (f o.result) o.state
      ⟨p.result, o.events ++ p.events, p.state⟩ := by
  induction d generalizing s with
  | done a => rfl
  | ask q next ih => simp only [ask_bind, run_ask, ih, List.cons_append]

/-! ## 3. Delegation -/

/-- Answers the questions of one signature by dialogues in another one, with a state of its own. -/
def delegate {τ : Type} (answer : (q : S.Question) → τ → Dialogue T (S.Answer q × τ)) :
    Dialogue S α → τ → Dialogue T (α × τ)
  | .done a, t => .done (a, t)
  | .ask q next, t => answer q t >>= fun r => delegate answer (next r.1) r.2

theorem delegate_bind {τ : Type} (answer : (q : S.Question) → τ → Dialogue T (S.Answer q × τ))
    (d : Dialogue S α) (f : α → Dialogue S β) (t : τ) :
    delegate answer (d >>= f) t =
      (delegate answer d t >>= fun r => delegate answer (f r.1) r.2) := by
  induction d generalizing t with
  | done a => rfl
  | ask q next ih => simp only [ask_bind, delegate, ih, bind_assoc]

end Dialogue

end StorageBroker
