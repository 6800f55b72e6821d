import StorageBroker.Configuration
import StorageBroker.Proofs.Parallel
import StorageBroker.Proofs.Session.Delivery
/-!
# What the password reaches

The password of a session goes into its logins and nowhere else. Two sessions that differ in it
alone send the same requests but for the password of the logins, wait for the same times and ask
the storage the same, and they give the same results, faults and texts. A configuration does not
tell its password either, in the way it is shown or in the faults of what it is made from.

* `Dialogue.Veiled` -- dialogues that differ in the password of their logins only;
* `Session.Discreet` -- steps of a session that give rise to such dialogues for two passwords;
* `Session.uses` -- whatever is done with a session, one after the other;
* `password_reaches_logins_only` -- on every row of uses, for any two passwords.
-/

namespace StorageBroker

/-! ## 1. Dialogues that differ in a password -/

/-- An event without the password of a login. -/
def Dialogue.Event.masked : Dialogue.Event Wire → Dialogue.Event Wire
  | ⟨.http (.login url username _ verify timeout), x⟩ =>
    ⟨.http (.login url username .null verify timeout), x⟩
  | e => e

/-- **A world that answers two passwords alike.** -/
def Dialogue.World.Blind {σ : Type} (w : Dialogue.World Wire σ) (p p' : Value) : Prop :=
  ∀ url username verify timeout st,
    w.answer (.http (.login url username p verify timeout)) st =
      w.answer (.http (.login url username p' verify timeout)) st

namespace Dialogue

variable {α β γ δ : Type} {p p' : Value}

/-- **Dialogues that ask the same questions**, but for the passwords `p` and `p'` of their logins,
and end in related results. -/
inductive Veiled (p p' : Value) (R : α → β → Prop) : Dialogue Wire α → Dialogue Wire β → Prop where
  | done {a : α} {b : β} (h : R a b) : Veiled p p' R (.done a) (.done b)
  | login {url : Text} {username verify timeout : Value} {next : Reply → Dialogue Wire α}
      {next' : Reply → Dialogue Wire β} (h : ∀ x, Veiled p p' R (next x) (next' x)) :
      Veiled p p' R (@ask Wire _ (.http (.login url username p verify timeout)) next)
        (@ask Wire _ (.http (.login url username p' verify timeout)) next')
  | ask {q : Signature.Question Wire} {next : Signature.Answer Wire q → Dialogue Wire α}
      {next' : Signature.Answer Wire q → Dialogue Wire β}
      (h : ∀ x, Veiled p p' R (next x) (next' x)) : Veiled p p' R (.ask q next) (.ask q next')

variable {R : α → β → Prop} {R' : γ → δ → Prop} {d : Dialogue Wire α} {d' : Dialogue Wire β}

theorem veiled_refl {R : α → α → Prop} (hR : ∀ a, R a a) (d : Dialogue Wire α) :
    Veiled p p' R d d := by
  induction d with
  | done a => exact .done (hR a)
  | ask q next ih => exact .ask ih

/-- **Dialogues that go on in the same way** differ no more than before. -/
theorem Veiled.bind {f : α → Dialogue Wire γ} {g : β → Dialogue Wire δ} (h : Veiled p p' R d d')
    (hf : ∀ a b, R a b → Veiled p p' R' (f a) (g b)) : Veiled p p' R' (d >>= f) (d' >>= g) := by
  induction h with
  | done h => exact hf _ _ h
  | login _ ih => exact .login ih
  | ask _ ih => exact .ask ih

theorem run_login {σ : Type} (w : World Wire σ) (url : Text)
    (username password verify timeout : Value) (next : Reply → Dialogue Wire α) (st : σ) :
    Dialogue.run w (@ask Wire _ (.http (.login url username password verify timeout)) next) st =
      let a : Reply × σ := w.answer (.http (.login url username password verify timeout)) st
      let o := Dialogue.run w (next a.1) a.2
      ⟨o.result, ⟨.http (.login url username password verify timeout), a.1⟩ :: o.events, o.state⟩ :=
  rfl

/-- **In a world that is blind to the passwords** such dialogues have the same events without them,
and leave the world the same. -/
theorem Veiled.run {σ : Type} {w : World Wire σ} (hw : w.Blind p p') (h : Veiled p p' R d d')
    (st : σ) :
    (Dialogue.run w d st).events.map Event.masked =
        (Dialogue.run w d' st).events.map Event.masked ∧
      (Dialogue.run w d st).state = (Dialogue.run w d' st).state ∧
      R (Dialogue.run w d st).result (Dialogue.run w d' st).result := by
  induction h generalizing st with
  | done h => exact ⟨rfl, rfl, h⟩
  | @login url username verify timeout next next' _ ih =>
    rw [run_login, run_login, ← hw url username verify timeout st]
    let a : Reply × σ := w.answer (.http (.login url username p verify timeout)) st
    obtain ⟨hevents, hstate, hresult⟩ := ih a.1 a.2
    exact ⟨congrArg (List.cons _) hevents, hstate, hresult⟩
  | @ask q next next' _ ih =>
    obtain ⟨hevents, hstate, hresult⟩ := ih (w.answer q st).1 (w.answer q st).2
    rw [run_ask, run_ask]
    exact ⟨congrArg (List.cons _) hevents, hstate, hresult⟩

end Dialogue

/-! ## 2. Steps of a session -/

namespace Session

open Dialogue (Veiled)

variable {α β : Type} {p p' : Value}

def withPassword (s : Session) (p : Value) : Session := { s with password := p }

/-- The same result, with sessions that differ in their password only. -/
inductive Twin (p p' : Value) : α × Session → α × Session → Prop where
  | mk (a : α) (s : Session) : Twin p p' (a, s.withPassword p) (a, s.withPassword p')

theorem Twin.parts {r r' : α × Session} (h : Twin p p' r r') :
    r.1 = r'.1 ∧ ∃ s : Session, r.2 = s.withPassword p ∧ r'.2 = s.withPassword p' := by
  cases h with
  | mk a s => exact ⟨rfl, s, rfl, rfl⟩

/-- **Dialogues that go on from the same result** differ no more than before. -/
theorem veiled_bind {d d' : Dialogue Wire (α × Session)}
    {f g : α × Session → Dialogue Wire (β × Session)} (h : Veiled p p' (Twin p p') d d')
    (hf : ∀ a s, Veiled p p' (Twin p p') (f (a, withPassword s p)) (g (a, withPassword s p'))) :
    Veiled p p' (Twin p p') (d >>= f) (d' >>= g) := by
  refine h.bind fun r r' hr => ?_
  cases hr with
  | mk a s => exact hf a s

/-- **Steps that keep the password to their logins**, `p` on the first side and `p'` on the other
one. -/
def Discreet (p p' : Value) (x y : Step α) : Prop :=
  ∀ s : Session, Veiled p p' (Twin p p') (x.run (s.withPassword p)) (y.run (s.withPassword p'))

theorem discreet_pure (a : α) : Discreet p p' (pure a : Step α) (pure a) :=
  fun s => .done (.mk _ s)

theorem discreet_throw (f : Fault) : Discreet p p' (throw f : Step α) (throw f) :=
  fun s => .done (.mk _ s)

theorem discreet_lift (x : Except Fault α) : Discreet p p' (liftM x : Step α) (liftM x) :=
  fun s => .done (.mk _ s)

theorem discreet_lift_malformed (x : Except Malformed α) :
    Discreet p p' (liftM x : Step α) (liftM x) :=
  fun s => .done (.mk _ s)

theorem discreet_perform (d : Dialogue Wire α) :
    Discreet p p' (Action.perform d : Step α) (Action.perform d) := by
  intro s
  rw [Action.perform_run, Action.perform_run]
  have hsame : Veiled p p' Eq d d := Dialogue.veiled_refl (fun _ => rfl) d
  refine hsame.bind fun a _ h => ?_
  rw [h]
  exact .done (.mk _ s)

/-- Giving up a token, or taking one, has nothing to do with the password. -/
theorem discreet_modify {f : Session → Session}
    (hf : ∀ s q, f (withPassword s q) = (f s).withPassword q) :
    Discreet p p' (modify f : Step PUnit) (modify f) := by
  intro s
  have htwin : Twin p p' (Except.ok (ε := Fault) (), f (s.withPassword p))
      (.ok (), f (s.withPassword p')) := by
    rw [hf, hf]
    exact .mk _ (f s)
  exact .done htwin

/-- **Two discreet steps in a row**: if the first ones fail the second ones are not begun. -/
theorem Discreet.bind {x y : Step α} {f g : α → Step β} (hx : Discreet p p' x y)
    (hf : ∀ a, Discreet p p' (f a) (g a)) : Discreet p p' (x >>= f) (y >>= g) := by
  intro s
  rw [Action.bind_run, Action.bind_run]
  refine veiled_bind (hx s) fun r s₁ => ?_
  cases r with
  | ok a => exact hf a s₁
  | error e => exact .done (.mk _ s₁)

theorem Discreet.get_bind {f g : Session → Step α}
    (hf : ∀ s, Discreet p p' (f (withPassword s p)) (g (withPassword s p'))) :
    Discreet p p' (get >>= f) (get >>= g) :=
  fun s => hf s s

theorem Discreet.attempt {x y : Step α} (hx : Discreet p p' x y) :
    Discreet p p' x.attempt y.attempt := by
  intro s
  rw [Action.attempt_run, Action.attempt_run]
  exact veiled_bind (hx s) fun r s₁ => .done (.mk _ s₁)

theorem Discreet.ite {x x' y y' : Step α} (hx : Discreet p p' x x') (hy : Discreet p p' y y')
    (b : Bool) : Discreet p p' (if b then x else y) (if b then x' else y') := by
  cases b with
  | true => exact hx
  | false => exact hy

/-! ## 3. Logins and requests -/

/-- A check sees of attributes only which ones are set. -/
theorem checkAll_congr {operation : Text} {a b : Mapping}
    (h : ∀ name, Completeness.isSet a name = Completeness.isSet b name) (names : List Value) :
    Completeness.checkAll operation a names = Completeness.checkAll operation b names := by
  induction names with
  | nil => rfl
  | cons name names ih =>
    have hone : Completeness.checkOne operation a name =
        Completeness.checkOne operation b name := by
      cases name with
      | text n => simp only [Completeness.checkOne, h n]
      | _ => rfl
    rw [Completeness.checkAll, Completeness.checkAll, hone, ih]

/-- A session can log in with the one password if it can with the other. -/
theorem check_withPassword (hp : p.truthy) (hp' : p'.truthy) (s : Session) :
    Completeness.check "login" loginNeeds (s.withPassword p).loginAttributes =
      Completeness.check "login" loginNeeds (s.withPassword p').loginAttributes := by
  have hset : ∀ name, Completeness.isSet (s.withPassword p).loginAttributes name =
      Completeness.isSet (s.withPassword p').loginAttributes name := by
    intro name
    simp only [Completeness.isSet, loginAttributes, Mapping.ofNamed, List.map_cons, List.map_nil,
      Mapping.get_cons, Mapping.text_equal_text, withPassword]
    by_cases hname : name = "password"
    · simp [hname, hp, hp']
    · simp [hname]
  unfold Completeness.check
  cases Record.itemsOrNone loginNeeds with
  | ok names => exact checkAll_congr hset names
  | error m => rfl

/-- **A login sends the password**, and does nothing else with it. -/
theorem discreet_login (hp : p.truthy) (hp' : p'.truthy) : Discreet p p' login login := by
  refine .get_bind fun s => ?_
  rw [check_withPassword hp hp']
  refine (discreet_lift _).bind fun _ => (discreet_lift_malformed _).bind fun u => ?_
  have hsend : Discreet p p'
      (Action.perform (Wire.send (.login u s.username p s.verifySsl s.timeout)))
      (Action.perform (Wire.send (.login u s.username p' s.verifySsl s.timeout))) := by
    intro t
    exact .login fun x => .done (.mk _ t)
  refine hsend.bind fun reply => ?_
  cases reply with
  | impossible m => exact discreet_throw _
  | failure m => exact discreet_throw _
  | response r =>
    exact (discreet_lift _).bind fun t => discreet_modify fun _ _ => rfl

theorem discreet_forget : Discreet p p' forget forget := discreet_modify fun _ _ => rfl

theorem discreet_send (method : Value) (url : Text) (params : Mapping) (body headers : Value) :
    Discreet p p' (send method url params body headers) (send method url params body headers) := by
  refine (discreet_lift_malformed _).bind fun own => .get_bind fun s => ?_
  refine (discreet_perform _).bind fun reply => ?_
  cases reply with
  | impossible m => exact discreet_throw _
  | failure m => exact discreet_throw _
  | response r => exact discreet_pure r

theorem discreet_logout : Discreet p p' logout logout := by
  refine .get_bind fun s => .ite ?_ (discreet_pure ()) s.isLoggedIn
  refine (Discreet.attempt (.get_bind fun s => ?_)).bind fun outcome => ?_
  · exact (discreet_lift_malformed _).bind fun u =>
      (discreet_send _ _ _ _ _).bind fun _ => discreet_pure ()
  · refine discreet_forget.bind fun _ => ?_
    cases outcome with
    | ok _ => exact discreet_pure ()
    | error f => exact discreet_throw f

theorem discreet_deliver (hp : p.truthy) (hp' : p'.truthy) (c : Call) (url : Text) :
    Discreet p p' (deliver c url) (deliver c url) := by
  unfold deliver
  refine (discreet_send _ _ _ _ _).bind fun first => ?_
  split
  · exact discreet_forget.bind fun _ => (discreet_login hp hp').bind fun _ =>
      discreet_send _ _ _ _ _
  · exact discreet_pure first

theorem discreet_exchange (hp : p.truthy) (hp' : p'.truthy) (c : Call) :
    Discreet p p' (exchange c) (exchange c) := by
  have hrest : Discreet p p' (do
      let u ← (← get).urlText c.path
      accept c (← deliver c u)) (do
      let u ← (← get).urlText c.path
      accept c (← deliver c u)) :=
    .get_bind fun s => (discreet_lift_malformed _).bind fun u =>
      (discreet_deliver hp hp' c u).bind fun r => discreet_lift _
  exact .get_bind fun s =>
    .ite ((discreet_login hp hp').bind fun _ => hrest) hrest (!s.isLoggedIn)

/-! ## 4. Attempts -/

/-- A wait is the same with any password. -/
theorem discreet_wait (policy : Retry.Policy) (delay : Number) :
    Discreet p p' (Retry.wait policy delay) (Retry.wait policy delay) := by
  unfold Retry.wait
  split
  · refine (discreet_perform _).bind fun r => (discreet_lift_malformed _).bind fun _ =>
      (discreet_lift_malformed _).bind fun d => (discreet_pure _).bind fun extra => ?_
    dsimp only
    split
    · exact (discreet_lift_malformed _).bind fun _ => discreet_perform _
    · exact discreet_throw _
  · refine (discreet_pure _).bind fun extra => ?_
    dsimp only
    split
    · exact (discreet_lift_malformed _).bind fun _ => discreet_perform _
    · exact discreet_throw _

theorem discreet_loop (policy : Retry.Policy) (codes : Value) {x : Step α} (hx : Discreet p p' x x)
    (left n : Nat) (delay : Number) :
    Discreet p p' (Retry.loop policy codes x left n delay)
      (Retry.loop policy codes x left n delay) := by
  induction left generalizing n delay with
  | zero => exact hx
  | succ left ih =>
    unfold Retry.loop
    refine hx.attempt.bind fun outcome => ?_
    cases outcome with
    | ok a => exact discreet_pure a
    | error f =>
      refine (discreet_lift_malformed _).bind fun again => ?_
      cases again with
      | false => exact discreet_throw f
      | true =>
        exact (discreet_lift_malformed _).bind fun delay =>
          (discreet_wait policy delay).bind fun _ => ih (n + 1) delay

theorem discreet_retrying (policy : Option Retry.Policy) (codes : Value) {x : Step α}
    (hx : Discreet p p' x x) :
    Discreet p p' (Retry.retrying policy codes x) (Retry.retrying policy codes x) := by
  unfold Retry.retrying
  split
  · exact hx
  · split
    · exact discreet_loop _ _ hx _ _ _
    · refine hx.attempt.bind fun outcome => ?_
      split
      · exact discreet_pure _
      · exact discreet_throw _
      · exact discreet_throw _

theorem discreet_request (hp : p.truthy) (hp' : p'.truthy) (c : Call) :
    Discreet p p' (request c) (request c) := by
  unfold request
  split
  · exact .get_bind fun s => discreet_retrying _ _ (discreet_exchange hp hp' c)
  · exact discreet_exchange hp hp' c

/-! ## 5. Whatever is done with a session -/

/-- Operations keep the password to their logins, whatever they are made of: all that they get to
know of a session is what comes of their calls. -/
theorem veiled_carryOut (hp : p.truthy) (hp' : p'.truthy) (d : Dialogue Remote α) (s : Session) :
    Veiled p p' (Twin p p') (carryOut d (s.withPassword p)) (carryOut d (s.withPassword p')) := by
  induction d generalizing s with
  | done a => exact .done (.mk a s)
  | ask q next ih =>
    have hserve : Veiled p p' (Twin p p') (serve q (s.withPassword p))
        (serve q (s.withPassword p')) := by
      cases q with
      | call c => exact discreet_request hp hp' c s
      | storage q => exact .ask fun x => .done (.mk x s)
    exact veiled_bind hserve ih

/-- What is done with a session: operations are carried out over it with a state of their own, `τ`,
and give results of `α`. -/
inductive Use (τ α : Type) where
  | login
  | request (c : Call)
  | logout
  | text
  | shown
  | operation (x : Action Remote τ α)

/-- What a use of a session gives. -/
inductive Use.Result (α : Type) where
  | nothing
  | response (r : Response)
  | text (v : Value)
  | shown (s : Text)
  | operation (a : α)

variable {τ : Type}

/-- One use of a session. -/
def Use.run : Use τ α → τ → Session → Dialogue Wire ((Except Fault (Use.Result α) × τ) × Session)
  | .login, t, s => Session.login.run s >>= fun r => .done ((r.1.map fun _ => .nothing, t), r.2)
  | .request c, t, s => (Session.request c).run s >>= fun r => .done ((r.1.map .response, t), r.2)
  | .logout, t, s => Session.logout.run s >>= fun r => .done ((r.1.map fun _ => .nothing, t), r.2)
  | .text, t, s => .done ((.ok (.text s.text), t), s)
  | .shown, t, s => .done ((.ok (.shown s.shown), t), s)
  | .operation x, t, s =>
    carryOut (x.run t) s >>= fun r => .done ((r.1.1.map .operation, r.1.2), r.2)

/-- **Uses of a session one after the other**; that one of them fails is no end of them. -/
def uses : List (Use τ α) → τ → Session →
    Dialogue Wire ((List (Except Fault (Use.Result α)) × τ) × Session)
  | [], t, s => .done (([], t), s)
  | u :: us, t, s => u.run t s >>= fun r =>
    uses us r.1.2 r.2 >>= fun rs => .done ((r.1.1 :: rs.1.1, rs.1.2), rs.2)

theorem veiled_use (hp : p.truthy) (hp' : p'.truthy) (u : Use τ α) (t : τ) (s : Session) :
    Veiled p p' (Twin p p') (u.run t (s.withPassword p)) (u.run t (s.withPassword p')) := by
  cases u with
  | login => exact veiled_bind (discreet_login hp hp' s) fun _ s₁ => .done (.mk _ s₁)
  | request c => exact veiled_bind (discreet_request hp hp' c s) fun _ s₁ => .done (.mk _ s₁)
  | logout => exact veiled_bind (discreet_logout s) fun _ s₁ => .done (.mk _ s₁)
  | text => exact .done (.mk _ s)
  | shown => exact .done (.mk _ s)
  | operation x =>
    exact veiled_bind (veiled_carryOut hp hp' (x.run t) s) fun _ s₁ => .done (.mk _ s₁)

theorem veiled_uses (hp : p.truthy) (hp' : p'.truthy) (us : List (Use τ α)) (t : τ)
    (s : Session) :
    Veiled p p' (Twin p p') (uses us t (s.withPassword p)) (uses us t (s.withPassword p')) := by
  induction us generalizing t s with
  | nil => exact .done (.mk _ s)
  | cons u us ih =>
    exact veiled_bind (veiled_use hp hp' u t s) fun r s₁ =>
      veiled_bind (ih r.2 s₁) fun _ s₂ => .done (.mk _ s₂)

end Session

/-! ## 6. Configurations -/

namespace Configuration

/-- The name of the setting of the password. -/
def passwordName : Text := Setting.password.name

/-- Configurations that agree on every setting but the password. -/
def Agree (c c' : Configuration) : Prop := ∀ k, k ≠ .password → c.value k = c'.value k

theorem Agree.set {c c' : Configuration} (h : Agree c c') (k : Setting) (v : Value) :
    Agree (c.set k v) (c'.set k v) := by
  intro j hj
  rw [value_set, value_set]
  split
  · rfl
  · exact h j hj

theorem Agree.set_password {c c' : Configuration} (h : Agree c c') (v : Value) :
    Agree (c.set .password v) c' := by
  intro j hj
  rw [value_set, if_neg hj]
  exact h j hj

/-- A configuration is shown without its password. -/
theorem Agree.shown {c c' : Configuration} (h : Agree c c') : c.shown = c'.shown := by
  have hmap : Setting.shown.map (fun k => k.name ++ "=" ++ (c.value k).quoted) =
      Setting.shown.map (fun k => k.name ++ "=" ++ (c'.value k).quoted) :=
    List.map_congr_left fun k hk => by rw [h k ((Setting.mem_shown_iff k).1 hk)]
  unfold Configuration.shown
  rw [hmap]

/-- The password is not among the needed settings. -/
theorem Agree.completed {c c' : Configuration} (h : Agree c c') :
    c.complete.map Configuration.shown = c'.complete.map Configuration.shown := by
  have hmissing : c.missing = c'.missing := by
    unfold missing
    refine List.filter_congr fun k hk => ?_
    have hk' : k ≠ .password := by
      rintro rfl
      revert hk
      decide
    rw [h k hk']
  unfold complete
  rw [hmissing]
  split
  · exact congrArg Except.ok h.shown
  · rfl

theorem setNamed_of_some {e : Text × Value} {k : Setting} (c : Configuration)
    (h : Setting.ofName? (canonicalName e.1) = some k) : c.setNamed e = .ok (c.set k e.2) := by
  simp only [setNamed, h]

theorem setNamed_of_none {e : Text × Value} (c : Configuration)
    (h : Setting.ofName? (canonicalName e.1) = none) :
    c.setNamed e = .error (.configuration ("Unknown broker setting: " ++ canonicalName e.1)) := by
  simp only [setNamed, h]

theorem ofName?_password : Setting.ofName? (canonicalName passwordName) = some .password := by
  have hname : canonicalName passwordName = Setting.password.name := by decide
  rw [hname]
  exact Setting.ofName?_name .password

/-- **An entry of the password is as good as none**, for all that a configuration shows. -/
theorem foldlM_setNamed (es : List (Text × Value)) {c c' : Configuration} (h : Agree c c') :
    (es.foldlM setNamed c >>= complete).map Configuration.shown =
      ((es.filter fun e => e.1 ≠ passwordName).foldlM setNamed c' >>= complete).map
        Configuration.shown := by
  induction es generalizing c c' with
  | nil => exact h.completed
  | cons e es ih =>
    rw [List.foldlM_cons]
    by_cases hname : e.1 = passwordName
    · rw [List.filter_cons_of_neg (by simpa using hname),
        setNamed_of_some c (hname ▸ ofName?_password)]
      exact ih (h.set_password e.2)
    · rw [List.filter_cons_of_pos (by simpa using hname), List.foldlM_cons]
      cases hk : Setting.ofName? (canonicalName e.1) with
      | some k =>
        rw [setNamed_of_some c hk, setNamed_of_some c' hk]
        exact ih (h.set k e.2)
      | none =>
        rw [setNamed_of_none c hk, setNamed_of_none c' hk]
        rfl

theorem named_cons_text (name : Text) (v : Value) (m : Mapping) :
    Mapping.named ((.text name, v) :: m) = (Mapping.named m).map fun es => (name, v) :: es := by
  rw [Mapping.named, List.mapM_cons, ← Mapping.named]
  cases Mapping.named m <;> rfl

theorem named_erase (m : Mapping) (name : Text) :
    Mapping.named (Mapping.erase m name) =
      (Mapping.named m).map fun es => es.filter fun e => e.1 ≠ name := by
  induction m with
  | nil => rfl
  | cons e m ih =>
    obtain ⟨k, v⟩ := e
    unfold Mapping.erase at ih ⊢
    cases k with
    | text n =>
      rw [named_cons_text]
      by_cases hn : name = n
      · rw [List.filter_cons_of_neg (by simp [Mapping.text_equal_text, hn]), ih]
        cases Mapping.named m with
        | error f => rfl
        | ok es => simp [Except.map, hn]
      · rw [List.filter_cons_of_pos (by simp [Mapping.text_equal_text, hn]), named_cons_text, ih]
        cases Mapping.named m with
        | error f => rfl
        | ok es => simp [Except.map, Ne.symm hn]
    | _ =>
      have hkept : ∀ w : Value, (∀ n, w ≠ .text n) → (Value.text name).equal w = false := by
        intro w hw
        rw [Bool.eq_false_iff, ne_eq, Value.equal_text_iff]
        exact hw name
      rw [List.filter_cons_of_pos (by rw [hkept _ fun n => by simp]; rfl)]
      rfl

theorem any_self_filter (es : List (Text × Value)) :
    ((es.filter fun e => e.1 ≠ passwordName).any fun e => e.1 == "self") =
      es.any fun e => e.1 == "self" := by
  rw [List.any_filter]
  congr 1
  funext e
  by_cases he : e.1 = "self"
  · simp [he]
    decide
  · simp [he]

theorem namedEntries_erase (m : Mapping) :
    namedEntries (Mapping.erase m passwordName) =
      (namedEntries m).map fun es => es.filter fun e => e.1 ≠ passwordName := by
  unfold namedEntries
  rw [named_erase]
  cases Mapping.named m with
  | error f => rfl
  | ok es =>
    show (if _ then _ else _) = Except.map _ (if _ then _ else _)
    rw [any_self_filter]
    split
    · rfl
    · rfl

/-- **What a configuration shows, and how it fails, does not depend on its password.** -/
theorem shown_ofData_erase (m : Mapping) :
    (ofData (.mapping m)).map Configuration.shown =
      (ofData (.mapping (Mapping.erase m passwordName))).map Configuration.shown := by
  have hdata : ∀ n : Mapping,
      ofData (.mapping n) = (liftM (namedEntries n) : Except Fault _) >>= ofEntries := by
    intro n
    cases n with
    | nil => rfl
    | cons e n => rfl
  rw [hdata, hdata, namedEntries_erase]
  cases namedEntries m with
  | error f => rfl
  | ok es => exact foldlM_setNamed es fun _ _ => rfl

end Configuration

/-! ## 7. The password -/

/-- **The password reaches nothing but the logins.** Two sessions that differ in nothing but
passwords which both count as true are used alike, in a world that answers logins with the one as
with the other. Then all uses give the same results and fail with the same faults, and all that is
sent, asked of the storage, waited for and drawn is the same but for the passwords of the logins.
Configurations from data that differs in nothing but the password are shown alike and fail alike. -/
theorem password_reaches_logins_only {σ τ α : Type} (w : Dialogue.World Wire σ) {p p' : Value}
    (hw : w.Blind p p') (hp : p.truthy) (hp' : p'.truthy) (s : Session)
    (us : List (Session.Use τ α)) (t : τ) (st : σ) :
    let o := Dialogue.run w (Session.uses us t (s.withPassword p)) st
    let o' := Dialogue.run w (Session.uses us t (s.withPassword p')) st
    (o.result.1 = o'.result.1 ∧ o.state = o'.state ∧
      o.events.map Dialogue.Event.masked = o'.events.map Dialogue.Event.masked ∧
      ∃ s₁ : Session, o.result.2 = s₁.withPassword p ∧ o'.result.2 = s₁.withPassword p') ∧
    ∀ m m' : Mapping,
      Mapping.erase m Setting.password.name = Mapping.erase m' Setting.password.name →
      (Configuration.ofData (.mapping m)).map Configuration.shown =
        (Configuration.ofData (.mapping m')).map Configuration.shown := by
  intro o o'
  refine ⟨?_, fun m m' hm => ?_⟩
  · obtain ⟨hevents, hstate, htwin⟩ := (Session.veiled_uses hp hp' us t s).run hw st
    obtain ⟨hresult, hsession⟩ := htwin.parts
    exact ⟨hresult, hstate, hevents, hsession⟩
  · rw [Configuration.shown_ofData_erase m, Configuration.shown_ofData_erase m']
    exact congrArg _ (congrArg _ (congrArg _ hm))

/-- A rehearsal answers every login as the server is set, whatever the password is. -/
theorem blind_rehearsal (p p' : Value) : Rehearsal.world.Blind p p' :=
  fun _ _ _ _ _ => rfl

/-- Data of a configuration with a password. -/
def configurationWith (password : Value) : Mapping :=
  Mapping.ofNamed [("management_endpoint", "https://ecs:4443"), ("password", password),
    ("namespace", "ns1"), ("replication_group", "rg1")]

/-- A bucket is created behind a second login, and the session is shown and logged out, once with
one password and once with another. -/
theorem password_reaches_logins_only_renewed :
    let s : Session :=
      ⟨"https://ecs:4443", "root", .null, .bool false, Session.standardTimeout, none, none⟩
    let us : List (Session.Use Unit Unit) := [.request Session.creation, .shown, .logout]
    let o := Dialogue.run Rehearsal.world (Session.uses us () (s.withPassword "secret"))
      Session.refusesOnce
    let o' := Dialogue.run Rehearsal.world (Session.uses us () (s.withPassword "hunter2"))
      Session.refusesOnce
    Rehearsal.world.Blind "secret" "hunter2" ∧ (Value.text "secret").truthy ∧
      (Value.text "hunter2").truthy ∧ o.result.1 = o'.result.1 ∧ o.events.length = 5 ∧
      o.events.map Dialogue.Event.masked = o'.events.map Dialogue.Event.masked ∧
      (Configuration.ofData (.mapping (configurationWith "secret"))).map Configuration.shown =
        (Configuration.ofData (.mapping (configurationWith "hunter2"))).map
          Configuration.shown := by
  intro s us o o'
  have hblind : Rehearsal.world.Blind "secret" "hunter2" := blind_rehearsal _ _
  obtain ⟨⟨hresult, _, hevents, _⟩, hshown⟩ :=
    password_reaches_logins_only Rehearsal.world hblind (by decide) (by decide) s us ()
      Session.refusesOnce
  refine ⟨hblind, by decide, by decide, hresult, by decide +kernel, hevents, hshown _ _ ?_⟩
  simp [configurationWith, Mapping.erase, Mapping.ofNamed, Mapping.text_equal_text, Setting.name]

end StorageBroker
