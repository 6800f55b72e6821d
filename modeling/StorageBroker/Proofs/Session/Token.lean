import StorageBroker.Proofs.Session.Delivery
/-!
# Tokens

A token comes from a login and goes with a logout or with a request that is refused for it. Logins,
requests and logouts may follow each other in any order and fail at any place: every request that is
no login carries the token of the latest login that gave one, and no logout lies between the two.

* `Latest` -- the token of the latest login on a trace, behind which there is no logout;
* `Traced` -- events of a call, with the token that is held before and after them;
* `traced_of_request` -- every call keeps to it, however often it is tried;
* `tour` -- what comes of a row of logins, requests and logouts;
* `token_discipline` -- what every request of a tour carries, and when the session has to log in.
-/

namespace StorageBroker.Session

/-! ## 1. Traces -/

/-- The token that an event gave: only a login gives one. -/
def tokenGiven (e : Dialogue.Event Wire) : Option Text :=
  if isLogin e then (response? e).bind fun r => (tokenOf r).toOption else none

/-- A request that carries a token in its header for it. -/
def Bears (t : Text) (e : Dialogue.Event Wire) : Prop :=
  ∃ q x, e = sent q x ∧ Mapping.get q.headers Request.tokenHeader = some (.text t)

/-- What a trace shows: what goes over the wire, and that a logout has ended. -/
inductive Item where
  | wire (e : Dialogue.Event Wire)
  | left

/-- An item that leaves the latest token as it is. -/
def Item.IsIdle : Item → Prop
  | .wire e => tokenGiven e = none
  | .left => False

/-- **The latest token of a trace**: a login gave it, and behind that one there is neither a login
that gave another one nor a logout. -/
def Latest (tr : List Item) (t : Text) : Prop :=
  ∃ before e after, tr = before ++ .wire e :: after ∧ tokenGiven e = some t ∧ ∀ i ∈ after, i.IsIdle

/-- The token that is held is the latest one of the trace. -/
def Knows (tr : List Item) (held : Option Text) : Prop := ∀ t, held = some t → Latest tr t

/-- **Every request that is no login carries the latest token** of what comes before it. -/
def Disciplined (tr : List Item) : Prop :=
  ∀ before e after, tr = before ++ .wire e :: after → isResource e →
    ∃ t, Latest before t ∧ Bears t e

variable {tr : List Item} {e : Dialogue.Event Wire} {es : Events} {t : Text}
  {held held' : Option Text}

theorem tokenOf_ne_empty {r : Response} (h : tokenOf r = .ok t) : t ≠ "" := by
  unfold tokenOf at h
  split at h
  · split at h
    · split at h
      · cases h
      · next hne =>
        cases h
        exact hne
    · cases h
  · cases h

theorem tokenGiven_ne_empty (h : tokenGiven e = some t) : t ≠ "" := by
  unfold tokenGiven at h
  split at h
  · obtain ⟨r, _, hr⟩ := Option.bind_eq_some_iff.1 h
    cases htoken : tokenOf r with
    | ok t' =>
      rw [htoken] at hr
      cases hr
      exact tokenOf_ne_empty htoken
    | error f => rw [htoken] at hr; cases hr
  · cases h

theorem Latest.ne_empty (h : Latest tr t) : t ≠ "" := by
  obtain ⟨_, e, _, _, hgiven, _⟩ := h
  exact tokenGiven_ne_empty hgiven

theorem Latest.idle {i : Item} (h : Latest tr t) (hi : i.IsIdle) : Latest (tr ++ [i]) t := by
  obtain ⟨before, e, after, rfl, hgiven, hafter⟩ := h
  refine ⟨before, e, after ++ [i], by simp, hgiven, ?_⟩
  rw [List.forall_mem_append, List.forall_mem_singleton]
  exact ⟨hafter, hi⟩

theorem latest_given (h : tokenGiven e = some t) : Latest (tr ++ [.wire e]) t :=
  ⟨tr, e, [], rfl, h, by simp⟩

theorem knows_none : Knows tr none := by
  intro t h
  cases h

theorem knows_given (h : tokenGiven e = some t) : Knows (tr ++ [.wire e]) (some t) := by
  intro t' ht
  cases ht
  exact latest_given h

theorem Knows.idle (h : Knows tr held) (he : tokenGiven e = none) :
    Knows (tr ++ [.wire e]) held := fun t ht => (h t ht).idle he

theorem Disciplined.concat {i : Item} (h : Disciplined tr)
    (hi : ∀ e, i = .wire e → isResource e → ∃ t, Latest tr t ∧ Bears t e) :
    Disciplined (tr ++ [i]) := by
  intro before e after heq hresource
  rcases List.eq_nil_or_concat after with rfl | ⟨after, last, rfl⟩
  · obtain ⟨rfl, hlast⟩ := List.append_inj' heq rfl
    cases hlast
    exact hi e rfl hresource
  · rw [List.concat_eq_append, ← List.cons_append, ← List.append_assoc] at heq
    exact h before e after (List.append_inj' heq rfl).1 hresource

theorem Disciplined.other (h : Disciplined tr) (he : isResource e = false) :
    Disciplined (tr ++ [.wire e]) := by
  refine h.concat fun e' heq hresource => ?_
  cases heq
  rw [he] at hresource
  cases hresource

theorem tokenGiven_of_not_isLogin (h : isLogin e = false) : tokenGiven e = none := by
  rw [tokenGiven, h, if_neg Bool.false_ne_true]

/-! ## 2. The events of a call -/

/-- **Events of a call**, with the token that is held before and after them. A login is sent only
without a token, and any other request only with one. -/
inductive Traced : Option Text → Events → Option Text → Prop where
  | done {held : Option Text} : Traced held [] held
  | forgotten {held held' : Option Text} {es : Events} (h : Traced none es held') :
      Traced held es held'
  | granted {e : Dialogue.Event Wire} {t : Text} {es : Events} {held' : Option Text}
      (hl : isLogin e) (he : tokenGiven e = some t) (h : Traced (some t) es held') :
      Traced none (e :: es) held'
  | refused {e : Dialogue.Event Wire} {es : Events} {held' : Option Text} (hl : isLogin e)
      (he : tokenGiven e = none) (h : Traced none es held') : Traced none (e :: es) held'
  | resource {e : Dialogue.Event Wire} {t : Text} {es : Events} {held' : Option Text}
      (hr : isResource e) (hb : Bears t e) (h : Traced (some t) es held') :
      Traced (some t) (e :: es) held'
  | idle {e : Dialogue.Event Wire} {held held' : Option Text} {es : Events}
      (hl : isLogin e = false) (hr : isResource e = false) (h : Traced held es held') :
      Traced held (e :: es) held'

namespace Traced

theorem append {es' : Events} {held'' : Option Text} (h : Traced held es held')
    (h' : Traced held' es' held'') : Traced held (es ++ es') held'' := by
  induction h with
  | done => exact h'
  | forgotten _ ih => exact .forgotten (ih h')
  | granted hl he _ ih => exact .granted hl he (ih h')
  | refused hl he _ ih => exact .refused hl he (ih h')
  | resource hr hb _ ih => exact .resource hr hb (ih h')
  | idle hl hr _ ih => exact .idle hl hr (ih h')

/-- Behind a trace that gave the token, all requests carry the latest token. -/
theorem disciplined (h : Traced held es held') (htr : Disciplined tr) (hk : Knows tr held) :
    Disciplined (tr ++ es.map .wire) ∧ Knows (tr ++ es.map .wire) held' := by
  have hcons : ∀ (e : Dialogue.Event Wire) (es : Events),
      tr ++ (e :: es).map Item.wire = tr ++ [.wire e] ++ es.map .wire := by simp
  induction h generalizing tr with
  | done => simpa using ⟨htr, hk⟩
  | forgotten _ ih => exact ih htr knows_none (by simp)
  | granted hl he _ ih =>
    rw [hcons]
    exact ih (htr.other (not_isResource_of_isLogin hl)) (knows_given he) (by simp)
  | refused hl he _ ih =>
    rw [hcons]
    exact ih (htr.other (not_isResource_of_isLogin hl)) knows_none (by simp)
  | resource hr hb _ ih =>
    rw [hcons]
    refine ih (htr.concat fun e heq _ => ?_) (hk.idle ?_) (by simp)
    · cases heq
      exact ⟨_, hk _ rfl, hb⟩
    · exact tokenGiven_of_not_isLogin (not_isLogin_of_isResource hr)
  | idle hl hr _ ih =>
    rw [hcons]
    exact ih (htr.other hr) (hk.idle (tokenGiven_of_not_isLogin hl)) (by simp)

/-- Behind a login that gave no token none is held. -/
theorem behind_refusal {before after : Events} (h : Traced held es held')
    (heq : es = before ++ e :: after) (hl : isLogin e) (he : tokenGiven e = none) :
    Traced none after held' := by
  induction h generalizing before with
  | done => simp at heq
  | forgotten _ ih => exact ih heq
  | granted hl' he' _ ih =>
    cases before with
    | nil => cases heq; rw [he'] at he; cases he
    | cons e' before => exact ih (List.cons.inj heq).2
  | refused hl' he' h ih =>
    cases before with
    | nil => cases heq; exact h
    | cons e' before => exact ih (List.cons.inj heq).2
  | resource hr hb _ ih =>
    cases before with
    | nil => cases heq; rw [not_isLogin_of_isResource hr] at hl; cases hl
    | cons e' before => exact ih (List.cons.inj heq).2
  | idle hl' hr _ ih =>
    cases before with
    | nil => cases heq; rw [hl'] at hl; cases hl
    | cons e' before => exact ih (List.cons.inj heq).2

/-- Where no login gives a token, none is held. -/
theorem held_of_ungranted (h : Traced held es held') (hheld : held = none)
    (hes : ∀ e ∈ es, tokenGiven e = none) : held' = none := by
  induction h with
  | done => exact hheld
  | forgotten _ ih => exact ih rfl hes
  | granted hl he _ ih => rw [hes _ List.mem_cons_self] at he; cases he
  | refused hl he _ ih => exact ih rfl fun e he => hes e (List.mem_cons_of_mem _ he)
  | resource hr hb _ ih => cases hheld
  | idle hl hr _ ih => exact ih hheld fun e he => hes e (List.mem_cons_of_mem _ he)

end Traced

/-- The requests among some events, in order. -/
def requests (es : Events) : Events := es.filter fun e => isLogin e || isResource e

/-- **Without a token a call sends no request but a login first.** -/
theorem Traced.first_request (h : Traced held es held') (hheld : held = none)
    (he : (requests es).head? = some e) : isLogin e := by
  induction h with
  | done => cases he
  | forgotten _ ih => exact ih rfl he
  | granted hl _ _ _ =>
    rw [requests, List.filter_cons_of_pos (by simp [hl])] at he
    cases he
    exact hl
  | refused hl _ _ _ =>
    rw [requests, List.filter_cons_of_pos (by simp [hl])] at he
    cases he
    exact hl
  | resource _ _ _ _ => cases hheld
  | idle hl hr _ ih =>
    rw [requests, List.filter_cons_of_neg (by simp [hl, hr])] at he
    exact ih hheld he

/-! ## 3. Every call keeps to it -/

section Courses

variable {s s' : Session} {c : Call} {u : Text}

theorem tokenGiven_login {x : Reply} :
    tokenGiven (sent (s.loginRequest u) x) = (s.tokenFrom x).toOption := by
  cases x <;> rfl

theorem isLogin_loginRequest {x : Reply} : isLogin (sent (s.loginRequest u) x) := rfl

theorem LoginCourse.traced {r : Except Fault Unit} (h : LoginCourse s es r s')
    (htoken : s.token = none) : Traced none es s'.token := by
  cases h with
  | unsent _ => rw [htoken]; exact .done
  | refused _ hx =>
    rw [htoken]
    exact .refused isLogin_loginRequest (by rw [tokenGiven_login, hx]; rfl) .done
  | granted _ hx =>
    exact .granted isLogin_loginRequest (by rw [tokenGiven_login, hx]; rfl) .done

theorem bears_callRequest {own : Mapping} {x : Reply} (htoken : s.token = some t) :
    Bears t (sent (s.callRequest c u own) x) := by
  refine ⟨_, x, rfl, ?_⟩
  show Mapping.get (headersWith own s.token) Request.tokenHeader = _
  unfold headersWith
  rw [Mapping.get_set, if_pos rfl, htoken]

theorem DeliverCourse.traced {r : Except Fault Response} (h : DeliverCourse c u s es r s')
    (htoken : s.token = some t) : Traced s.token es s'.token := by
  have hresource : ∀ {s : Session} {t : Text} {own : Mapping} {x : Reply} {es : Events}
      {held' : Option Text}, s.token = some t → Traced s.token es held' →
      Traced s.token (sent (s.callRequest c u own) x :: es) held' := by
    intro s t own x es held' htoken h
    rw [htoken] at h ⊢
    exact .resource isResource_sent_call (bears_callRequest htoken) h
  cases h with
  | unsent _ => exact .done
  | failed _ _ => exact hresource htoken .done
  | answered _ _ => exact hresource htoken .done
  | unrenewed _ _ hlogin => exact hresource htoken (.forgotten (hlogin.traced rfl))
  | renewed _ _ hlogin =>
    obtain ⟨t', ht'⟩ := Option.isSome_iff_exists.1 hlogin.isLoggedIn
    exact hresource htoken (.forgotten ((hlogin.traced rfl).append (hresource ht' .done)))

theorem OpenCourse.traced (h : OpenCourse s es s') :
    Traced s.token es s'.token ∧ ∃ t, s'.token = some t := by
  refine ⟨?_, Option.isSome_iff_exists.1 h.isLoggedIn⟩
  cases h with
  | held _ => exact .done
  | entered h hlogin =>
    have htoken : s.token = none := Option.isSome_eq_false_iff.1 h |> Option.isNone_iff_eq_none.1
    rw [htoken]
    exact hlogin.traced htoken

theorem traced_of_exchange {r : Except Fault Response} (h : ExchangeCourse c s es r s') :
    Traced s.token es s'.token := by
  cases h with
  | unentered h hlogin =>
    have htoken : s.token = none := Option.isSome_eq_false_iff.1 h |> Option.isNone_iff_eq_none.1
    rw [htoken]
    exact hlogin.traced htoken
  | unaddressed hopen _ => exact hopen.traced.1
  | undelivered hopen _ hdeliver =>
    obtain ⟨hfirst, t, ht⟩ := hopen.traced
    exact hfirst.append (hdeliver.traced ht)
  | delivered hopen _ hdeliver =>
    obtain ⟨hfirst, t, ht⟩ := hopen.traced
    exact hfirst.append (hdeliver.traced ht)

theorem traced_of_waited {ws : Events} {held : Option Text} (h : Retry.Waited ws) :
    Traced held ws held := by
  obtain ⟨seconds, rfl | ⟨x, rfl⟩⟩ := h
  · exact .idle rfl rfl .done
  · exact .idle rfl rfl (.idle rfl rfl .done)

theorem traced_of_unpaused {ws : Events} {held : Option Text} (h : Retry.Unpaused ws) :
    Traced held ws held := by
  obtain rfl | ⟨x, rfl⟩ := h
  · exact .done
  · exact .idle rfl rfl .done

/-- **Every call keeps to it**, however often it is tried. -/
theorem traced_of_request {r : Except Fault Response} (h : (request c).Course s es r s') :
    Traced s.token es s'.token := by
  have hclosed : Retry.Closed
      fun (s : Session) es (_ : Except Fault Response) s' => Traced s.token es s'.token := {
    again := fun h hw hrest => (h.append (traced_of_waited hw)).append hrest
    stopped := fun h hw => h.append (traced_of_unpaused hw) }
  exact closed_of_request hclosed traced_of_exchange h

/-- A session that has all that a login needs sends one. -/
theorem LoginCourse.sends {r : Except Fault Unit} (h : LoginCourse s es r s') (hs : s.Ready) :
    ∃ l, es = [l] ∧ isLogin l := by
  cases h with
  | unsent hu =>
    obtain ⟨u, hu'⟩ := hs
    rw [hu'] at hu
    cases hu
  | refused _ _ => exact ⟨_, rfl, isLogin_loginRequest⟩
  | granted _ _ => exact ⟨_, rfl, isLogin_loginRequest⟩

theorem OpenCourse.sends (h : OpenCourse s es s') (hs : s.Ready) (hout : s.isLoggedIn = false) :
    ∃ l, es = [l] ∧ isLogin l := by
  cases h with
  | held h => rw [hout] at h; cases h
  | entered _ hlogin => exact hlogin.sends hs

theorem first_login_of_exchange {r : Except Fault Response} (h : ExchangeCourse c s es r s')
    (hs : s.Ready) (hout : s.isLoggedIn = false) : ∃ l rest, es = l :: rest ∧ isLogin l := by
  cases h with
  | unentered _ hlogin =>
    obtain ⟨l, rfl, hl⟩ := hlogin.sends hs
    exact ⟨l, [], rfl, hl⟩
  | unaddressed hopen _ =>
    obtain ⟨l, rfl, hl⟩ := hopen.sends hs hout
    exact ⟨l, [], rfl, hl⟩
  | undelivered hopen _ _ =>
    obtain ⟨l, rfl, hl⟩ := hopen.sends hs hout
    exact ⟨l, _, rfl, hl⟩
  | delivered hopen _ _ =>
    obtain ⟨l, rfl, hl⟩ := hopen.sends hs hout
    exact ⟨l, _, rfl, hl⟩

/-- **A call of a session without a token begins with a login.** -/
theorem first_login_of_request {r : Except Fault Response} (h : (request c).Course s es r s')
    (hs : s.Ready) (hout : s.isLoggedIn = false) : ∃ l rest, es = l :: rest ∧ isLogin l := by
  have hclosed : Retry.Closed fun (s : Session) es (_ : Except Fault Response) _ =>
      s.Ready → s.isLoggedIn = false → ∃ l rest, es = l :: rest ∧ isLogin l := {
    again := fun h _ _ hs hout => by
      obtain ⟨l, rest, rfl, hl⟩ := h hs hout
      exact ⟨l, _, rfl, hl⟩
    stopped := fun h _ hs hout => by
      obtain ⟨l, rest, rfl, hl⟩ := h hs hout
      exact ⟨l, _, rfl, hl⟩ }
  exact closed_of_request hclosed first_login_of_exchange h hs hout

/-- A session that lacks what a login needs sends no request, and its call fails. -/
theorem silent_of_request {r : Except Fault Response} (h : (request c).Course s es r s')
    (hsound : s.Sound) (hs : ¬ s.Ready) (hout : s.isLoggedIn = false) :
    requests es = [] ∧ ∃ f, r = .error f := by
  have hserved := served_of_request h
  have htoken : s.token = none := Option.isSome_eq_false_iff.1 hout |> Option.isNone_iff_eq_none.1
  constructor
  · cases hrequests : requests es with
    | nil => rfl
    | cons l rest =>
      have hlogin := (traced_of_request h).first_request htoken (by rw [hrequests]; rfl)
      have hmem : l ∈ es := by
        refine List.mem_of_mem_filter (p := fun e => isLogin e || isResource e) ?_
        show l ∈ requests es
        rw [hrequests]
        exact List.mem_cons_self
      cases hserved.requests l hmem with
      | login hu => exact absurd ⟨_, hu⟩ hs
      | call _ => cases hlogin
      | pause => cases hlogin
      | random => cases hlogin
  · cases r with
    | error f => exact ⟨f, rfl⟩
    | ok a =>
      obtain ⟨t, rfl⟩ := hserved.same
      exact absurd (hserved.sound hsound (hserved.token ⟨a, rfl⟩)) hs

/-- What a farewell sends carries the token, and the session stays as it is. -/
theorem course_farewell {r : Except Fault Unit} (htoken : s.token = some t)
    (h : (do
      let u ← (← get).urlText (.text "/logout")
      let _ ← send "GET" u [] .null .null : Step Unit).Course s es r s') :
    s' = s ∧ (es = [] ∨ ∃ e, es = [e] ∧ isResource e ∧ Bears t e) := by
  rw [Action.course_get_bind, Action.course_lift_malformed_bind] at h
  obtain ⟨m, _, rfl, rfl, rfl⟩ | ⟨u, _, h⟩ := h
  · exact ⟨rfl, .inl rfl⟩
  -- The farewell is the request of a call without parameters and headers.
  have hsend : ∀ {es : Events} {r : Except Fault Response} {s' : Session},
      (send "GET" u [] .null .null).Course s es r s' →
        s' = s ∧ ∃ e, es = [e] ∧ isResource e ∧ Bears t e := by
    intro es r s' h
    obtain ⟨rfl, ⟨m, hown, _⟩ | ⟨own, x, _, rfl, _⟩⟩ :=
      @course_send { path := .null } u s s' es r h
    · cases hown
    · exact ⟨rfl, _, rfl, isResource_sent_call, bears_callRequest htoken⟩
  rw [Action.course_bind] at h
  obtain ⟨f, h, rfl⟩ | ⟨es₁, a, s₁, es₂, h, hdone, rfl⟩ := h
  · obtain ⟨rfl, hes⟩ := hsend h
    exact ⟨rfl, .inr hes⟩
  · obtain ⟨rfl, e, rfl, he⟩ := hsend h
    obtain ⟨rfl, rfl, rfl⟩ := Action.course_pure.1 hdone
    exact ⟨rfl, .inr ⟨e, rfl, he⟩⟩

/-- **The courses of a logout**: it gives up the token in any case, behind a farewell that carries
it. -/
theorem course_logout {r : Except Fault Unit} (h : logout.Course s es r s') :
    s' = s.withToken none ∧
      (es = [] ∨ ∃ e t, s.token = some t ∧ es = [e] ∧ isResource e ∧ Bears t e) := by
  rw [logout, Action.course_get_bind] at h
  cases htoken : s.token with
  | none =>
    have hout : s.isLoggedIn = false := by rw [isLoggedIn, htoken]; rfl
    rw [hout] at h
    obtain ⟨rfl, rfl, rfl⟩ := Action.course_pure.1 h
    exact ⟨by rw [withToken, ← htoken], .inl rfl⟩
  | some t =>
    have hin : s.isLoggedIn = true := by rw [isLoggedIn, htoken]; rfl
    rw [hin, if_pos rfl] at h
    dsimp only at h
    rw [Action.course_bind] at h
    obtain ⟨f, hfarewell, _⟩ | ⟨es₁, outcome, s₁, es₂, hfarewell, h, rfl⟩ := h
    · obtain ⟨_, _, hf⟩ := Action.course_attempt.1 hfarewell
      cases hf
    obtain ⟨outcome, hfarewell, ho⟩ := Action.course_attempt.1 hfarewell
    cases ho
    obtain ⟨rfl, hes⟩ := course_farewell htoken hfarewell
    rw [forget, Action.course_modify_bind] at h
    have hend : es₂ = [] ∧ s' = s₁.withToken none := by
      cases outcome with
      | ok _ => exact ⟨(Action.course_pure.1 h).1, (Action.course_pure.1 h).2.2⟩
      | error f => exact ⟨(Action.course_throw.1 h).1, (Action.course_throw.1 h).2.2⟩
    obtain ⟨rfl, rfl⟩ := hend
    refine ⟨rfl, ?_⟩
    rw [List.append_nil]
    exact hes.imp_right (Exists.imp fun e he => ⟨t, rfl, he⟩)

end Courses

/-! ## 4. Rows of logins, requests and logouts -/

/-- What is done with a session. -/
inductive Move where
  | login
  | request (c : Call)
  | logout

def Move.step : Move → Step Unit
  | .login => Session.login
  | .request c => do let _ ← Session.request c
  | .logout => Session.logout

/-- What a move shows of itself once it has ended. -/
def Move.mark : Move → List Item
  | .logout => [.left]
  | _ => []

/-- **A tour**: its trace, and what it has made of the session and of the world. -/
structure Tour (σ : Type) where
  trace : List Item
  session : Session
  state : σ

section Tours

variable {σ : Type} (w : Dialogue.World Wire σ)

/-- What comes of one more move. -/
def Tour.outcome (a : Tour σ) (m : Move) : Dialogue.Outcome Wire σ (Except Fault Unit × Session) :=
  Dialogue.run w (m.step.run a.session) a.state

/-- A tour with one more move; that it fails is no end of the tour. -/
def Tour.go (a : Tour σ) (m : Move) : Tour σ :=
  let o := a.outcome w m
  ⟨a.trace ++ o.events.map .wire ++ m.mark, o.result.2, o.state⟩

/-- **The tour of some moves** from a session. -/
def tour (s : Session) (st : σ) (ms : List Move) : Tour σ := ms.foldl (Tour.go w) ⟨[], s, st⟩

/-- What every tour from a session keeps. -/
structure Tour.Keeps (s : Session) (a : Tour σ) : Prop where
  disciplined : Disciplined a.trace
  knows : Knows a.trace a.session.token
  same : ∃ held, a.session = s.withToken held
  sound : a.session.Sound

variable {w} {s : Session} {a : Tour σ}

theorem LoginCourse.disciplined {s' : Session} {r : Except Fault Unit}
    (h : LoginCourse s es r s') (htr : Disciplined tr) (hk : Knows tr s.token) :
    Disciplined (tr ++ es.map .wire) ∧ Knows (tr ++ es.map .wire) s'.token := by
  cases h with
  | unsent _ => simpa using ⟨htr, hk⟩
  | refused _ hx =>
    exact ⟨htr.other rfl, hk.idle (by rw [tokenGiven_login, hx]; rfl)⟩
  | granted _ hx =>
    exact ⟨htr.other rfl, knows_given (by rw [tokenGiven_login, hx]; rfl)⟩

theorem LoginCourse.sound {s' : Session} {r : Except Fault Unit} (h : LoginCourse s es r s')
    (hs : s.Sound) : s'.Sound := by
  cases h with
  | unsent _ => exact hs
  | refused _ _ => exact hs
  | granted hu _ => exact fun _ => ⟨_, hu⟩

theorem course_move_request {c : Call} {s s' : Session} {r : Except Fault Unit}
    (h : (Move.request c).step.Course s es r s') :
    ∃ r', (request c).Course s es r' s' ∧ ∀ f, r' = .error f ↔ r = .error f := by
  rw [Move.step, Action.course_bind] at h
  obtain ⟨f, h, rfl⟩ | ⟨es₁, x, s₁, es₂, h, hdone, rfl⟩ := h
  · exact ⟨.error f, h, fun g => by simp⟩
  · obtain ⟨rfl, rfl, rfl⟩ := Action.course_pure.1 hdone
    exact ⟨.ok x, by rwa [List.append_nil], fun g => by simp⟩

theorem course_outcome (m : Move) :
    m.step.Course a.session (a.outcome w m).events (a.outcome w m).result.1
      (a.outcome w m).result.2 :=
  Dialogue.course_run w (m.step.run a.session) a.state

/-- **One more move keeps it**, whatever it is and however it ends. -/
theorem Tour.Keeps.go (h : a.Keeps s) (m : Move) : (a.go w m).Keeps s := by
  have hcourse := course_outcome (w := w) (a := a) m
  obtain ⟨held, hsame⟩ := h.same
  cases m with
  | login =>
    have hlogin := loginCourse_of_course hcourse
    obtain ⟨hdisciplined, hknows⟩ := hlogin.disciplined h.disciplined h.knows
    obtain ⟨held', hsame'⟩ := hlogin.same
    exact {
      disciplined := by simpa [Tour.go, Move.mark] using hdisciplined
      knows := by simpa [Tour.go, Move.mark] using hknows
      same := ⟨held', by rw [Tour.go, hsame', hsame]; rfl⟩
      sound := hlogin.sound h.sound }
  | request c =>
    obtain ⟨r, hrequest, _⟩ := course_move_request hcourse
    obtain ⟨hdisciplined, hknows⟩ :=
      (traced_of_request hrequest).disciplined h.disciplined h.knows
    obtain ⟨held', hsame'⟩ := (served_of_request hrequest).same
    exact {
      disciplined := by simpa [Tour.go, Move.mark] using hdisciplined
      knows := by simpa [Tour.go, Move.mark] using hknows
      same := ⟨held', by rw [Tour.go, hsame', hsame]; rfl⟩
      sound := (served_of_request hrequest).sound h.sound }
  | logout =>
    obtain ⟨hout, hes⟩ := course_logout hcourse
    have hdisciplined : Disciplined (a.trace ++ (a.outcome w .logout).events.map .wire) := by
      obtain hes | ⟨e, t, ht, hes, hresource, hbears⟩ := hes
      · rw [hes]
        simpa using h.disciplined
      · rw [hes]
        refine h.disciplined.concat fun e' heq _ => ?_
        cases heq
        exact ⟨t, h.knows t ht, hbears⟩
    exact {
      disciplined := hdisciplined.concat fun e heq => by cases heq
      knows := by
        show Knows _ (a.outcome w .logout).result.2.token
        rw [hout]
        exact knows_none
      same := ⟨none, by rw [Tour.go, hout, hsame]; rfl⟩
      sound := by
        show (a.outcome w .logout).result.2.Sound
        rw [hout]
        exact fun h => by cases h }

/-- **Every further row of moves keeps it.** -/
theorem Tour.Keeps.run (h : a.Keeps s) (ms : List Move) : (ms.foldl (Tour.go w) a).Keeps s := by
  induction ms generalizing a with
  | nil => exact h
  | cons m ms ih => exact ih (h.go m)

theorem keeps_tour (hs : s.token = none) (st : σ) (ms : List Move) : (tour w s st ms).Keeps s := by
  have hstart : (⟨[], s, st⟩ : Tour σ).Keeps s := {
    disciplined := fun before e after h => by simp at h
    knows := by rw [hs]; exact knows_none
    same := ⟨s.token, rfl⟩
    sound := fun h => by rw [isLoggedIn, hs] at h; cases h }
  exact hstart.run ms

theorem token_start {endpoint username password verifySsl timeout : Value}
    {retry : Option Retry.Policy}
    (h : start endpoint username password verifySsl timeout retry = .ok s) : s.token = none := by
  rw [start, bind_eq_ok] at h
  obtain ⟨_, _, h⟩ := h
  rw [pure_eq_ok] at h
  rw [h]

theorem isLoggedIn_iff : s.isLoggedIn ↔ ∃ t, s.token = some t := Option.isSome_iff_exists

/-- What a call may send first: nothing but a login, unless a token is held. -/
structure LogsIn (s : Session) (o : Dialogue.Outcome Wire σ (Except Fault Unit × Session)) :
    Prop where
  ready : s.Ready → ∃ l rest, o.events = l :: rest ∧ isLogin l
  lacking : ¬ s.Ready → requests o.events = [] ∧ ∃ f, o.result.1 = .error f

theorem logsIn_of_request {c : Call} (h : a.session.isLoggedIn = false) (hs : a.session.Sound) :
    LogsIn a.session (a.outcome w (.request c)) := by
  obtain ⟨r, hrequest, herror⟩ :=
    course_move_request (course_outcome (w := w) (a := a) (.request c))
  refine ⟨fun hready => first_login_of_request hrequest hready h, fun hready => ?_⟩
  obtain ⟨hsilent, f, hf⟩ := silent_of_request hrequest hs hready h
  exact ⟨hsilent, f, (herror f).1 hf⟩

/-- **The token of a session.** Whatever logins, requests and logouts come one after the other and
however they end, every request that is no login carries the token that the latest login gave, which
is not empty, and there was no logout behind that login. The session counts as logged in exactly if
it holds such a token. It holds none behind a logout, and none behind a request for which a login
was sent that gave none, unless a later one did; and without one the next request begins with a
login. -/
theorem token_discipline (st : σ) {endpoint username password verifySsl timeout : Value}
    {retry : Option Retry.Policy}
    (hs : start endpoint username password verifySsl timeout retry = .ok s) (ms : List Move) :
    let a := tour w s st ms
    (∀ before e after, a.trace = before ++ .wire e :: after → isResource e →
      ∃ t : Text, t ≠ "" ∧ Latest before t ∧ Bears t e) ∧
    (a.session.isLoggedIn ↔ ∃ t : Text, t ≠ "" ∧ a.session.token = some t) ∧
    (a.go w .logout).session.isLoggedIn = false ∧
    ∀ c, let o := a.outcome w (.request c)
      (∀ before l after, o.events = before ++ l :: after → isLogin l → tokenGiven l = none →
        (∀ e, (requests after).head? = some e → isLogin e) ∧
        ((∀ e ∈ after, tokenGiven e = none) → o.result.2.isLoggedIn = false)) ∧
      (a.session.isLoggedIn = false → LogsIn a.session o) := by
  intro a
  have hkeeps : a.Keeps s := keeps_tour (token_start hs) st ms
  refine ⟨fun before e after heq he => ?_, ?_, ?_, fun c => ⟨?_, fun hout => ?_⟩⟩
  · obtain ⟨t, hlatest, hbears⟩ := hkeeps.disciplined before e after heq he
    exact ⟨t, hlatest.ne_empty, hlatest, hbears⟩
  · rw [isLoggedIn_iff]
    constructor
    · rintro ⟨t, ht⟩
      exact ⟨t, (hkeeps.knows t ht).ne_empty, ht⟩
    · rintro ⟨t, _, ht⟩
      exact ⟨t, ht⟩
  · have hout := (course_logout (course_outcome (w := w) (a := a) .logout)).1
    show (a.outcome w .logout).result.2.isLoggedIn = false
    rw [hout]
    rfl
  · intro before l after heq hl hrefused
    obtain ⟨r, hrequest, _⟩ := course_move_request (course_outcome (w := w) (a := a) (.request c))
    have hafter := (traced_of_request hrequest).behind_refusal heq hl hrefused
    refine ⟨fun e he => hafter.first_request rfl he, fun hnone => ?_⟩
    have htoken := hafter.held_of_ungranted rfl hnone
    rw [isLoggedIn, htoken]
    rfl
  · exact logsIn_of_request hout hkeeps.sound

/-- What kind of item stands on a trace: a login, another request, or neither. -/
def Item.kinds : Item → Bool × Bool
  | .wire e => (isLogin e, isResource e)
  | .left => (false, false)

/-- A bucket is created behind a second login, as the first token is refused, and the farewell
carries the second token; the session is logged out behind it. -/
theorem token_discipline_renewed :
    ∃ s, start "https://ecs:4443" "root" "secret" (.bool false) standardTimeout none = .ok s ∧
      let a := tour Rehearsal.world s refusesOnce [.request creation, .logout]
      a.trace.map Item.kinds = [(true, false), (false, true), (true, false), (false, true),
        (false, true), (false, false)] ∧
      a.session.isLoggedIn = false ∧
      ∀ before e after, a.trace = before ++ .wire e :: after → isResource e →
        ∃ t : Text, t ≠ "" ∧ Latest before t ∧ Bears t e := by
  have hstart : start "https://ecs:4443" "root" "secret" (.bool false) standardTimeout none =
      .ok ⟨"https://ecs:4443", "root", "secret", .bool false, standardTimeout, none, none⟩ := rfl
  refine ⟨_, hstart, by decide +kernel, by decide +kernel, ?_⟩
  exact (token_discipline refusesOnce hstart [.request creation, .logout]).1

end Tours

end StorageBroker.Session
