import StorageBroker.Proofs.Session.Delivery
import StorageBroker.Proofs.Session.Operations
/-!
# Backends

A backend is what stands behind the management API: it has a state, and which responses fit a
request depends on the state and may change it. Nothing else is known of the other side, so what is
proved from the exchange with a backend holds in every world that answers as one.

* `Backend`, `Talk` -- the exchanges of requests and answers that fit a backend;
* `worldOf`, `talk_worldOf_of` -- a world that answers as a backend does;
* `Talk.noting` -- a backend may be thought to note what it is asked for;
* `Backend.Calm` -- a backend that refuses no token and has no failure that may pass;
* `answered_of_request` -- a call to a calm backend is one request, and comes to what the session
  makes of the response;
* `speaks_of_run` -- so an operation over a session is a talk of its calls with the backend.
-/

namespace StorageBroker

open Session (Events sent)

/-! ## 1. Exchanges with a backend -/

/-- What a backend looks at in a request. -/
structure Demand where
  method : Value
  url : Text
  body : Value

/-- **A backend**: the responses that fit a demand in a state, each with the state after it. -/
structure Backend (τ : Type) where
  answers : Demand → τ → Response → τ → Prop

variable {τ : Type} {B : Backend τ} {t t' : τ} {es es₁ es₂ : Events}

/-- **An exchange that fits a backend.** Logins are granted, and what is no request passes the
backend by. -/
inductive Talk (B : Backend τ) : τ → Events → τ → Prop where
  | nil (t : τ) : Talk B t [] t
  | login {t t' : τ} {es : Events} {u token : Text} {username password verify timeout : Value}
      {r : Response} (h : Session.tokenOf r = .ok token) (rest : Talk B t es t') :
      Talk B t (sent (.login u username password verify timeout) (.response r) :: es) t'
  | resource {t t₁ t' : τ} {es : Events} {method body verify timeout : Value} {u : Text}
      {params headers : Mapping} {r : Response} (h : B.answers ⟨method, u, body⟩ t r t₁)
      (rest : Talk B t₁ es t') :
      Talk B t
        (sent (.resource method u params headers body verify timeout) (.response r) :: es) t'
  | aside {t t' : τ} {es : Events} {e : Dialogue.Event Wire} (h : ∀ q x, e ≠ sent q x)
      (rest : Talk B t es t') : Talk B t (e :: es) t'

theorem talk_nil : Talk B t [] t' ↔ t' = t := by
  constructor
  · rintro ⟨⟩
    rfl
  · rintro rfl
    exact .nil _

/-- An exchange in two parts meets some state between them. -/
theorem talk_append :
    Talk B t (es₁ ++ es₂) t' ↔ ∃ t₁, Talk B t es₁ t₁ ∧ Talk B t₁ es₂ t' := by
  constructor
  · intro h
    induction es₁ generalizing t with
    | nil => exact ⟨t, .nil t, h⟩
    | cons e es₁ ih =>
      cases h with
      | login htoken rest =>
        obtain ⟨t₁, h₁, h₂⟩ := ih rest
        exact ⟨t₁, .login htoken h₁, h₂⟩
      | resource hanswer rest =>
        obtain ⟨t₁, h₁, h₂⟩ := ih rest
        exact ⟨t₁, .resource hanswer h₁, h₂⟩
      | aside haside rest =>
        obtain ⟨t₁, h₁, h₂⟩ := ih rest
        exact ⟨t₁, .aside haside h₁, h₂⟩
  · rintro ⟨t₁, h₁, h₂⟩
    induction h₁ with
    | nil => exact h₂
    | login htoken _ ih => exact .login htoken (ih h₂)
    | resource hanswer _ ih => exact .resource hanswer (ih h₂)
    | aside haside _ ih => exact .aside haside (ih h₂)

/-- The reply to a login is a response that gives a token, and leaves the backend as it is. -/
theorem Talk.of_login {s : Session} {u : Text} {x : Reply}
    (h : Talk B t [sent (s.loginRequest u) x] t') : (∃ token, s.tokenFrom x = .ok token) ∧ t' = t := by
  cases h with
  | login htoken rest => exact ⟨⟨_, htoken⟩, talk_nil.1 rest⟩
  | aside haside rest => exact absurd rfl (haside _ _)

/-- The reply to the request of a call is a response that fits. -/
theorem Talk.of_call {s : Session} {c : Call} {u : Text} {own : Mapping} {x : Reply}
    (h : Talk B t (sent (s.callRequest c u own) x :: es) t') :
    ∃ r t₁, x = .response r ∧ B.answers ⟨c.method, u, c.body⟩ t r t₁ ∧ Talk B t₁ es t' := by
  cases h with
  | resource hanswer rest => exact ⟨_, _, rfl, hanswer, rest⟩
  | aside haside rest => exact absurd rfl (haside _ _)

/-- **The world of a backend** that answers each demand in one way. Logins get a fresh token, and the
object storage is empty. -/
def worldOf (answer : Demand → τ → Response × τ) : Dialogue.World Wire τ where
  answer q t := match q with
    | .http (.login ..) => (Rehearsal.Server.freshToken 0, t)
    | .http (.resource method u _ _ body _ _) =>
      let a := answer ⟨method, u, body⟩ t
      (.response a.1, a.2)
    | .storage q => ((Rehearsal.Depot.answer ⟨none, [], []⟩ q).1, t)
    | .pause _ => ((), t)
    | .random => ((0.5 : Float), t)

/-- What a backend looks at in an event; logins and what is no request pass it by. -/
def demand? : Dialogue.Event Wire → Option Demand
  | ⟨.http (.resource method u _ _ body _ _), _⟩ => some ⟨method, u, body⟩
  | _ => none

/-- **An exchange in the world of a backend fits the backend** as long as the answers to what is asked
for fit, and lead to states whose answers fit again. -/
theorem talk_worldOf_of {answer : Demand → τ → Response × τ} {P : τ → Prop} {A : Demand → Prop}
    (h : ∀ d t, A d → P t →
      B.answers d t (answer d t).1 (answer d t).2 ∧ P (answer d t).2)
    {α : Type} (d : Dialogue Wire α) (t : τ) (ht : P t)
    (hasked : ∀ q ∈ (Dialogue.run (worldOf answer) d t).events.filterMap demand?, A q) :
    Talk B t (Dialogue.run (worldOf answer) d t).events
      (Dialogue.run (worldOf answer) d t).state := by
  have htoken : Session.tokenOf ⟨200, [(Request.tokenHeader, "tok" ++ toString 0)], []⟩ =
      .ok ("tok" ++ toString 0) := by
    simp [Session.tokenOf, Response.header?]
  induction d generalizing t with
  | done a => exact .nil t
  | ask q next ih =>
    rw [Dialogue.run_ask] at hasked ⊢
    cases q with
    | http q =>
      cases q with
      | login u username password verify timeout => exact .login htoken (ih _ _ ht hasked)
      | resource method u params headers body verify timeout =>
        obtain ⟨hfirst, hrest⟩ := List.forall_mem_cons.1 hasked
        obtain ⟨hanswer, hafter⟩ := h _ t hfirst ht
        exact .resource hanswer (ih _ _ hafter hrest)
    | storage q => exact .aside (fun _ _ hq => by cases hq) (ih _ _ ht hasked)
    | pause seconds => exact .aside (fun _ _ hq => by cases hq) (ih _ _ ht hasked)
    | random => exact .aside (fun _ _ hq => by cases hq) (ih _ _ ht hasked)

/-- **Every exchange in the world of a backend fits the backend** if all its answers do. -/
theorem talk_worldOf {answer : Demand → τ → Response × τ}
    (h : ∀ d t, B.answers d t (answer d t).1 (answer d t).2) {α : Type} (d : Dialogue Wire α)
    (t : τ) : Talk B t (Dialogue.run (worldOf answer) d t).events
      (Dialogue.run (worldOf answer) d t).state :=
  talk_worldOf_of (P := fun _ => True) (fun d t _ _ => ⟨h d t, trivial⟩) d t trivial
    fun _ _ => trivial

/-- **A calm backend** finds what is asked for or says that it is not there: it refuses no token,
and nothing is worth another attempt. -/
def Backend.Calm (B : Backend τ) : Prop :=
  ∀ d t r t', B.answers d t r t' → r.status = 200 ∨ r.status = 404

/-! ## 2. Notes of a backend -/

section Notes

variable {ε : Type} {f : Demand → Option ε}

/-- A backend that notes something of the requests that it answers. -/
def Backend.noting (B : Backend τ) (f : Demand → Option ε) : Backend (τ × List ε) where
  answers d t r t' := B.answers d t.1 r t'.1 ∧ t'.2 = t.2 ++ (f d).toList

/-- **What there is to note of the requests in an exchange**, in order. -/
def noted (f : Demand → Option ε) (es : Events) : List ε := es.filterMap fun ev => (demand? ev).bind f

theorem noted_cons {ev : Dialogue.Event Wire} :
    noted f (ev :: es) = ((demand? ev).bind f).toList ++ noted f es := by
  rw [noted, List.filterMap_cons]
  cases (demand? ev).bind f with
  | none => rfl
  | some x => rfl

theorem Backend.Calm.noting (h : B.Calm) : (B.noting f).Calm :=
  fun d t r t' hanswer => h d t.1 r t'.1 hanswer.1

/-- **Taking notes changes no exchange.** -/
theorem Talk.noting (h : Talk B t es t') (log : List ε) :
    Talk (B.noting f) (t, log) es (t', log ++ noted f es) := by
  induction h generalizing log with
  | nil t =>
    rw [noted, List.filterMap_nil, List.append_nil]
    exact .nil _
  | login htoken _ ih =>
    rw [noted_cons]
    exact .login htoken (ih log)
  | resource hanswer _ ih =>
    rw [noted_cons, ← List.append_assoc]
    exact .resource ⟨hanswer, rfl⟩ (ih _)
  | @aside _ _ _ ev haside _ ih =>
    have hnone : demand? ev = none := by
      obtain ⟨q, x⟩ := ev
      cases q with
      | http q => exact absurd rfl (haside q x)
      | _ => rfl
    rw [noted_cons, hnone]
    exact .aside haside (ih log)

end Notes

namespace Session

/-! ## 3. One call -/

/-- **A session that can be used**: it could log in, and the retries of its policy can be
counted. -/
structure Usable (s : Session) : Prop where
  ready : s.Ready
  counted : ∀ p, s.retry = some p → ∃ most, Retry.asNumber p.maxRetries = .ok most

variable {s s' : Session} {c : Call} {u p e : Text}

theorem Usable.withToken (h : s.Usable) (token : Option Text) : (s.withToken token).Usable :=
  ⟨ready_withToken.2 h.ready, h.counted⟩

theorem usable_expired : expired.Usable where
  ready := by
    have haddress : expired.loginAddress.isOk := by decide +kernel
    cases h : expired.loginAddress with
    | ok u => exact ⟨u, h⟩
    | error f =>
      rw [h] at haddress
      cases haddress
  counted p hp := by
    cases hp
    exact ⟨_, rfl⟩

/-- A login is granted. -/
theorem LoginCourse.granted_of_talk {r : Except Fault Unit} (hs : s.Ready)
    (h : LoginCourse s es r s') (htalk : Talk B t es t') : r = .ok () ∧ t' = t := by
  cases h with
  | unsent hu =>
    obtain ⟨u, hu'⟩ := hs
    rw [hu'] at hu
    cases hu
  | refused hu hx =>
    obtain ⟨⟨token, htoken⟩, _⟩ := htalk.of_login
    rw [htoken] at hx
    cases hx
  | granted hu hx => exact ⟨rfl, htalk.of_login.2⟩

theorem OpenCourse.of_talk (hs : s.Ready) (h : OpenCourse s es s') (htalk : Talk B t es t') :
    t' = t := by
  cases h with
  | held h => exact talk_nil.1 htalk
  | entered h hlogin => exact (hlogin.granted_of_talk hs htalk).2

/-- **A call is delivered by one request**, whose response fits. -/
theorem DeliverCourse.answered_of_talk {x : Except Fault Response} (hB : B.Calm)
    (hheaders : c.headers = .null) (h : DeliverCourse c u s es x s') (htalk : Talk B t es t') :
    ∃ r, x = .ok r ∧ B.answers ⟨c.method, u, c.body⟩ t r t' := by
  have hcalm : ∀ {r t₁}, B.answers ⟨c.method, u, c.body⟩ t r t₁ → r.status ≠ 401 := by
    intro r t₁ hanswer hstatus
    rcases hB _ _ _ _ hanswer with h200 | h404
    · rw [h200] at hstatus
      cases hstatus
    · rw [h404] at hstatus
      cases hstatus
  cases h with
  | unsent hown =>
    rw [hheaders] at hown
    cases hown
  | failed hown hx =>
    obtain ⟨r, _, rfl, _, _⟩ := htalk.of_call
    cases hx
  | answered hown hr =>
    obtain ⟨r, t₁, hresponse, hanswer, hrest⟩ := htalk.of_call
    cases hresponse
    obtain rfl := talk_nil.1 hrest
    exact ⟨_, rfl, hanswer⟩
  | unrenewed hown hr hlogin =>
    obtain ⟨r, _, hresponse, hanswer, _⟩ := htalk.of_call
    cases hresponse
    exact absurd hr (hcalm hanswer)
  | renewed hown hr hlogin =>
    obtain ⟨r, _, hresponse, hanswer, _⟩ := htalk.of_call
    cases hresponse
    exact absurd hr (hcalm hanswer)

theorem ExchangeCourse.answered_of_talk {x : Except Fault Response} (hB : B.Calm) (hs : s.Ready)
    (he : s.endpoint = .text e) (hheaders : c.headers = .null) (hpath : c.path = .text p)
    (h : ExchangeCourse c s es x s') (htalk : Talk B t es t') :
    ∃ r, x = accept c r ∧ B.answers ⟨c.method, e ++ p, c.body⟩ t r t' := by
  have haddress : ∀ {es₁ s₁}, OpenCourse s es₁ s₁ → s₁.urlText c.path = .ok (e ++ p) := by
    intro es₁ s₁ hopen
    obtain ⟨token, rfl⟩ := hopen.same
    rw [hpath]
    exact urlText_of_endpoint he
  cases h with
  | unentered h hlogin => cases (hlogin.granted_of_talk hs htalk).1
  | unaddressed hopen hu =>
    rw [haddress hopen] at hu
    cases hu
  | undelivered hopen hu hdeliver =>
    obtain ⟨t₁, _, hrest⟩ := talk_append.1 htalk
    obtain ⟨r, hr, _⟩ := hdeliver.answered_of_talk hB hheaders hrest
    cases hr
  | delivered hopen hu hdeliver =>
    rw [haddress hopen] at hu
    cases hu
    obtain ⟨t₁, hfirst, hrest⟩ := talk_append.1 htalk
    obtain rfl := hopen.of_talk hs hfirst
    obtain ⟨r, hr, hanswer⟩ := hdeliver.answered_of_talk hB hheaders hrest
    cases hr
    exact ⟨_, rfl, hanswer⟩

/-- Neither a success nor the report that there is nothing is a status that may pass. -/
theorem isRetryable_of_status {r : Response} (h : r.status = 200 ∨ r.status = 404) :
    Retry.isRetryable Retry.standardCodes r.fault = .ok false := by
  have hcodes : HttpKind.retryCodes = [408, 500, 502, 503, 504, 429] := by decide
  rw [Response.fault, Retry.isRetryable_standard, hcodes]
  rcases h with h | h
  · have hkind : HttpKind.ofCode? 200 = none := by decide
    simp [h, HttpFault.ofCode, hkind, HttpFault.make, Value.truthy, Value.equal_int_int]
  · have hkind : HttpKind.ofCode? 404 = some .notFound := by decide
    simp [h, HttpFault.ofCode, hkind, HttpFault.make, Value.truthy, HttpKind.code?,
      Value.equal_int_int]

/-- What a calm backend answers is not worth another attempt. -/
theorem isRetryable_of_accept {r : Response} {f : Fault} (hr : r.status = 200 ∨ r.status = 404)
    (h : accept c r = .error f) : Retry.isRetryable Retry.standardCodes f = .ok false := by
  obtain ⟨m, _, rfl⟩ | ⟨m, rfl⟩ | rfl := fault_of_accept h
  · rfl
  · rfl
  · exact isRetryable_of_status hr

/-- **A call of a usable session to a calm backend** is one request with one response that fits,
and comes to what the session makes of the response. -/
theorem answered_of_request {x : Except Fault Response} (hB : B.Calm) (hs : s.Usable)
    (he : s.endpoint = .text e) (hheaders : c.headers = .null) (hpath : c.path = .text p)
    (h : (request c).Course s es x s') (htalk : Talk B t es t') :
    ∃ r, x = accept c r ∧ B.answers ⟨c.method, e ++ p, c.body⟩ t r t' := by
  have hexchange : ∀ {es₁ x₁ s₁ t₁}, (exchange c).Course s es₁ x₁ s₁ → Talk B t es₁ t₁ →
      ∃ r, x₁ = accept c r ∧ B.answers ⟨c.method, e ++ p, c.body⟩ t r t₁ :=
    fun hcourse htalk =>
      (exchangeCourse_of_course hcourse).answered_of_talk hB hs.ready he hheaders hpath htalk
  have hsettled : ∀ {es₁ f s₁ t₁}, (exchange c).Course s es₁ (.error f) s₁ → Talk B t es₁ t₁ →
      Retry.isRetryable Retry.standardCodes f = .ok false := by
    intro es₁ f s₁ t₁ hcourse htalk
    obtain ⟨r, hr, hanswer⟩ := hexchange hcourse htalk
    exact isRetryable_of_accept (hB _ _ _ _ hanswer) hr.symm
  unfold request at h
  split at h
  next =>
    rw [Action.course_get_bind] at h
    cases hpolicy : s.retry with
    | none =>
      rw [hpolicy, Retry.retrying_none] at h
      exact hexchange h htalk
    | some policy =>
      obtain ⟨most, hmost⟩ := hs.counted policy hpolicy
      rw [hpolicy, Retry.retrying, hmost] at h
      have hretried := Retry.retried_of_course h
      generalize most.countBelow = left at hretried
      -- A second attempt would need a failure that is worth one.
      cases hretried with
      | last hcourse _ => exact hexchange hcourse htalk
      | untold hcourse hf =>
        rw [hsettled hcourse htalk] at hf
        cases hf
      | unwaited hcourse hf _ =>
        obtain ⟨_, hfirst, _⟩ := talk_append.1 htalk
        rw [hsettled hcourse hfirst] at hf
        cases hf
      | again hcourse hf _ _ =>
        rw [List.append_assoc] at htalk
        obtain ⟨_, hfirst, _⟩ := talk_append.1 htalk
        rw [hsettled hcourse hfirst] at hf
        cases hf
  next => exact hexchange h htalk

end Session

/-! ## 4. Operations -/

/-- **The talk of calls with a backend** below an endpoint: a call comes to what the session makes
of a response that fits. -/
inductive Speaks (B : Backend τ) (e : Text) : τ → List (Dialogue.Event Remote) → τ → Prop where
  | nil (t : τ) : Speaks B e t [] t
  | call {t t₁ t' : τ} {es : List (Dialogue.Event Remote)} {c : Call} {a : Except Fault Response}
      (h : c.headers = .null → ∀ p, c.path = .text p →
        ∃ r, a = Session.accept c r ∧ B.answers ⟨c.method, e ++ p, c.body⟩ t r t₁)
      (rest : Speaks B e t₁ es t') : Speaks B e t (⟨.call c, a⟩ :: es) t'
  | storage {t t' : τ} {es : List (Dialogue.Event Remote)} {q : Storage.Question} {x : q.Answer}
      (rest : Speaks B e t es t') : Speaks B e t (⟨.storage q, x⟩ :: es) t'

variable {e : Text} {ces ces₁ ces₂ : List (Dialogue.Event Remote)}

theorem speaks_nil : Speaks B e t [] t' ↔ t' = t := by
  constructor
  · rintro ⟨⟩
    rfl
  · rintro rfl
    exact .nil _

theorem Speaks.append (h : Speaks B e t (ces₁ ++ ces₂) t') :
    ∃ t₁, Speaks B e t ces₁ t₁ ∧ Speaks B e t₁ ces₂ t' := by
  induction ces₁ generalizing t with
  | nil => exact ⟨t, .nil t, h⟩
  | cons ev ces₁ ih =>
    cases h with
    | call hanswer rest =>
      obtain ⟨t₁, h₁, h₂⟩ := ih rest
      exact ⟨t₁, .call hanswer h₁, h₂⟩
    | storage rest =>
      obtain ⟨t₁, h₁, h₂⟩ := ih rest
      exact ⟨t₁, .storage h₁, h₂⟩

/-- **An operation over a usable session is a talk of its calls** with the backend. -/
theorem speaks_of_run {σ α : Type} (w : Dialogue.World Wire σ) (hB : B.Calm) (d : Dialogue Remote α)
    {s : Session} (hs : s.Usable) (he : s.endpoint = .text e) (st : σ)
    (htalk : Talk B t (Dialogue.run w (Session.carryOut d s) st).events t') :
    Speaks B e t ((Session.turns w d s st).map Dialogue.Turn.event) t' := by
  induction d generalizing t s st with
  | done a => exact speaks_nil.2 (talk_nil.1 htalk)
  | ask q next ih =>
    rw [Session.run_carryOut_ask] at htalk
    rw [Session.turns_ask, List.map_cons]
    have hcourse := Dialogue.course_run w (Session.serve q s) st
    obtain ⟨token, hafter⟩ := (Session.succeeds_of_serve ⟨⟨s.token, rfl⟩, id⟩ hcourse).1
    dsimp only at htalk ⊢
    obtain ⟨t₁, hfirst, hrest⟩ := talk_append.1 htalk
    have husable : (Dialogue.run w (Session.serve q s) st).result.2.Usable := by
      rw [hafter]
      exact hs.withToken token
    have hendpoint : (Dialogue.run w (Session.serve q s) st).result.2.endpoint = .text e := by
      rw [hafter]
      exact he
    have hspeaks := ih _ husable hendpoint _ hrest
    cases q with
    | call c =>
      refine .call (fun hheaders p hpath => ?_) hspeaks
      exact Session.answered_of_request hB hs he hheaders hpath (Action.course_iff.1 hcourse) hfirst
    | storage q =>
      obtain ⟨es₁, x, es₂, hask, hend, hes⟩ := Dialogue.course_bind.1 hcourse
      obtain ⟨rfl, _⟩ := Dialogue.course_done.1 hend
      obtain rfl := Dialogue.course_question.1 hask
      rw [hes, List.append_nil] at hfirst
      have hsame : t₁ = t := by
        cases hfirst with
        | aside _ rest => exact talk_nil.1 rest
      subst hsame
      exact .storage hspeaks

end StorageBroker
