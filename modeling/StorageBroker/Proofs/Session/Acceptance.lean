import StorageBroker.Proofs.Session.Delivery
import StorageBroker.Proofs.Session.Operations
/-!
# What was accepted

A call that got a response was sent, and what it got is the response to a request of its own: the
method, the address and the body are those of the call, and the status is one that the call accepts.

* `Carries` -- the requests of a call, whatever token and headers they have;
* `accepted_of_request` -- no policy of trying again changes that;
* `accepted_of_turns` -- the same for a call of an operation;
* `taken` -- what was sent to an address and accepted there, as it is seen on the wire;
* `Sends` -- what was sent to an address, accepted there or not.
-/

namespace StorageBroker.Session

variable {s s₁ s' : Session} {es es' : Events} {c : Call} {u : Text} {a : Response}

/-! ## 1. The requests of a call -/

/-- **The request is one of the call itself**, and no login. -/
def Carries (s : Session) (c : Call) (q : Request) : Prop :=
  ∃ t u own, s.urlText c.path = .ok u ∧ q = (s.withToken t).callRequest c u own

/-- A request of the call got a response that the call accepts. -/
def Accepted (s : Session) (c : Call) (a : Response) (es : Events) : Prop :=
  ∃ q, sent q (.response a) ∈ es ∧ Carries s c q ∧ c.accepted.holds (.int a.status) = .ok true

theorem Carries.method {q : Request} (h : Carries s c q) : q.method = c.method := by
  obtain ⟨_, _, _, _, rfl⟩ := h
  rfl

theorem Carries.of_withToken {t : Option Text} {q : Request} (h : Carries (s.withToken t) c q) :
    Carries s c q := by
  obtain ⟨t', u, own, hu, rfl⟩ := h
  exact ⟨t', u, own, hu, rfl⟩

theorem Accepted.mono (h : Accepted s c a es) (hes : ∀ e ∈ es, e ∈ es') : Accepted s c a es' := by
  obtain ⟨q, hq, hcarries, hstatus⟩ := h
  exact ⟨q, hes _ hq, hcarries, hstatus⟩

theorem Accepted.of_withToken {t : Option Text} (h : Accepted (s.withToken t) c a es) :
    Accepted s c a es := by
  obtain ⟨q, hq, hcarries, hstatus⟩ := h
  exact ⟨q, hq, hcarries.of_withToken, hstatus⟩

/-! ## 2. One call -/

/-- A delivery that gives a response ends with it, and it is one to a request of the call. -/
theorem DeliverCourse.carries (hu : s.urlText c.path = .ok u)
    (h : DeliverCourse c u s es (.ok a) s') :
    ∃ init q, es = init ++ [sent q (.response a)] ∧ Carries s c q := by
  generalize hresult : Except.ok a = result at h
  cases h with
  | unsent hown => cases hresult
  | failed hown hx => cases hresult
  | unrenewed hown hr hlogin => cases hresult
  | answered hown hr =>
    cases hresult
    exact ⟨[], _, rfl, s.token, u, _, hu, rfl⟩
  | @renewed own _ es x s' hown hr hlogin =>
    obtain ⟨t, rfl⟩ := hlogin.same
    cases x with
    | impossible m => cases hresult
    | failure m => cases hresult
    | response r =>
      cases hresult
      exact ⟨_ :: es, _, rfl, t, u, own, hu, rfl⟩

theorem ExchangeCourse.accepted (h : ExchangeCourse c s es (.ok a) s') : Accepted s c a es := by
  generalize hresult : Except.ok a = result at h
  cases h with
  | unentered h hlogin => cases hresult
  | unaddressed hopen hu => cases hresult
  | undelivered hopen hu hdeliver => cases hresult
  | delivered hopen hu hdeliver =>
    obtain ⟨rfl, hstatus, _⟩ := accept_eq_ok.1 hresult.symm
    obtain ⟨t, rfl⟩ := hopen.same
    obtain ⟨init, q, rfl, hcarries⟩ := hdeliver.carries hu
    refine ⟨q, ?_, hcarries.of_withToken, hstatus⟩
    exact List.mem_append_right _ (List.mem_append_right _ (List.mem_singleton_self _))

/-- A session that is what it was but for its token, and what it got. -/
def Gets (c : Call) (s : Session) (es : Events) (r : Except Fault Response) (s' : Session) : Prop :=
  (∃ t, s' = s.withToken t) ∧ ∀ a, r = .ok a → Accepted s c a es

theorem gets_of_exchange {r : Except Fault Response} (h : ExchangeCourse c s es r s') :
    Gets c s es r s' := by
  refine ⟨(served_of_exchange h).same, ?_⟩
  rintro a rfl
  exact h.accepted

theorem closed_gets : Retry.Closed (Gets c) where
  again := by
    rintro s es f s₁ ws rest r s' ⟨⟨t, rfl⟩, _⟩ _ ⟨⟨t', rfl⟩, hrest⟩
    refine ⟨⟨t', rfl⟩, fun a ha => ?_⟩
    exact (hrest a ha).of_withToken.mono fun e he => List.mem_append_right _ he
  stopped := by
    rintro s es f s' ws m ⟨hsame, _⟩ _
    exact ⟨hsame, fun a ha => by cases ha⟩

/-- **A call that got a response** got it for a request of its own, whatever the policy of the
session is. -/
theorem accepted_of_request (h : (request c).Course s es (.ok a) s') : Accepted s c a es :=
  (closed_of_request closed_gets gets_of_exchange h).2 a rfl

/-! ## 3. Operations -/

/-- **A call of an operation that got a response** got it for a request that is seen on the wire. -/
theorem accepted_of_turns {σ α : Type} (w : Dialogue.World Wire σ) (d : Dialogue Remote α)
    (s : Session) (st : σ)
    (h : (⟨.call c, .ok a⟩ : Dialogue.Event Remote) ∈ (turns w d s st).map Dialogue.Turn.event) :
    Accepted s c a (Dialogue.run w (carryOut d s) st).events := by
  obtain ⟨turn, hturn, hevent⟩ := List.mem_map.1 h
  obtain ⟨s₁, s₂, ⟨⟨t, rfl⟩, _⟩, hcourse⟩ := turn_of_call w d s st hturn hevent
  rw [events_carryOut]
  exact (accepted_of_request hcourse).of_withToken.mono
    fun e he => List.mem_flatMap.2 ⟨turn, hturn, he⟩

/-! ## 4. Events -/

/-- **The body of a request that was accepted**, if the event is such a request of a method to an
address: it got a response with the status of a success. A login is no such request. -/
def taken (method : Text) (address : Except Malformed Text) : Dialogue.Event Wire → Option Value
  | ⟨.http (.resource (.text m) u _ _ body _ _), .response a⟩ =>
    if m = method ∧ address = .ok u ∧ a.status = 200 then some body else none
  | _ => none

/-- A call that got a response was taken. -/
theorem Accepted.taken {method : Text} (h : Accepted s c a es) (hmethod : c.method = .text method)
    (haccepted : c.accepted = .list [.int 200]) :
    ∃ e ∈ es, taken method (s.urlText c.path) e = some c.body := by
  obtain ⟨q, hq, ⟨t, u, own, hu, rfl⟩, hstatus⟩ := h
  have h200 : a.status = 200 := by
    rw [haccepted] at hstatus
    simpa [Value.holds, Value.equal_int_int] using hstatus
  refine ⟨_, hq, ?_⟩
  obtain ⟨m, path, body, parse, accepted, headers, params⟩ := c
  cases hmethod
  exact if_pos ⟨rfl, hu, h200⟩

/-- What was taken belongs to a call of that method to that address. -/
theorem RequestOf.of_taken {method : Text} {address : Except Malformed Text} {body : Value}
    {e : Dialogue.Event Wire} (h : RequestOf s c e) (htaken : taken method address e = some body) :
    c.method = .text method ∧ ∃ u, address = .ok u ∧ s.urlText c.path = .ok u := by
  cases h with
  | login hu => cases htaken
  | pause => cases htaken
  | random => cases htaken
  | call hu =>
    obtain ⟨m, path, body', parse, accepted, headers, params⟩ := c
    unfold taken at htaken
    split at htaken
    next heq =>
      cases heq
      split at htaken
      next hfits => exact ⟨congrArg Value.text hfits.1, _, hfits.2.1, hu⟩
      next => cases htaken
    next => cases htaken

/-- Two paths of one address are the same. -/
theorem urlText_inj {t : Text} {path : Value} (h : s.urlText (.text t) = .ok u)
    (h' : s.urlText path = .ok u) : path = .text t := by
  obtain ⟨v, hv, hu⟩ := bind_eq_ok.1 h
  obtain ⟨e, he, rfl⟩ := joined_eq_text hv
  obtain ⟨v', hv', hu'⟩ := bind_eq_ok.1 h'
  rw [url, he, Value.joined_text_eq_ok] at hv'
  obtain ⟨t', rfl, rfl⟩ := hv'
  cases hu
  rw [(Text.append_right_inj e).1 (Except.ok.inj hu')]

/-! ## 5. Requests to an address -/

/-- **A request of a method to an address**, whatever comes of it, and no login. -/
def Sends (method : Text) (address : Except Malformed Text) (e : Dialogue.Event Wire) : Prop :=
  ∃ q x, e = sent q x ∧ q.isLogin = false ∧ q.method = .text method ∧ address = .ok q.url

/-- A call that got a response was sent to its address. -/
theorem Accepted.sends {method : Text} (h : Accepted s c a es)
    (hmethod : c.method = .text method) : ∃ e ∈ es, Sends method (s.urlText c.path) e := by
  obtain ⟨q, hq, ⟨t, u, own, hu, rfl⟩, _⟩ := h
  exact ⟨_, hq, _, _, rfl, rfl, hmethod, hu⟩

/-- What is sent to the address of a path belongs to a call of that method and path. -/
theorem RequestOf.of_sends {method p : Text} {e : Dialogue.Event Wire} (h : RequestOf s c e)
    (hsends : Sends method (s.urlText (.text p)) e) :
    c.method = .text method ∧ c.path = .text p := by
  obtain ⟨q, x, rfl, hlogin, hmethod, haddress⟩ := hsends
  generalize hevent : sent q x = e at h
  cases h with
  | login hu => cases hevent; cases hlogin
  | pause => cases hevent
  | random => cases hevent
  | call hu => cases hevent; exact ⟨hmethod, urlText_inj haddress hu⟩

/-- **What an operation sends to the address of a path** it sends for a call of that method and
path. -/
theorem call_of_sends {σ α : Type} (w : Dialogue.World Wire σ) (d : Dialogue Remote α)
    (s : Session) (st : σ) {method p : Text} {e : Dialogue.Event Wire}
    (he : e ∈ (Dialogue.run w (carryOut d s) st).events)
    (hsends : Sends method (s.urlText (.text p)) e) :
    ∃ c a, (⟨.call c, a⟩ : Dialogue.Event Remote) ∈ (turns w d s st).map Dialogue.Turn.event ∧
      c.method = .text method ∧ c.path = .text p := by
  obtain ⟨c, a, hturn, hrequest⟩ | ⟨q, a, _, rfl⟩ := event_of_turns w d s st he
  · exact ⟨c, a, hturn, hrequest.of_sends hsends⟩
  · obtain ⟨_, _, hevent, _⟩ := hsends
    cases hevent

end StorageBroker.Session
