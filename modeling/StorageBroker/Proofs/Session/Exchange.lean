import StorageBroker.Proofs.Course
import StorageBroker.Session
/-!
# Exchanges

What a session can send for one attempt of a call, said once: everything else about sessions is
read off the courses of this file.

* `LoginCourse` -- a login sends nothing, or one request that is refused, or one that gives a token;
* `DeliverCourse` -- the request of a call goes out once, or a second time after a refused token and
  a login that gave a new one;
* `ExchangeCourse` -- an attempt is a login where no token is held, then the delivery, then the
  judgement of the response.
-/

namespace StorageBroker.Session

/-- Events on the wire. -/
abbrev Events := List (Dialogue.Event Wire)

/-- The event of a request that got a reply. -/
def sent (q : Request) (x : Reply) : Dialogue.Event Wire := ⟨.http q, x⟩

variable {s s' : Session} {es : Events} {c : Call} {u : Text}

theorem course_send_wire {q : Request} {r : Except Fault Reply} :
    (Action.perform (Wire.send q) : Step Reply).Course s es r s' ↔
      ∃ x, es = [sent q x] ∧ r = .ok x ∧ s' = s := by
  rw [Action.course_perform]
  constructor
  · rintro ⟨x, hx, rfl, rfl⟩
    exact ⟨x, Dialogue.course_question.1 hx, rfl, rfl⟩
  · rintro ⟨x, rfl, rfl, rfl⟩
    exact ⟨x, Dialogue.course_question.2 rfl, rfl, rfl⟩

/-! ## 1. Logging in -/

/-- The address to log in at, for a session that has all that a login needs. -/
def loginAddress (s : Session) : Except Fault Text := do
  Completeness.check "login" loginNeeds s.loginAttributes
  s.urlText (.text "/login")

def loginRequest (s : Session) (u : Text) : Request :=
  .login u s.username s.password s.verifySsl s.timeout

/-- The token that the reply to a login gives. -/
def tokenFrom (s : Session) : Reply → Except Fault Text
  | .impossible m => .error (.malformed m)
  | .failure m => .error (.management ("Login to " ++ s.endpoint.plain ++ " failed: " ++ m))
  | .response r => tokenOf r

/-- The session with another token. -/
def withToken (s : Session) (t : Option Text) : Session := { s with token := t }

/-- **The courses of a login.** -/
inductive LoginCourse (s : Session) : Events → Except Fault Unit → Session → Prop where
  | unsent {f : Fault} (hu : s.loginAddress = .error f) : LoginCourse s [] (.error f) s
  | refused {u : Text} {x : Reply} {f : Fault} (hu : s.loginAddress = .ok u)
      (hx : s.tokenFrom x = .error f) : LoginCourse s [sent (s.loginRequest u) x] (.error f) s
  | granted {u : Text} {x : Reply} {t : Text} (hu : s.loginAddress = .ok u)
      (hx : s.tokenFrom x = .ok t) :
      LoginCourse s [sent (s.loginRequest u) x] (.ok ()) (s.withToken (some t))

theorem loginCourse_of_course {r : Except Fault Unit} (h : login.Course s es r s') :
    LoginCourse s es r s' := by
  rw [login, Action.course_get_bind, Action.course_lift_bind] at h
  obtain ⟨f, hf, rfl, rfl, rfl⟩ | ⟨⟨⟩, hcheck, h⟩ := h
  · exact .unsent (by rw [loginAddress, hf]; rfl)
  rw [Action.course_lift_malformed_bind] at h
  obtain ⟨m, hm, rfl, rfl, rfl⟩ | ⟨u, hu, h⟩ := h
  · exact .unsent (by rw [loginAddress, hcheck, hm]; rfl)
  have haddress : s.loginAddress = .ok u := by rw [loginAddress, hcheck, hu]; rfl
  rw [Action.course_bind] at h
  obtain ⟨f, hsend, _⟩ | ⟨_, x, _, es₂, hsend, h, rfl⟩ := h
  · obtain ⟨x, _, hx, _⟩ := course_send_wire.1 hsend
    cases hx
  obtain ⟨x, rfl, hx, rfl⟩ := course_send_wire.1 hsend
  cases hx
  cases x with
  | impossible m =>
    rw [Action.course_throw] at h
    obtain ⟨rfl, rfl, rfl⟩ := h
    exact .refused haddress rfl
  | failure m =>
    rw [Action.course_throw] at h
    obtain ⟨rfl, rfl, rfl⟩ := h
    exact .refused haddress rfl
  | response x =>
    dsimp only at h
    rw [Action.course_lift_bind] at h
    obtain ⟨f, hf, rfl, rfl, rfl⟩ | ⟨t, ht, h⟩ := h
    · exact .refused haddress hf
    · rw [Action.course_modify] at h
      obtain ⟨rfl, rfl, rfl⟩ := h
      exact .granted haddress ht

/-! ## 2. Delivering -/

/-- The request of a call at an address, with a caller's headers. -/
def callRequest (s : Session) (c : Call) (u : Text) (own : Mapping) : Request :=
  .resource c.method u (given c.params) (headersWith own s.token) c.body s.verifySsl s.timeout

/-- What the reply to the request of a call comes to. -/
def received (c : Call) (u : Text) : Reply → Except Fault Response
  | .impossible m => .error (.malformed m)
  | .failure m => .error (.management (c.method.plain ++ " " ++ u ++ " failed: " ++ m))
  | .response r => .ok r

theorem course_send {s s' : Session} {es : Events} {r : Except Fault Response}
    (h : (send c.method u (given c.params) c.body c.headers).Course s es r s') :
    s' = s ∧ ((∃ m, ownHeaders c.headers = .error m ∧ es = [] ∧ r = .error (.malformed m)) ∨
      ∃ own x, ownHeaders c.headers = .ok own ∧ es = [sent (s.callRequest c u own) x] ∧
        r = received c u x) := by
  rw [send, Action.course_lift_malformed_bind] at h
  obtain ⟨m, hm, rfl, rfl, rfl⟩ | ⟨own, hown, h⟩ := h
  · exact ⟨rfl, .inl ⟨m, hm, rfl, rfl⟩⟩
  rw [Action.course_get_bind, Action.course_bind] at h
  obtain ⟨f, hsend, _⟩ | ⟨_, x, s₁, es₂, hsend, h, rfl⟩ := h
  · obtain ⟨x, _, hx, _⟩ := course_send_wire.1 hsend
    cases hx
  obtain ⟨x, rfl, hx, hs⟩ := course_send_wire.1 hsend
  cases hx
  have hend : es₂ = [] ∧ r = received c u x ∧ s' = s₁ := by
    cases x with
    | impossible m => exact Action.course_throw.1 h
    | failure m => exact Action.course_throw.1 h
    | response x => exact Action.course_pure.1 h
  obtain ⟨rfl, rfl, rfl⟩ := hend
  exact ⟨hs, .inr ⟨own, x, hown, rfl, rfl⟩⟩

/-- **The courses of the delivery of a call.** -/
inductive DeliverCourse (c : Call) (u : Text) (s : Session) :
    Events → Except Fault Response → Session → Prop where
  | unsent {m : Malformed} (hown : ownHeaders c.headers = .error m) :
      DeliverCourse c u s [] (.error (.malformed m)) s
  | failed {own : Mapping} {x : Reply} {f : Fault} (hown : ownHeaders c.headers = .ok own)
      (hx : received c u x = .error f) :
      DeliverCourse c u s [sent (s.callRequest c u own) x] (.error f) s
  | answered {own : Mapping} {r : Response} (hown : ownHeaders c.headers = .ok own)
      (hr : r.status ≠ 401) :
      DeliverCourse c u s [sent (s.callRequest c u own) (.response r)] (.ok r) s
  | unrenewed {own : Mapping} {r : Response} {es : Events} {f : Fault} {s' : Session}
      (hown : ownHeaders c.headers = .ok own) (hr : r.status = 401)
      (hlogin : LoginCourse (s.withToken none) es (.error f) s') :
      DeliverCourse c u s (sent (s.callRequest c u own) (.response r) :: es) (.error f) s'
  | renewed {own : Mapping} {r : Response} {es : Events} {x : Reply} {s' : Session}
      (hown : ownHeaders c.headers = .ok own) (hr : r.status = 401)
      (hlogin : LoginCourse (s.withToken none) es (.ok ()) s') :
      DeliverCourse c u s
        (sent (s.callRequest c u own) (.response r) :: (es ++ [sent (s'.callRequest c u own) x]))
        (received c u x) s'

theorem deliverCourse_of_course {r : Except Fault Response}
    (h : (deliver c u).Course s es r s') : DeliverCourse c u s es r s' := by
  rw [deliver] at h
  rw [Action.course_bind] at h
  obtain ⟨f, hsend, rfl⟩ | ⟨es₁, first, s₁, es₂, hsend, h, rfl⟩ := h
  · obtain ⟨rfl, ⟨m, hown, rfl, hm⟩ | ⟨own, x, hown, rfl, hx⟩⟩ := course_send hsend
    · cases hm
      exact .unsent hown
    · exact .failed hown hx.symm
  obtain ⟨rfl, ⟨m, hown, rfl, hm⟩ | ⟨own, x, hown, rfl, hx⟩⟩ := course_send hsend
  · cases hm
  cases x with
  | impossible m => cases hx
  | failure m => cases hx
  | response first =>
    cases hx
    split at h
    next hr =>
      rw [forget, Action.course_modify_bind] at h
      rw [Action.course_bind] at h
      obtain ⟨f, hlogin, rfl⟩ | ⟨es₁, ⟨⟩, s₁, es₃, hlogin, h, rfl⟩ := h
      · exact .unrenewed hown hr (loginCourse_of_course hlogin)
      obtain ⟨rfl, ⟨m, hown', _⟩ | ⟨own', x, hown', rfl, rfl⟩⟩ := course_send h
      · rw [hown] at hown'
        cases hown'
      · rw [hown] at hown'
        cases hown'
        exact .renewed hown hr (loginCourse_of_course hlogin)
    next hr =>
      rw [Action.course_pure] at h
      obtain ⟨rfl, rfl, rfl⟩ := h
      exact .answered hown hr

/-! ## 3. One attempt -/

/-- What comes before the delivery: nothing for a session that holds a token, else a login that
gives one. -/
inductive OpenCourse (s : Session) : Events → Session → Prop where
  | held (h : s.isLoggedIn) : OpenCourse s [] s
  | entered {es : Events} {s' : Session} (h : s.isLoggedIn = false)
      (hlogin : LoginCourse s es (.ok ()) s') : OpenCourse s es s'

/-- **The courses of one attempt of a call.** -/
inductive ExchangeCourse (c : Call) (s : Session) :
    Events → Except Fault Response → Session → Prop where
  | unentered {es : Events} {f : Fault} {s' : Session} (h : s.isLoggedIn = false)
      (hlogin : LoginCourse s es (.error f) s') : ExchangeCourse c s es (.error f) s'
  | unaddressed {es : Events} {m : Malformed} {s' : Session} (hopen : OpenCourse s es s')
      (hu : s'.urlText c.path = .error m) : ExchangeCourse c s es (.error (.malformed m)) s'
  | undelivered {es₁ es₂ : Events} {u : Text} {f : Fault} {s₁ s' : Session}
      (hopen : OpenCourse s es₁ s₁) (hu : s₁.urlText c.path = .ok u)
      (hdeliver : DeliverCourse c u s₁ es₂ (.error f) s') :
      ExchangeCourse c s (es₁ ++ es₂) (.error f) s'
  | delivered {es₁ es₂ : Events} {u : Text} {r : Response} {s₁ s' : Session}
      (hopen : OpenCourse s es₁ s₁) (hu : s₁.urlText c.path = .ok u)
      (hdeliver : DeliverCourse c u s₁ es₂ (.ok r) s') :
      ExchangeCourse c s (es₁ ++ es₂) (accept c r) s'

theorem exchangeCourse_of_open {es₁ es₂ : Events} {r : Except Fault Response} {s₁ : Session}
    (hopen : OpenCourse s es₁ s₁)
    (h : (do
      let u ← (← get).urlText c.path
      accept c (← deliver c u) : Step Response).Course s₁ es₂ r s') :
    ExchangeCourse c s (es₁ ++ es₂) r s' := by
  rw [Action.course_get_bind, Action.course_lift_malformed_bind] at h
  obtain ⟨m, hm, rfl, rfl, rfl⟩ | ⟨u, hu, h⟩ := h
  · rw [List.append_nil]
    exact .unaddressed hopen hm
  rw [Action.course_bind] at h
  obtain ⟨f, hdeliver, rfl⟩ | ⟨es₃, x, s₂, es₄, hdeliver, h, rfl⟩ := h
  · exact .undelivered hopen hu (deliverCourse_of_course hdeliver)
  rw [Action.course_lift] at h
  obtain ⟨rfl, rfl, rfl⟩ := h
  rw [List.append_nil]
  exact .delivered hopen hu (deliverCourse_of_course hdeliver)

theorem exchangeCourse_of_course {r : Except Fault Response} (h : (exchange c).Course s es r s') :
    ExchangeCourse c s es r s' := by
  rw [exchange, Action.course_get_bind] at h
  cases htoken : s.isLoggedIn with
  | true =>
    rw [htoken] at h
    exact exchangeCourse_of_open (.held htoken) h
  | false =>
    rw [htoken] at h
    simp only [Bool.not_false, if_true] at h
    rw [Action.course_bind] at h
    obtain ⟨f, hlogin, rfl⟩ | ⟨es₁, ⟨⟩, s₁, es₂, hlogin, h, rfl⟩ := h
    · exact .unentered htoken (loginCourse_of_course hlogin)
    · exact exchangeCourse_of_open (.entered htoken (loginCourse_of_course hlogin)) h

end StorageBroker.Session
