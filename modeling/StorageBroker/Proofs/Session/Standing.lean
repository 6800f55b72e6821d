import StorageBroker.Proofs.Outcome
import StorageBroker.Proofs.Retry
import StorageBroker.Proofs.Session.Exchange
/-!
# The standing of a session

What a session is for good and what changes with its calls. Endpoint, user and password never
change; only the token comes and goes. A session with a token has logged in once, so it has all that
a login needs and can do so again.

* `Ready`, `Sound` -- a session that could log in; a session that has a token only if it could;
* `Served` -- what every call keeps to: the requests it sends and the faults it fails with;
* `served_of_request` -- no policy of trying again changes that;
* `isManagement_of_exchange` -- a session that could log in fails in no other way than for the
  management API.
-/

namespace StorageBroker

/-- The faults that a session can fail with. -/
def Fault.isOfSession : Fault → Bool
  | .malformed _ | .configuration _ => true
  | f => f.isManagement

theorem Fault.not_isBroker_of_isOfSession {f : Fault} (h : f.isOfSession) :
    f.isBroker = false := by
  cases f <;> first | rfl | cases h

theorem Fault.isOfSession_of_isManagement {f : Fault} (h : f.isManagement) : f.isOfSession := by
  cases f <;> first | rfl | cases h

/-- A needed attribute that is not set is a matter of the configuration. -/
theorem Completeness.checkAll_eq_error {operation : Text} {attributes : Mapping}
    {names : List Value} {f : Fault} (h : checkAll operation attributes names = .error f) :
    (∃ m, f = .configuration m) ∨ ∃ m, f = .malformed m := by
  induction names with
  | nil => cases h
  | cons name names ih =>
    rw [checkAll, bind_eq_error] at h
    obtain h | ⟨_, _, h⟩ := h
    · unfold checkOne at h
      split at h
      · split at h
        · cases h
        · cases h
          exact .inl ⟨_, rfl⟩
      · cases h
        exact .inr ⟨_, rfl⟩
    · exact ih h

theorem Completeness.check_eq_error {operation : Text} {needed : Value} {attributes : Mapping}
    {f : Fault} (h : check operation needed attributes = .error f) :
    (∃ m, f = .configuration m) ∨ ∃ m, f = .malformed m := by
  rw [check, bind_eq_error] at h
  obtain h | ⟨names, _, h⟩ := h
  · obtain ⟨m, _, rfl⟩ := lift_eq_error.1 h
    exact .inr ⟨m, rfl⟩
  · exact checkAll_eq_error h

namespace Session

variable {s s₁ s' : Session} {es : Events} {c : Call} {u : Text} {f : Fault}

/-! ## 1. Sessions that could log in -/

/-- The session has all that a login needs. -/
def Ready (s : Session) : Prop := ∃ u, s.loginAddress = .ok u

/-- A session holds a token only if it could get one. -/
def Sound (s : Session) : Prop := s.isLoggedIn → s.Ready

theorem ready_withToken {t : Option Text} : (s.withToken t).Ready ↔ s.Ready := Iff.rfl

theorem Ready.sound (h : s.Ready) : s.Sound := fun _ => h

theorem sound_start {endpoint username password verifySsl timeout : Value}
    {retry : Option Retry.Policy}
    (h : start endpoint username password verifySsl timeout retry = .ok s) : s.Sound := by
  rw [start, bind_eq_ok] at h
  obtain ⟨a, _, h⟩ := h
  rw [pure_eq_ok] at h
  subst h
  intro htoken
  cases htoken

theorem loginAddress_eq_error (h : s.loginAddress = .error f) :
    (∃ m, f = .configuration m) ∨ ∃ m, f = .malformed m := by
  rw [loginAddress, bind_eq_error] at h
  obtain h | ⟨_, _, h⟩ := h
  · exact Completeness.check_eq_error h
  · obtain ⟨m, _, rfl⟩ := lift_eq_error.1 h
    exact .inr ⟨m, rfl⟩

/-- Only a text is joined to a text. -/
theorem joined_eq_text {v w : Value} {t : Text} (h : v.joined (.text t) = .ok w) :
    ∃ e, v = .text e ∧ w = .text (e ++ t) := by
  cases v with
  | text e =>
    rw [Value.joined_text] at h
    cases h
    exact ⟨e, rfl, rfl⟩
  | _ => simp [Value.joined, Value.number?] at h

theorem Ready.endpoint (h : s.Ready) : ∃ e, s.endpoint = .text e := by
  obtain ⟨u, h⟩ := h
  rw [loginAddress, bind_eq_ok] at h
  obtain ⟨_, _, h⟩ := h
  rw [lift_eq_ok, urlText, bind_eq_ok] at h
  obtain ⟨w, hw, _⟩ := h
  obtain ⟨e, he, _⟩ := joined_eq_text hw
  exact ⟨e, he⟩

theorem urlText_of_endpoint {e p : Text} (h : s.endpoint = .text e) :
    s.urlText (.text p) = .ok (e ++ p) := by
  rw [urlText, url, h, Value.joined_text]
  rfl

/-! ## 2. Requests -/

/-- **The requests that belong to a call**, with the pauses between them. -/
inductive RequestOf (s : Session) (c : Call) : Dialogue.Event Wire → Prop where
  | login {u : Text} {x : Reply} (hu : s.loginAddress = .ok u) :
      RequestOf s c (sent (s.loginRequest u) x)
  | call {t : Option Text} {u : Text} {own : Mapping} {x : Reply}
      (hu : s.urlText c.path = .ok u) :
      RequestOf s c (sent ((s.withToken t).callRequest c u own) x)
  | pause {seconds : Float} : RequestOf s c ⟨.pause seconds, ()⟩
  | random {x : Float} : RequestOf s c ⟨.random, x⟩

theorem RequestOf.of_withToken {t : Option Text} {e : Dialogue.Event Wire}
    (h : RequestOf (s.withToken t) c e) : RequestOf s c e := by
  cases h with
  | login hu => exact .login hu
  | call hu => exact .call hu
  | pause => exact .pause
  | random => exact .random

theorem LoginCourse.requestOf {r : Except Fault Unit} (h : LoginCourse s es r s') :
    ∀ e ∈ es, RequestOf s c e := by
  intro e he
  cases h with
  | unsent hu => cases he
  | refused hu hx => cases List.mem_singleton.1 he; exact .login hu
  | granted hu hx => cases List.mem_singleton.1 he; exact .login hu

/-- A login changes nothing but the token. -/
theorem LoginCourse.same {r : Except Fault Unit} (h : LoginCourse s es r s') :
    ∃ t, s' = s.withToken t := by
  cases h with
  | unsent hu => exact ⟨s.token, rfl⟩
  | refused hu hx => exact ⟨s.token, rfl⟩
  | granted hu hx => exact ⟨_, rfl⟩

theorem LoginCourse.ready (h : LoginCourse s es (.ok ()) s') : s.Ready := by
  cases h with
  | granted hu hx => exact ⟨_, hu⟩

/-- A login that fails gives no token. -/
theorem LoginCourse.token_of_error (h : LoginCourse s es (.error f) s') : s' = s := by
  cases h <;> rfl

theorem OpenCourse.same (h : OpenCourse s es s') : ∃ t, s' = s.withToken t := by
  cases h with
  | held h => exact ⟨s.token, rfl⟩
  | entered h hlogin => exact hlogin.same

theorem OpenCourse.requestOf (h : OpenCourse s es s') : ∀ e ∈ es, RequestOf s c e := by
  cases h with
  | held h => exact fun e he => absurd he List.not_mem_nil
  | entered h hlogin => exact hlogin.requestOf

theorem LoginCourse.isLoggedIn (h : LoginCourse s es (.ok ()) s') : s'.isLoggedIn := by
  cases h with
  | granted hu hx => rfl

theorem OpenCourse.isLoggedIn (h : OpenCourse s es s') : s'.isLoggedIn := by
  cases h with
  | held h => exact h
  | entered h hlogin => exact hlogin.isLoggedIn

theorem OpenCourse.ready (hs : s.Sound) (h : OpenCourse s es s') : s.Ready := by
  cases h with
  | held h => exact hs h
  | entered h hlogin => exact hlogin.ready

theorem DeliverCourse.same {r : Except Fault Response} (h : DeliverCourse c u s es r s') :
    ∃ t, s' = s.withToken t := by
  cases h with
  | unsent hown => exact ⟨s.token, rfl⟩
  | failed hown hx => exact ⟨s.token, rfl⟩
  | answered hown hr => exact ⟨s.token, rfl⟩
  | unrenewed hown hr hlogin =>
    obtain ⟨t, rfl⟩ := hlogin.same
    exact ⟨t, rfl⟩
  | renewed hown hr hlogin =>
    obtain ⟨t, rfl⟩ := hlogin.same
    exact ⟨t, rfl⟩

theorem DeliverCourse.isLoggedIn {r : Response} (hs : s.isLoggedIn)
    (h : DeliverCourse c u s es (.ok r) s') : s'.isLoggedIn := by
  generalize hresult : Except.ok r = result at h
  cases h with
  | unsent hown => cases hresult
  | failed hown hx => cases hresult
  | answered hown hr => exact hs
  | unrenewed hown hr hlogin => cases hresult
  | renewed hown hr hlogin => exact hlogin.isLoggedIn

theorem DeliverCourse.requestOf {r : Except Fault Response} (hu : s.urlText c.path = .ok u)
    (h : DeliverCourse c u s es r s') : ∀ e ∈ es, RequestOf s c e := by
  intro e he
  cases h with
  | unsent hown => cases he
  | failed hown hx => cases List.mem_singleton.1 he; exact .call (t := s.token) hu
  | answered hown hr => cases List.mem_singleton.1 he; exact .call (t := s.token) hu
  | unrenewed hown hr hlogin =>
    rcases List.mem_cons.1 he with rfl | he
    · exact .call (t := s.token) hu
    · exact (hlogin.requestOf e he).of_withToken
  | renewed hown hr hlogin =>
    rcases List.mem_cons.1 he with rfl | he
    · exact .call (t := s.token) hu
    rcases List.mem_append.1 he with he | he
    · exact (hlogin.requestOf e he).of_withToken
    · obtain ⟨t, rfl⟩ := hlogin.same
      cases List.mem_singleton.1 he
      exact .call (t := t) hu

/-! ## 3. Failures -/

/-- A request got a response, or the transport failed: it could be sent. -/
def Possible (e : Dialogue.Event Wire) : Prop :=
  ∀ q x m, e = sent q x → x ≠ .impossible m

/-- Whether a reply is one to a request that could be sent is seen from the reply. -/
instance (e : Dialogue.Event Wire) : Decidable (Possible e) :=
  match e with
  | ⟨.http q, .impossible m⟩ => isFalse fun h => h q (.impossible m) m rfl rfl
  | ⟨.http _, .response _⟩ => isTrue fun _ _ _ h => by cases h; nofun
  | ⟨.http _, .failure _⟩ => isTrue fun _ _ _ h => by cases h; nofun
  | ⟨.storage _, _⟩ => isTrue fun _ _ _ h => nomatch h
  | ⟨.pause _, _⟩ => isTrue fun _ _ _ h => nomatch h
  | ⟨.random, _⟩ => isTrue fun _ _ _ h => nomatch h

theorem not_possible_impossible {q : Request} {m : Malformed} :
    ¬ Possible (sent q (.impossible m)) := fun h => h q (.impossible m) m rfl rfl

theorem fault_of_tokenOf {r : Response} (h : tokenOf r = .error f) :
    (∃ m, f = .management m) ∨ f = r.fault := by
  unfold tokenOf at h
  split at h
  · split at h
    · split at h
      · cases h
        exact .inl ⟨_, rfl⟩
      · cases h
    · cases h
      exact .inl ⟨_, rfl⟩
  · cases h
    exact .inr rfl

/-- A login that got an answer fails for the management API. -/
theorem fault_of_tokenFrom {x : Reply} (h : s.tokenFrom x = .error f) :
    (∃ m, x = .impossible m ∧ f = .malformed m) ∨ f.isManagement := by
  cases x with
  | impossible m => cases h; exact .inl ⟨m, rfl, rfl⟩
  | failure m => cases h; exact .inr rfl
  | response r =>
    obtain ⟨m, rfl⟩ | rfl := fault_of_tokenOf h
    · exact .inr rfl
    · exact .inr rfl

theorem fault_of_received {x : Reply} (h : received c u x = .error f) :
    (∃ m, x = .impossible m ∧ f = .malformed m) ∨ f.isManagement := by
  cases x with
  | impossible m => cases h; exact .inl ⟨m, rfl, rfl⟩
  | failure m => cases h; exact .inr rfl
  | response r => cases h

/-- A response is refused because its status cannot be judged, because it is not accepted or
because it is no document. -/
theorem fault_of_accept {r : Response} (h : accept c r = .error f) :
    (∃ m, c.accepted.holds (.int r.status) = .error m ∧ f = .malformed m) ∨
      (∃ m, f = .management m) ∨ f = r.fault := by
  rw [accept, bind_eq_error] at h
  obtain h | ⟨b, _, h⟩ := h
  · obtain ⟨m, hm, rfl⟩ := lift_eq_error.1 h
    exact .inl ⟨m, hm, rfl⟩
  · cases b with
    | false =>
      cases h
      exact .inr (.inr rfl)
    | true =>
      simp only [if_true] at h
      split at h
      · cases h
        exact .inr (.inl ⟨_, rfl⟩)
      · cases h

theorem LoginCourse.fault (h : LoginCourse s es (.error f) s') : f.isOfSession := by
  cases h with
  | unsent hu => obtain ⟨m, rfl⟩ | ⟨m, rfl⟩ := loginAddress_eq_error hu <;> rfl
  | refused hu hx =>
    obtain ⟨m, _, rfl⟩ | hf := fault_of_tokenFrom hx
    · rfl
    · exact Fault.isOfSession_of_isManagement hf

theorem LoginCourse.isManagement (hs : s.Ready) (hes : ∀ e ∈ es, Possible e)
    (h : LoginCourse s es (.error f) s') : f.isManagement := by
  cases h with
  | unsent hu =>
    obtain ⟨u, hu'⟩ := hs
    rw [hu'] at hu
    cases hu
  | refused hu hx =>
    obtain ⟨m, rfl, rfl⟩ | hf := fault_of_tokenFrom hx
    · exact absurd (hes _ (List.mem_singleton_self _)) not_possible_impossible
    · exact hf

theorem DeliverCourse.fault (h : DeliverCourse c u s es (.error f) s') : f.isOfSession := by
  generalize hresult : Except.error f = result at h
  cases h with
  | unsent hown => cases hresult; rfl
  | failed hown hx =>
    cases hresult
    obtain ⟨m, _, rfl⟩ | hf := fault_of_received hx
    · rfl
    · exact Fault.isOfSession_of_isManagement hf
  | answered hown hr => cases hresult
  | unrenewed hown hr hlogin => cases hresult; exact hlogin.fault
  | renewed hown hr hlogin =>
    obtain ⟨m, _, rfl⟩ | hf := fault_of_received hresult.symm
    · rfl
    · exact Fault.isOfSession_of_isManagement hf

theorem DeliverCourse.isManagement (hs : s.Ready) (hes : ∀ e ∈ es, Possible e)
    (hheaders : c.headers = .null) (h : DeliverCourse c u s es (.error f) s') :
    f.isManagement := by
  generalize hresult : Except.error f = result at h
  cases h with
  | unsent hown => rw [hheaders] at hown; cases hown
  | failed hown hx =>
    cases hresult
    obtain ⟨m, rfl, rfl⟩ | hf := fault_of_received hx
    · exact absurd (hes _ (List.mem_singleton_self _)) not_possible_impossible
    · exact hf
  | answered hown hr => cases hresult
  | unrenewed hown hr hlogin =>
    cases hresult
    exact hlogin.isManagement (ready_withToken.2 hs) fun e he => hes e (List.mem_cons_of_mem _ he)
  | @renewed own r es x s' hown hr hlogin =>
    obtain ⟨m, rfl, rfl⟩ | hf := fault_of_received hresult.symm
    · have hlast := hes (sent (s'.callRequest c u own) (.impossible m)) (by simp)
      exact absurd hlast not_possible_impossible
    · exact hf

/-- **A session that could log in fails for the management API and nothing else**: a call without
headers of its own, with a text for a path and a list of statuses, can always be sent and its
answer can always be judged. -/
theorem isManagement_of_exchange (hs : s.Ready) (hes : ∀ e ∈ es, Possible e)
    (hheaders : c.headers = .null) {p : Text} (hpath : c.path = .text p) {xs : List Value}
    (haccepted : c.accepted = .list xs) (h : ExchangeCourse c s es (.error f) s') :
    f.isManagement := by
  generalize hresult : Except.error f = result at h
  cases h with
  | unentered h hlogin => cases hresult; exact hlogin.isManagement hs hes
  | unaddressed hopen hu =>
    obtain ⟨t, rfl⟩ := hopen.same
    obtain ⟨e, he⟩ := hs.endpoint
    rw [hpath, urlText_of_endpoint (s := s.withToken t) he] at hu
    cases hu
  | undelivered hopen hu hdeliver =>
    cases hresult
    obtain ⟨t, rfl⟩ := hopen.same
    exact hdeliver.isManagement (ready_withToken.2 hs)
      (fun e he => hes e (List.mem_append_right _ he)) hheaders
  | delivered hopen hu hdeliver =>
    obtain ⟨m, hm, _⟩ | ⟨m, rfl⟩ | rfl := fault_of_accept hresult.symm
    · rw [haccepted] at hm
      cases hm
    · rfl
    · rfl

/-- **A session with a token sends the request of a call at once**, where nothing about the call
keeps it from being sent. -/
theorem first_of_exchange {r : Except Fault Response} (hs : s.Ready) (htoken : s.isLoggedIn)
    (hheaders : c.headers = .null) {p : Text} (hpath : c.path = .text p)
    (h : ExchangeCourse c s es r s') :
    ∃ u x rest, s.urlText c.path = .ok u ∧ es = sent (s.callRequest c u []) x :: rest := by
  have hheld : ∀ {es s₁}, OpenCourse s es s₁ → es = [] ∧ s₁ = s := by
    intro es s₁ hopen
    cases hopen with
    | held h => exact ⟨rfl, rfl⟩
    | entered h hlogin => rw [htoken] at h; cases h
  have hsent : ∀ {u es r s'}, DeliverCourse c u s es r s' →
      ∃ x rest, es = sent (s.callRequest c u []) x :: rest := by
    intro u es r s' hdeliver
    have hown : ownHeaders c.headers = .ok [] := by rw [hheaders]; rfl
    cases hdeliver with
    | unsent h => rw [hown] at h; cases h
    | failed h hx => rw [hown] at h; cases h; exact ⟨_, [], rfl⟩
    | answered h hr => rw [hown] at h; cases h; exact ⟨_, [], rfl⟩
    | unrenewed h hr hlogin => rw [hown] at h; cases h; exact ⟨_, _, rfl⟩
    | renewed h hr hlogin => rw [hown] at h; cases h; exact ⟨_, _, rfl⟩
  cases h with
  | unentered h hlogin => rw [htoken] at h; cases h
  | unaddressed hopen hu =>
    obtain ⟨_, rfl⟩ := hheld hopen
    obtain ⟨e, he⟩ := hs.endpoint
    rw [hpath, urlText_of_endpoint he] at hu
    cases hu
  | undelivered hopen hu hdeliver =>
    obtain ⟨rfl, rfl⟩ := hheld hopen
    obtain ⟨x, rest, rfl⟩ := hsent hdeliver
    exact ⟨_, x, rest, hu, rfl⟩
  | delivered hopen hu hdeliver =>
    obtain ⟨rfl, rfl⟩ := hheld hopen
    obtain ⟨x, rest, rfl⟩ := hsent hdeliver
    exact ⟨_, x, rest, hu, rfl⟩

/-! ## 4. What every call keeps to -/

/-- **What every call keeps to**, however often it is tried. -/
structure Served (c : Call) (s : Session) (es : Events) (r : Except Fault Response)
    (s' : Session) : Prop where
  same : ∃ t, s' = s.withToken t
  sound : s.Sound → s'.Sound
  /-- A session that gets a response holds a token. -/
  token : (∃ a, r = .ok a) → s'.isLoggedIn
  requests : ∀ e ∈ es, RequestOf s c e
  fault : ∀ f, r = .error f → f.isOfSession

theorem DeliverCourse.sound {r : Except Fault Response} (hs : s.Ready)
    (h : DeliverCourse c u s es r s') : s'.Sound := by
  obtain ⟨t, rfl⟩ := h.same
  exact fun _ => hs

theorem served_of_exchange {r : Except Fault Response} (h : ExchangeCourse c s es r s') :
    Served c s es r s' := by
  cases h with
  | unentered h hlogin =>
    exact {
      same := hlogin.same
      sound := fun hs => hlogin.token_of_error ▸ hs
      token := fun ⟨_, ha⟩ => by cases ha
      requests := hlogin.requestOf
      fault := fun g hg => by cases hg; exact hlogin.fault }
  | unaddressed hopen hu =>
    obtain ⟨t, rfl⟩ := hopen.same
    exact {
      same := ⟨t, rfl⟩
      sound := fun hs => (ready_withToken.2 (hopen.ready hs)).sound
      token := fun ⟨_, ha⟩ => by cases ha
      requests := hopen.requestOf
      fault := fun g hg => by cases hg; rfl }
  | undelivered hopen hu hdeliver =>
    obtain ⟨t, rfl⟩ := hopen.same
    obtain ⟨t', rfl⟩ := hdeliver.same
    exact {
      same := ⟨t', rfl⟩
      sound := fun hs => hdeliver.sound (ready_withToken.2 (hopen.ready hs))
      token := fun ⟨_, ha⟩ => by cases ha
      requests := fun e he => (List.mem_append.1 he).elim (hopen.requestOf e)
        fun he => (hdeliver.requestOf hu e he).of_withToken
      fault := fun g hg => by cases hg; exact hdeliver.fault }
  | delivered hopen hu hdeliver =>
    obtain ⟨t, rfl⟩ := hopen.same
    obtain ⟨t', rfl⟩ := hdeliver.same
    exact {
      same := ⟨t', rfl⟩
      sound := fun hs => hdeliver.sound (ready_withToken.2 (hopen.ready hs))
      token := fun _ => hdeliver.isLoggedIn hopen.isLoggedIn
      requests := fun e he => (List.mem_append.1 he).elim (hopen.requestOf e)
        fun he => (hdeliver.requestOf hu e he).of_withToken
      fault := fun g hg => by
        obtain ⟨m, _, rfl⟩ | ⟨m, rfl⟩ | rfl := fault_of_accept hg <;> rfl }

theorem requestOf_of_waited {ws : Events} (h : Retry.Waited ws) : ∀ e ∈ ws, RequestOf s c e := by
  obtain ⟨seconds, rfl | ⟨x, rfl⟩⟩ := h
  · intro e he
    cases List.mem_singleton.1 he
    exact .pause
  · intro e he
    rcases List.mem_pair.1 he with rfl | rfl
    · exact .random
    · exact .pause

theorem requestOf_of_unpaused {ws : Events} (h : Retry.Unpaused ws) :
    ∀ e ∈ ws, RequestOf s c e := by
  obtain rfl | ⟨x, rfl⟩ := h
  · exact fun e he => absurd he List.not_mem_nil
  · intro e he
    cases List.mem_singleton.1 he
    exact .random

theorem closed_served : Retry.Closed (Served c) where
  again := by
    intro s es f s₁ ws rest r s' h hw hrest
    obtain ⟨t, rfl⟩ := h.same
    obtain ⟨t', rfl⟩ := hrest.same
    exact {
      same := ⟨t', rfl⟩
      sound := fun hs => hrest.sound (h.sound hs)
      token := hrest.token
      requests := fun e he => by
        rw [List.mem_append, List.mem_append] at he
        obtain (he | he) | he := he
        · exact h.requests e he
        · exact requestOf_of_waited hw e he
        · exact (hrest.requests e he).of_withToken
      fault := hrest.fault }
  stopped := by
    intro s es f s' ws m h hw
    exact {
      same := h.same
      sound := h.sound
      token := fun ⟨_, ha⟩ => by cases ha
      requests := fun e he => (List.mem_append.1 he).elim (h.requests e)
        (requestOf_of_unpaused hw e)
      fault := fun g hg => by cases hg; rfl }

/-- **What holds of every attempt of a call holds of the call**, whatever the policy of the session
is. -/
theorem closed_of_request {Q : Session → Events → Except Fault Response → Session → Prop}
    (hQ : Retry.Closed Q) (hx : ∀ {s es r s'}, ExchangeCourse c s es r s' → Q s es r s')
    {r : Except Fault Response} (h : (request c).Course s es r s') : Q s es r s' := by
  unfold request at h
  split at h
  · rw [Action.course_get_bind] at h
    exact Retry.retrying_closed hQ (fun hcourse => hx (exchangeCourse_of_course hcourse)) h
  · exact hx (exchangeCourse_of_course h)

/-- **Every call keeps to it.** -/
theorem served_of_request {r : Except Fault Response} (h : (request c).Course s es r s') :
    Served c s es r s' := closed_of_request closed_served served_of_exchange h

end Session

end StorageBroker
