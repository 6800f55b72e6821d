import StorageBroker.Proofs.Session.Standing
import StorageBroker.Rehearsal
/-!
# Delivery

A call that changes something must not reach the management API twice. One attempt sends its
request a second time only where the first one was refused for its token, so that it had no effect,
and a new token was given; every other outcome of the request is final.

* `Delivered` -- what one attempt may send, and when it gives a response;
* `delivered_of_exchange` -- every attempt keeps to it;
* `request_delivered` -- a call that changes something is one attempt, without a pause; a call that
  reads is at most one attempt more than the policy has retries, each but the last one ended by a
  status that may pass.
-/

namespace StorageBroker.Session

/-! ## 1. Events of an attempt -/

def isLogin (e : Dialogue.Event Wire) : Bool :=
  match e.question with
  | .http q => q.isLogin
  | _ => false

/-- Whether an event is a request that is no login. -/
def isResource (e : Dialogue.Event Wire) : Bool :=
  match e.question with
  | .http q => !q.isLogin
  | _ => false

/-- The response that a request got. -/
def response? : Dialogue.Event Wire → Option Response
  | ⟨.http _, .response r⟩ => some r
  | _ => none

/-- The responses to the requests that are no logins, in order. -/
def answers (es : Events) : List Response := (es.filter isResource).filterMap response?

/-- The request was refused for its token. -/
def IsRefused (e : Dialogue.Event Wire) : Prop := ∃ r, response? e = some r ∧ r.status = 401

/-- The login gave a token. -/
def IsGranted (e : Dialogue.Event Wire) : Prop := ∃ r t, response? e = some r ∧ tokenOf r = .ok t

/-- **What one attempt of a call may send, and when it gives a response.** -/
structure Delivered (c : Call) (es : Events) (result : Except Fault Response) : Prop where
  /-- There is no pause, and nothing else but requests. -/
  requests : ∀ e ∈ es, isLogin e ∨ isResource e
  logins : es.countP isLogin ≤ 2
  resources : es.countP isResource ≤ 2
  /-- A second request of the call stands behind a first one that was refused for its token and a
  login that gave a new one. -/
  again : ∀ before e after, es = before ++ e :: after → isResource e →
    (∃ first ∈ before, isResource first) → ∃ start first login, before = start ++ [first, login] ∧
      isResource first ∧ IsRefused first ∧ isLogin login ∧ IsGranted login
  /-- A request of the call that ends in any other way is the last of all requests. -/
  final : ∀ before e after, es = before ++ e :: after → isResource e → ¬ IsRefused e → after = []
  /-- A response is given exactly if it is the last one, has an accepted status and, where the call
  asks for it, is a document. -/
  returned : ∀ r, result = .ok r ↔ (answers es).getLast? = some r ∧
    c.accepted.holds (.int r.status) = .ok true ∧ (c.parse → r.document?.isSome)

variable {c : Call} {es ls : Events} {result : Except Fault Response}

theorem isResource_sent_call {s : Session} {u : Text} {own : Mapping} {x : Reply} :
    isResource (sent (s.callRequest c u own) x) := rfl

theorem not_isResource_of_isLogin {e : Dialogue.Event Wire} (h : isLogin e) :
    isResource e = false := by
  unfold isLogin at h
  unfold isResource
  split <;> simp_all

theorem not_isLogin_of_isResource {e : Dialogue.Event Wire} (h : isResource e) :
    isLogin e = false := by
  cases hl : isLogin e with
  | true => rw [not_isResource_of_isLogin hl] at h; cases h
  | false => rfl

theorem accept_eq_ok {r r' : Response} :
    accept c r = .ok r' ↔ r' = r ∧ c.accepted.holds (.int r.status) = .ok true ∧
      (c.parse → r.document?.isSome) := by
  rw [accept, bind_eq_ok]
  constructor
  · rintro ⟨b, hholds, h⟩
    rw [lift_eq_ok] at hholds
    cases b with
    | false => cases h
    | true =>
      simp only [if_true] at h
      split at h
      next => cases h
      next hparse =>
        rw [pure_eq_ok] at h
        refine ⟨h, hholds, fun hp => ?_⟩
        cases hdoc : r.document? with
        | none => simp [hp, hdoc] at hparse
        | some v => rfl
  · rintro ⟨rfl, hholds, hparse⟩
    refine ⟨true, lift_eq_ok.2 hholds, ?_⟩
    have hdocument : ¬ (c.parse && r'.document?.isNone) = true := by
      intro h
      rw [Bool.and_eq_true] at h
      have := hparse h.1
      cases hdoc : r'.document? with
      | none => simp [hdoc] at this
      | some v => simp [hdoc] at h
    simp only [if_true, if_neg hdocument]
    rfl

/-! ## 2. Which requests come behind which -/

/-- A request of the call that is refused nowhere but at the end can only be the last one. -/
theorem final_of_dropLast (h : ∀ e ∈ es.dropLast, isResource e → IsRefused e) :
    ∀ before e after, es = before ++ e :: after → isResource e → ¬ IsRefused e → after = [] := by
  rintro before e after rfl hresource hrefused
  cases after with
  | nil => rfl
  | cons y ys =>
    refine absurd (h e ?_ hresource) hrefused
    rw [List.dropLast_append_of_ne_nil (List.cons_ne_nil _ _), List.dropLast_cons_cons]
    exact List.mem_append_right _ List.mem_cons_self

theorem two_le_countP {before after : Events} {first e : Dialogue.Event Wire}
    (hmem : first ∈ before) (hfirst : isResource first) (he : isResource e) :
    2 ≤ (before ++ e :: after).countP isResource := by
  have hbefore := List.countP_pos_iff.2 ⟨first, hmem, hfirst⟩
  rw [List.countP_append, List.countP_cons_of_pos he]
  omega

theorem again_of_countP {P : Events → Prop} (h : es.countP isResource < 2) :
    ∀ before e after, es = before ++ e :: after → isResource e →
      (∃ first ∈ before, isResource first) → P before := by
  rintro before e after rfl he ⟨first, hmem, hfirst⟩
  have := @two_le_countP before after first e hmem hfirst he
  omega

theorem again_of_dropLast {init : Events} {z : Dialogue.Event Wire} {P : Events → Prop}
    (hinit : init.countP isResource < 2) (hP : P init) :
    ∀ before e after, init ++ [z] = before ++ e :: after → isResource e →
      (∃ first ∈ before, isResource first) → P before := by
  rintro before e after heq he ⟨first, hmem, hfirst⟩
  rcases List.eq_nil_or_concat after with rfl | ⟨after', y, rfl⟩
  · rw [← (List.append_inj' heq rfl).1]
    exact hP
  · rw [List.concat_eq_append, ← List.cons_append, ← List.append_assoc] at heq
    have hbefore := @two_le_countP before after' first e hmem hfirst he
    rw [← (List.append_inj' heq rfl).1] at hbefore
    omega

/-! ## 3. One attempt -/

/-- A login is one request at most. -/
theorem LoginCourse.requests {s s' : Session} {r : Except Fault Unit} (h : LoginCourse s ls r s') :
    (∀ e ∈ ls, isLogin e) ∧ ls.length ≤ 1 := by
  cases h with
  | unsent hu => exact ⟨fun _ he => absurd he List.not_mem_nil, Nat.zero_le _⟩
  | refused hu hx => exact ⟨fun e he => by cases List.mem_singleton.1 he; rfl, Nat.le_refl _⟩
  | granted hu hx => exact ⟨fun e he => by cases List.mem_singleton.1 he; rfl, Nat.le_refl _⟩

/-- A login that succeeds is one request, which gives a token. -/
theorem LoginCourse.granted_of_ok {s s' : Session} (h : LoginCourse s ls (.ok ()) s') :
    ∃ login, ls = [login] ∧ isLogin login ∧ IsGranted login := by
  cases h with
  | @granted u x t hu hx =>
    cases x with
    | impossible m => cases hx
    | failure m => cases hx
    | response r => exact ⟨_, rfl, rfl, r, t, rfl, hx⟩

theorem OpenCourse.requests {s s' : Session} (h : OpenCourse s ls s') :
    (∀ e ∈ ls, isLogin e) ∧ ls.length ≤ 1 := by
  cases h with
  | held h => exact ⟨fun _ he => absurd he List.not_mem_nil, Nat.zero_le _⟩
  | entered h hlogin => exact hlogin.requests

theorem countP_logins (h : ∀ e ∈ ls, isLogin e) :
    ls.countP isLogin = ls.length ∧ ls.countP isResource = 0 ∧ answers ls = [] := by
  have hnone : ∀ e ∈ ls, ¬ isResource e := by
    intro e he
    rw [not_isResource_of_isLogin (h e he)]
    exact Bool.false_ne_true
  refine ⟨List.countP_eq_length.2 h, List.countP_eq_zero.2 hnone, ?_⟩
  rw [answers, List.filter_eq_nil_iff.2 hnone, List.filterMap_nil]

/-- What decides whether an attempt gives a response: the last response to the call's requests. -/
def Decides (c : Call) (x : Option Response) (result : Except Fault Response) : Prop :=
  ∀ r, result = .ok r ↔ x = some r ∧ c.accepted.holds (.int r.status) = .ok true ∧
    (c.parse → r.document?.isSome)

theorem decides_accept {r : Response} : Decides c (some r) (accept c r) := by
  intro r'
  rw [accept_eq_ok, Option.some.injEq]
  constructor
  · rintro ⟨rfl, h⟩
    exact ⟨rfl, h⟩
  · rintro ⟨rfl, h⟩
    exact ⟨rfl, h⟩

theorem decides_none {f : Fault} : Decides c none (.error f) := by
  intro r
  constructor <;> intro h
  · cases h
  · cases h.1

theorem decides_refused {r : Response} {f : Fault}
    (h : c.accepted.holds (.int r.status) ≠ .ok true) : Decides c (some r) (.error f) := by
  intro r'
  constructor
  · intro h
    cases h
  · rintro ⟨⟨⟩, hholds, _⟩
    exact absurd hholds h

theorem delivered_of_logins {f : Fault} (h : ∀ e ∈ ls, isLogin e) (hlen : ls.length ≤ 1) :
    Delivered c ls (.error f) := by
  obtain ⟨hlogins, hresources, hanswers⟩ := countP_logins h
  exact {
    requests := fun e he => .inl (h e he)
    logins := by omega
    resources := by omega
    again := again_of_countP (by omega)
    final := fun before e after heq he _ => by
      have hmem : e ∈ ls := by rw [heq]; exact List.mem_append_right _ List.mem_cons_self
      rw [not_isResource_of_isLogin (h e hmem)] at he
      cases he
    returned := by
      rw [hanswers]
      exact decides_none }

/-- The last response to the call's requests is one to a later request, if there is one. -/
theorem getLast?_answers_append {es₁ es₂ : Events} :
    (answers (es₁ ++ es₂)).getLast? = (answers es₂).getLast?.or (answers es₁).getLast? := by
  rw [answers, List.filter_append, List.filterMap_append, List.getLast?_append, answers, answers]

theorem getLast?_answers_resource {q : Dialogue.Event Wire} (hq : isResource q) :
    (answers [q]).getLast? = response? q := by
  rw [answers, List.filter_cons_of_pos hq, List.filter_nil]
  cases h : response? q with
  | none => rw [List.filterMap_cons_none h, List.filterMap_nil, List.getLast?_nil]
  | some r => rw [List.filterMap_cons_some h, List.filterMap_nil, List.getLast?_singleton]

theorem countP_resource {q : Dialogue.Event Wire} (hq : isResource q) :
    [q].countP isResource = 1 ∧ [q].countP isLogin = 0 := by
  have hlogin := not_isLogin_of_isResource hq
  constructor <;> simp [hq, hlogin]

theorem delivered_once {q : Dialogue.Event Wire} (h : ∀ e ∈ ls, isLogin e) (hlen : ls.length ≤ 1)
    (hq : isResource q) (hresult : Decides c (response? q) result) :
    Delivered c (ls ++ [q]) result := by
  obtain ⟨hlogins, hresources, hanswers⟩ := countP_logins h
  obtain ⟨hone, hzero⟩ := countP_resource hq
  have hcount : (ls ++ [q]).countP isResource < 2 := by rw [List.countP_append]; omega
  exact {
    requests := fun e he => (List.mem_append.1 he).imp (h e) fun he => by
      cases List.mem_singleton.1 he
      exact hq
    logins := by rw [List.countP_append]; omega
    resources := by omega
    again := again_of_countP hcount
    final := final_of_dropLast fun e he hresource => by
      rw [List.dropLast_concat] at he
      rw [not_isResource_of_isLogin (h e he)] at hresource
      cases hresource
    returned := by
      rw [getLast?_answers_append, hanswers, getLast?_answers_resource hq, List.getLast?_nil,
        Option.or_none]
      exact hresult }

theorem delivered_unrenewed {q : Dialogue.Event Wire} {f : Fault} {ls' : Events}
    (h : ∀ e ∈ ls, isLogin e) (hlen : ls.length ≤ 1) (hq : isResource q) (hrefused : IsRefused q)
    (h' : ∀ e ∈ ls', isLogin e) (hlen' : ls'.length ≤ 1)
    (h401 : c.accepted.holds (.int 401) ≠ .ok true) :
    Delivered c (ls ++ [q] ++ ls') (.error f) := by
  obtain ⟨hlogins, hresources, hanswers⟩ := countP_logins h
  obtain ⟨hlogins', hresources', hanswers'⟩ := countP_logins h'
  obtain ⟨hone, hzero⟩ := countP_resource hq
  have hcount : (ls ++ [q] ++ ls').countP isResource < 2 := by simp only [List.countP_append]; omega
  have hmem : ∀ e ∈ ls ++ [q] ++ ls', isLogin e ∨ e = q := by
    intro e he
    rw [List.mem_append, List.mem_append, List.mem_singleton] at he
    obtain (he | he) | he := he
    · exact .inl (h e he)
    · exact .inr he
    · exact .inl (h' e he)
  exact {
    requests := fun e he => (hmem e he).imp id fun heq => by rw [heq]; exact hq
    logins := by simp only [List.countP_append]; omega
    resources := by omega
    again := again_of_countP hcount
    final := fun before e after heq he hfinal => by
      have : e ∈ ls ++ [q] ++ ls' := by
        rw [heq]
        exact List.mem_append_right _ List.mem_cons_self
      rcases hmem e this with hl | rfl
      · rw [not_isResource_of_isLogin hl] at he
        cases he
      · exact absurd hrefused hfinal
    returned := by
      obtain ⟨r, hr, hstatus⟩ := hrefused
      rw [getLast?_answers_append, getLast?_answers_append, hanswers, hanswers',
        getLast?_answers_resource hq, hr]
      exact decides_refused (hstatus ▸ h401) }

theorem delivered_again {q l q' : Dialogue.Event Wire} (h : ∀ e ∈ ls, isLogin e)
    (hlen : ls.length ≤ 1) (hq : isResource q) (hrefused : IsRefused q) (hl : isLogin l)
    (hgranted : IsGranted l) (hq' : isResource q')
    (hresult : Decides c ((response? q').or (response? q)) result) :
    Delivered c (ls ++ [q, l] ++ [q']) result := by
  obtain ⟨hlogins, hresources, hanswers⟩ := countP_logins h
  obtain ⟨hlogins', hresources', hanswers'⟩ := @countP_logins [l] (by simpa using hl)
  obtain ⟨hone, hzero⟩ := countP_resource hq
  obtain ⟨hone', hzero'⟩ := countP_resource hq'
  have hpair : [q, l] = [q] ++ [l] := rfl
  have hcount : (ls ++ [q, l]).countP isResource < 2 := by
    rw [hpair, List.countP_append, List.countP_append]
    omega
  have hlength : [l].length = 1 := rfl
  exact {
    requests := fun e he => by
      simp only [List.mem_append, List.mem_cons, List.not_mem_nil, or_false] at he
      obtain (he | rfl | rfl) | rfl := he
      · exact .inl (h e he)
      · exact .inr hq
      · exact .inl hl
      · exact .inr hq'
    logins := by
      rw [hpair]
      simp only [List.countP_append]
      omega
    resources := by rw [List.countP_append]; omega
    again := again_of_dropLast hcount ⟨ls, q, l, rfl, hq, hrefused, hl, hgranted⟩
    final := final_of_dropLast fun e he hresource => by
      rw [List.dropLast_concat, List.mem_append, List.mem_pair] at he
      obtain he | rfl | rfl := he
      · rw [not_isResource_of_isLogin (h e he)] at hresource
        cases hresource
      · exact hrefused
      · rw [not_isResource_of_isLogin hl] at hresource
        cases hresource
    returned := by
      rw [hpair]
      simp only [getLast?_answers_append, hanswers, hanswers', getLast?_answers_resource hq,
        getLast?_answers_resource hq', List.getLast?_nil, Option.none_or, Option.or_none]
      exact hresult }

theorem response?_of_received {s : Session} {u : Text} {own : Mapping} {x : Reply} {r : Response}
    (h : received c u x = .ok r) : response? (sent (s.callRequest c u own) x) = some r := by
  cases x with
  | impossible m => cases h
  | failure m => cases h
  | response r' => cases h; rfl

theorem response?_of_not_received {s : Session} {u : Text} {own : Mapping} {x : Reply} {f : Fault}
    (h : received c u x = .error f) : response? (sent (s.callRequest c u own) x) = none := by
  cases x with
  | impossible m => rfl
  | failure m => rfl
  | response r' => cases h

variable {s s₁ s' : Session} {u : Text}

theorem delivered_of_undelivered {f : Fault} (h401 : c.accepted.holds (.int 401) ≠ .ok true)
    (hopen : OpenCourse s ls s₁) (h : DeliverCourse c u s₁ es (.error f) s') :
    Delivered c (ls ++ es) (.error f) := by
  obtain ⟨hls, hlen⟩ := hopen.requests
  generalize hresult : Except.error f = result at h
  cases h with
  | unsent hown =>
    rw [List.append_nil]
    exact delivered_of_logins hls hlen
  | @failed own x g hown hx =>
    refine delivered_once hls hlen isResource_sent_call ?_
    rw [response?_of_not_received hx]
    exact decides_none
  | answered hown hr => cases hresult
  | @unrenewed own r es f s' hown hr hlogin =>
    cases hresult
    obtain ⟨hes, hlen'⟩ := hlogin.requests
    rw [← List.singleton_append, ← List.append_assoc]
    exact delivered_unrenewed hls hlen isResource_sent_call ⟨r, rfl, hr⟩ hes hlen' h401
  | @renewed own r es x s' hown hr hlogin =>
    obtain ⟨l, rfl, hl, hgranted⟩ := hlogin.granted_of_ok
    show Delivered c (ls ++ ([_, l] ++ [_])) _
    rw [← List.append_assoc]
    refine delivered_again hls hlen isResource_sent_call ⟨r, rfl, hr⟩ hl hgranted
      isResource_sent_call ?_
    rw [response?_of_not_received hresult.symm, Option.none_or, ← hresult]
    exact decides_refused (hr ▸ h401)

theorem delivered_of_delivered {r : Response} (hopen : OpenCourse s ls s₁)
    (h : DeliverCourse c u s₁ es (.ok r) s') : Delivered c (ls ++ es) (accept c r) := by
  obtain ⟨hls, hlen⟩ := hopen.requests
  generalize hresult : Except.ok r = result at h
  cases h with
  | unsent hown => cases hresult
  | failed hown hx => cases hresult
  | @answered own r' hown hr =>
    cases hresult
    exact delivered_once hls hlen isResource_sent_call decides_accept
  | unrenewed hown hr hlogin => cases hresult
  | @renewed own r' es x s' hown hr hlogin =>
    obtain ⟨l, rfl, hl, hgranted⟩ := hlogin.granted_of_ok
    show Delivered c (ls ++ ([_, l] ++ [_])) _
    rw [← List.append_assoc]
    refine delivered_again hls hlen isResource_sent_call ⟨r', rfl, hr⟩ hl hgranted
      isResource_sent_call ?_
    rw [response?_of_received hresult.symm, Option.some_or]
    exact decides_accept

/-- **Every attempt sends what it may send and no more.** -/
theorem delivered_of_exchange (h401 : c.accepted.holds (.int 401) ≠ .ok true)
    (h : ExchangeCourse c s es result s') : Delivered c es result := by
  cases h with
  | unentered h hlogin =>
    obtain ⟨hes, hlen⟩ := hlogin.requests
    exact delivered_of_logins hes hlen
  | unaddressed hopen hu =>
    obtain ⟨hes, hlen⟩ := hopen.requests
    exact delivered_of_logins hes hlen
  | undelivered hopen hu hdeliver => exact delivered_of_undelivered h401 hopen hdeliver
  | delivered hopen hu hdeliver => exact delivered_of_delivered hopen hdeliver

/-! ## 4. Calls -/

theorem code_ofCode {code : Int} {m : Value} {f : HttpFault} (h : HttpFault.ofCode code m = f) :
    f.code = .int code ∨ f.code = .null := by
  subst h
  unfold HttpFault.ofCode
  cases hkind : HttpKind.ofCode? code with
  | some kind =>
    exact .inl (by simp [HttpFault.make, HttpKind.code?_of_ofCode? hkind, Value.truthy])
  | none =>
    dsimp only
    rw [HttpFault.make]
    split
    · exact .inl rfl
    · exact .inr rfl

/-- A failure with a status is that of a response. -/
def IsStatusOf (f : Fault) (es : Events) : Prop :=
  ∀ g, f = .http g → ∃ e ∈ es, ∃ r, response? e = some r ∧ r.fault = .http g

theorem IsStatusOf.append_left {f : Fault} {es₁ es₂ : Events} (h : IsStatusOf f es₂) :
    IsStatusOf f (es₁ ++ es₂) := by
  intro g hg
  obtain ⟨e, he, hr⟩ := h g hg
  exact ⟨e, List.mem_append_right _ he, hr⟩

theorem LoginCourse.status {f : Fault} (h : LoginCourse s es (.error f) s') : IsStatusOf f es := by
  rintro g rfl
  cases h with
  | unsent hu => obtain ⟨m, hm⟩ | ⟨m, hm⟩ := loginAddress_eq_error hu <;> cases hm
  | @refused u x f hu hx =>
    cases x with
    | impossible m => cases hx
    | failure m => cases hx
    | response r =>
      obtain ⟨m, hm⟩ | hr := fault_of_tokenOf hx
      · cases hm
      · exact ⟨_, List.mem_singleton_self _, r, rfl, hr.symm⟩

theorem not_http_of_received {x : Reply} {g : HttpFault} (h : received c u x = .error (.http g)) :
    False := by
  cases x with
  | impossible m => cases h
  | failure m => cases h
  | response r => cases h

theorem DeliverCourse.status {f : Fault} (h : DeliverCourse c u s es (.error f) s') :
    IsStatusOf f es := by
  rintro g rfl
  generalize hresult : Except.error (Fault.http g) = result at h
  cases h with
  | unsent hown => cases hresult
  | failed hown hx => cases hresult; exact (not_http_of_received hx).elim
  | answered hown hr => cases hresult
  | unrenewed hown hr hlogin =>
    cases hresult
    rw [← List.singleton_append]
    exact hlogin.status.append_left g rfl
  | renewed hown hr hlogin => exact (not_http_of_received hresult.symm).elim

theorem DeliverCourse.response {r : Response} (h : DeliverCourse c u s es (.ok r) s') :
    ∃ e ∈ es, response? e = some r := by
  generalize hresult : Except.ok r = result at h
  cases h with
  | unsent hown => cases hresult
  | failed hown hx => cases hresult
  | answered hown hr => cases hresult; exact ⟨_, List.mem_singleton_self _, rfl⟩
  | unrenewed hown hr hlogin => cases hresult
  | @renewed own _ es x s' hown hr hlogin =>
    exact ⟨sent (s'.callRequest c u own) x, by simp, response?_of_received hresult.symm⟩

theorem ExchangeCourse.status {f : Fault} (h : ExchangeCourse c s es (.error f) s') :
    IsStatusOf f es := by
  generalize hresult : Except.error f = result at h
  cases h with
  | unentered h hlogin => cases hresult; exact hlogin.status
  | unaddressed hopen hu => cases hresult; exact fun g hg => by cases hg
  | undelivered hopen hu hdeliver => cases hresult; exact hdeliver.status.append_left
  | delivered hopen hu hdeliver =>
    rintro g rfl
    obtain ⟨e, he, hr⟩ := hdeliver.response
    obtain ⟨m, _, hm⟩ | ⟨m, hm⟩ | hf := fault_of_accept hresult.symm
    · cases hm
    · cases hm
    · exact ⟨e, List.mem_append_right _ he, _, hr, hf.symm⟩

/-- **A failure that is worth another attempt has one of six statuses.** -/
theorem code_of_isRetryable {f : Fault} (hf : IsStatusOf f es)
    (h : Retry.isRetryable Retry.standardCodes f = .ok true) :
    ∃ g code, f = .http g ∧ g.code = .int code ∧
      code ∈ ([408, 429, 500, 502, 503, 504] : List Int) := by
  cases f with
  | http g =>
    obtain ⟨e, _, r, _, hr⟩ := hf g rfl
    rw [Response.fault, Fault.http.injEq] at hr
    rw [Retry.isRetryable_standard, Except.ok.injEq, List.any_map, List.any_eq_true] at h
    obtain ⟨code, hcode, hequal⟩ := h
    obtain hg | hg := code_ofCode hr
    · rw [Function.comp_apply, hg, Value.equal_int_int, decide_eq_true_iff] at hequal
      refine ⟨g, r.status, rfl, hg, ?_⟩
      have hcodes : HttpKind.retryCodes = [408, 500, 502, 503, 504, 429] := by decide
      rw [← hequal, hcodes] at hcode
      simp only [List.mem_cons, List.not_mem_nil, or_false] at hcode ⊢
      omega
    · rw [Function.comp_apply, hg] at hequal
      simp [Value.equal] at hequal
  | _ => simp [Retry.isRetryable] at h

/-- **What a call that reads may send**: attempts, of which all but the last one were ended by a
status that may pass. -/
structure Redelivered (c : Call) (retries : Int) (es : Events) (result : Except Fault Response)
    (earlier : List (Retry.Attempt Response)) (last : Retry.Attempt Response) : Prop where
  events : es = (earlier ++ [last]).flatMap Retry.Attempt.events
  count : ((earlier ++ [last]).length : Int) ≤ max retries 0 + 1
  delivered : ∀ a ∈ earlier ++ [last], Delivered c a.sent a.result
  failed : ∀ a ∈ earlier, (∃ g code, a.result = .error (.http g) ∧ g.code = .int code ∧
    code ∈ ([408, 429, 500, 502, 503, 504] : List Int)) ∧ Retry.Waited a.waited
  unpaused : Retry.Unpaused last.waited
  result : result = last.result ∨ ∃ f m, last.result = .error f ∧ result = .error (.malformed m)

theorem redelivered_of_attempts {retries : Int} {earlier : List (Retry.Attempt Response)}
    {last : Retry.Attempt Response} (h401 : c.accepted.holds (.int 401) ≠ .ok true)
    (h : Retry.Attempts Retry.standardCodes (exchange c) retries.toNat es result earlier last) :
    Redelivered c retries es result earlier last where
  events := h.events
  count := by
    have := h.count
    rw [List.length_append, List.length_singleton]
    omega
  delivered a ha := by
    obtain ⟨s, s', hcourse⟩ := h.course a ha
    exact delivered_of_exchange h401 (exchangeCourse_of_course hcourse)
  failed a ha := by
    obtain ⟨⟨f, hresult, hworth⟩, hwaited⟩ := h.failed a ha
    obtain ⟨s, s', hcourse⟩ := h.course a (List.mem_append_left _ ha)
    rw [hresult] at hcourse
    obtain ⟨g, code, rfl, hg, hcode⟩ :=
      code_of_isRetryable (exchangeCourse_of_course hcourse).status hworth
    exact ⟨⟨g, code, hresult, hg, hcode⟩, hwaited⟩
  unpaused := h.unpaused
  result := h.result

/-- **A call that changes something is delivered at most once**, and one that reads is one attempt
more than the policy has retries at most, in every world and for every session. -/
theorem request_delivered {σ : Type} (w : Dialogue.World Wire σ) (st : σ) (s : Session) (c : Call)
    (h401 : c.accepted.holds (.int 401) ≠ .ok true) :
    let o := Dialogue.run w ((request c).run s) st
    (c.isReading = false → Delivered c o.events o.result.1) ∧
      (c.isReading → ∀ p retries, s.retry = some p → p.maxRetries = .int retries →
        ∃ earlier last, Redelivered c retries o.events o.result.1 earlier last) := by
  intro o
  have hcourse : (request c).Course s o.events o.result.1 o.result.2 :=
    Dialogue.course_run w ((request c).run s) st
  unfold request at hcourse
  constructor
  · intro hreading
    rw [hreading] at hcourse
    exact delivered_of_exchange h401 (exchangeCourse_of_course hcourse)
  · intro hreading p retries hpolicy hretries
    rw [if_pos hreading, Action.course_get_bind, hpolicy, Retry.retrying_int hretries] at hcourse
    obtain ⟨earlier, last, h⟩ := (Retry.retried_of_course hcourse).attempts
    exact ⟨earlier, last, redelivered_of_attempts h401 h⟩

/-- A session whose token is no longer taken. -/
def expired : Session where
  endpoint := .text "https://ecs:4443"
  username := .text "root"
  password := .text "secret"
  verifySsl := .bool false
  timeout := standardTimeout
  retry := some Retry.standard
  token := some "old"

/-- A management API that refuses the first request for its token. -/
def refusesOnce : Rehearsal.State where
  server := ⟨[], 0, [Rehearsal.Server.plainResponse 401 ""], [],
    Rehearsal.Server.plainResponse 200 "\x7b\x7d"⟩
  depot := ⟨none, [], []⟩
  random := 0.5

/-- The creation of a bucket whose body is left out. -/
def creation : Call := { method := "POST", path := .text "/object/bucket" }

/-- With a token that is no longer taken, a bucket is created by the second of two requests, behind
a login. -/
theorem request_delivered_expired :
    creation.accepted.holds (.int 401) ≠ .ok true ∧
      let o := Dialogue.run Rehearsal.world ((request creation).run expired) refusesOnce
      o.events.map isResource = [true, false, true] ∧ Delivered creation o.events o.result.1 := by
  have h401 : creation.accepted.holds (.int 401) ≠ .ok true := by
    simp [creation, Value.holds, Value.equal_int_int]
  refine ⟨h401, by decide +kernel, ?_⟩
  exact (request_delivered Rehearsal.world refusesOnce expired creation h401).1 rfl

end StorageBroker.Session
