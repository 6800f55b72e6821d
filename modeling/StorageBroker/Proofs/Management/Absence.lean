import StorageBroker.Proofs.Management.FailStop
import StorageBroker.Proofs.Management.Instance
import StorageBroker.Proofs.Session.Acceptance
/-!
# Absence

A probe takes two statuses for the answer that there is nothing. They reach it as the failure of its
call, and a call fails with the status of the last request that was sent for it. That request need
not be the one that names the resource: a login can be answered with the same statuses, and the
probe does not tell them apart.

* `Session.EndsAs` -- a failure with a status is that of the response to the last request;
* `endsAs_of_request` -- no policy of trying again changes that;
* `Probe.last_of_absent` -- where a resource is reported absent, the last request was answered so,
  and it was the one for that very resource or a login;
* `Probe.absent_of_login` -- a login alone can make a bucket absent.
-/

namespace StorageBroker

/-! ## 1. Statuses that say that there is nothing -/

theorem HttpFault.kind_ofCode {code : Int} {m : Value} :
    (HttpFault.ofCode code m).kind = (HttpKind.ofCode? code).getD .plain := by
  unfold HttpFault.ofCode
  cases HttpKind.ofCode? code <;> rfl

theorem HttpKind.getD_ofCode? {code : Int} {k : HttpKind} (hk : k ≠ .plain) :
    (ofCode? code).getD .plain = k ↔ k.code? = some code := by
  constructor
  · intro h
    cases hcode : ofCode? code with
    | none => rw [hcode] at h; exact absurd h.symm hk
    | some k' => rw [hcode] at h; cases h; exact code?_of_ofCode? hcode
  · intro h
    rw [ofCode?_of_code? h]
    rfl

/-- The failure that a response is says that there is nothing for two statuses alone. -/
theorem Response.isAbsence_fault {r : Response} :
    r.fault.isAbsence ↔ r.status = 404 ∨ r.status = 400 := by
  rw [Response.fault, Fault.isAbsence, Bool.or_eq_true, beq_iff_eq, beq_iff_eq,
    HttpFault.kind_ofCode, HttpKind.getD_ofCode? (by decide), HttpKind.getD_ofCode? (by decide)]
  simp only [HttpKind.code?, Option.some.injEq, eq_comm]

/-! ## 2. The last request -/

namespace Session

variable {s s₁ s' : Session} {es : Events} {c : Call} {u : Text} {f : Fault}

/-- **The last event is a request with its response.** -/
def EndsWith (r : Response) (es : Events) : Prop := ∃ init q, es = init ++ [sent q (.response r)]

/-- A failure with a status is that of the response to the last request. -/
def EndsAs (f : Fault) (es : Events) : Prop :=
  ∀ g, f = .http g → ∃ r, EndsWith r es ∧ r.fault = .http g

theorem endsWith_singleton {q : Request} {r : Response} : EndsWith r [sent q (.response r)] :=
  ⟨[], q, rfl⟩

theorem EndsWith.append_left {r : Response} {es₁ es₂ : Events} (h : EndsWith r es₂) :
    EndsWith r (es₁ ++ es₂) := by
  obtain ⟨init, q, rfl⟩ := h
  exact ⟨es₁ ++ init, q, (List.append_assoc _ _ _).symm⟩

theorem EndsAs.append_left {es₁ es₂ : Events} (h : EndsAs f es₂) : EndsAs f (es₁ ++ es₂) := by
  intro g hg
  obtain ⟨r, hr, hfault⟩ := h g hg
  exact ⟨r, hr.append_left, hfault⟩

/-- A login that fails with a status was answered with it. -/
theorem LoginCourse.endsAs (h : LoginCourse s es (.error f) s') : EndsAs f es := by
  rintro g rfl
  cases h with
  | unsent hu => obtain ⟨m, hm⟩ | ⟨m, hm⟩ := loginAddress_eq_error hu <;> cases hm
  | @refused u x f hu hx =>
    cases x with
    | impossible m => cases hx
    | failure m => cases hx
    | response r =>
      obtain ⟨m, hm⟩ | hr := fault_of_tokenOf hx
      · cases hm
      · exact ⟨r, endsWith_singleton, hr.symm⟩

theorem DeliverCourse.endsAs (h : DeliverCourse c u s es (.error f) s') : EndsAs f es := by
  rintro g rfl
  generalize hresult : Except.error (Fault.http g) = result at h
  cases h with
  | unsent hown => cases hresult
  | failed hown hx => cases hresult; exact (not_http_of_received hx).elim
  | answered hown hr => cases hresult
  | unrenewed hown hr hlogin =>
    cases hresult
    rw [← List.singleton_append]
    exact hlogin.endsAs.append_left g rfl
  | renewed hown hr hlogin => exact (not_http_of_received hresult.symm).elim

theorem ExchangeCourse.endsAs (h : ExchangeCourse c s es (.error f) s') : EndsAs f es := by
  generalize hresult : Except.error f = result at h
  cases h with
  | unentered h hlogin => cases hresult; exact hlogin.endsAs
  | unaddressed hopen hu => cases hresult; exact fun g hg => by cases hg
  | undelivered hopen hu hdeliver => cases hresult; exact hdeliver.endsAs.append_left
  | delivered hopen hu hdeliver =>
    rintro g rfl
    obtain ⟨m, _, hm⟩ | ⟨m, hm⟩ | hf := fault_of_accept hresult.symm
    · cases hm
    · cases hm
    · obtain ⟨init, q, rfl, _⟩ := hdeliver.carries hu
      exact ⟨_, EndsWith.append_left ⟨init, q, rfl⟩, hf.symm⟩

theorem closed_endsAs :
    Retry.Closed fun (_ : Session) es (r : Except Fault Response) (_ : Session) =>
      ∀ f, r = .error f → EndsAs f es where
  again _ _ hrest f hf := (hrest f hf).append_left
  stopped _ _ f hf := by
    cases hf
    exact fun g hg => by cases hg

/-- **A call fails with the status of its last request**, however often it is tried. -/
theorem endsAs_of_request (h : (request c).Course s es (.error f) s') : EndsAs f es := by
  refine closed_of_request closed_endsAs (fun hx g hg => ?_) h f rfl
  cases hg
  exact hx.endsAs

/-- A call that failed because there is nothing: its last request was answered so. -/
theorem last_of_absence (h : (request c).Course s es (.error f) s') (hf : f.isAbsence) :
    ∃ init q r, es = init ++ [sent q (.response r)] ∧ (r.status = 404 ∨ r.status = 400) ∧
      RequestOf s c (sent q (.response r)) := by
  cases f with
  | http g =>
    obtain ⟨r, ⟨init, q, rfl⟩, hr⟩ := endsAs_of_request h g rfl
    refine ⟨init, q, r, rfl, Response.isAbsence_fault.1 (hr ▸ hf), ?_⟩
    exact (served_of_request h).requests _ (List.mem_append_right _ (List.mem_singleton_self _))
  | _ => cases hf

end Session

/-! ## 3. Probes -/

namespace Management

/-- **The questions whether something exists**, with what they are asked for. -/
inductive Probe where
  | bucket (name ns : Value)
  | space (ns : Value)
  | retentionClass (ns name : Value)
  | user (name ns : Value)

namespace Probe

variable {σ τ : Type}

/-- Asks whether something exists. -/
def ask : Probe → Calls τ Bool
  | .bucket name ns => Bucket.exist name ns
  | .space ns => Namespace.exist ns
  | .retentionClass ns name => Namespace.retentionExist ns name
  | .user name ns => User.exist name ns

/-- The path of the resource, with holes for its names. -/
def template : Probe → Text.Template
  | .bucket .. => Bucket.info
  | .space _ => Namespace.self
  | .retentionClass .. => Namespace.retentionClass
  | .user .. => User.info

/-- The names in the path. -/
def names : Probe → List Value
  | .bucket name _ => [name]
  | .space ns => [ns]
  | .retentionClass ns name => [ns, name]
  | .user name _ => [name]

def params : Probe → Mapping
  | .bucket _ ns => Bucket.inNamespace ns
  | .user _ ns => [(.text "namespace", ns)]
  | .space _ | .retentionClass .. => []

/-- The request is the one that reads the resource. -/
def IsRead (p : Probe) (s : Session) (q : Request) : Prop :=
  ∃ path endpoint headers, p.template.fill p.names = .ok path ∧ s.endpoint = .text endpoint ∧
    q = .resource "GET" (endpoint ++ path) (Session.given p.params) headers .null s.verifySsl
      s.timeout

/-- The request is the login of the session. -/
def IsEntry (s : Session) (q : Request) : Prop :=
  ∃ u, s.loginAddress = .ok u ∧ q = s.loginRequest u

/-- A probe makes one call, which reads the resource. -/
theorem makes_ask (p : Probe) :
    Makes (Filled p.template p.names fun path => { path := path, params := p.params }) Probed
      (p.ask : Calls τ Bool) := by
  cases p with
  | bucket name ns => exact Bucket.makes_exist
  | space ns => exact Namespace.makes_exist
  | retentionClass ns name => exact Namespace.makes_retentionExist
  | user name ns => exact User.makes_exist

/-- A request of a probe's call is a login, or reads the resource. -/
theorem isEntry_or_isRead {p : Probe} {s : Session} {c : Call} {q : Request} {x : Reply}
    (hc : Filled p.template p.names (fun path => { path := path, params := p.params }) c)
    (h : Session.RequestOf s c (Session.sent q x)) : IsEntry s q ∨ p.IsRead s q := by
  obtain ⟨path, hfill, rfl⟩ := hc
  generalize hev : Session.sent q x = ev at h
  cases h with
  | login hu => cases hev; exact .inl ⟨_, hu, rfl⟩
  | pause => cases hev
  | random => cases hev
  | call hu =>
    cases hev
    obtain ⟨endpoint, hendpoint, rfl⟩ := urlText_eq_ok hu
    exact .inr ⟨path, endpoint, _, hfill, hendpoint, rfl⟩

/-- A probe that says no has made one call, which failed because there is nothing. -/
theorem turn_of_absent (p : Probe) (t : τ) (w : Dialogue.World Wire σ) (st : σ) (s : Session)
    (h : (Dialogue.run w (Session.carryOut ((p.ask : Calls τ Bool).run t) s) st).result.1.1 =
      .ok false) :
    ∃ turn c f, Session.turns w ((p.ask : Calls τ Bool).run t) s st = [turn] ∧
      turn.event = called c (.error f) ∧ f.isAbsence ∧
      Filled p.template p.names (fun path => { path := path, params := p.params }) c := by
  have hcourse := Session.course_carryOut w ((p.ask : Calls τ Bool).run t) s st
  obtain ⟨_, ⟨_, m, hm⟩ | ⟨c, a, hc, hevents, ha⟩⟩ :=
    p.makes_ask _ _ _ _ (Action.course_iff.1 hcourse)
  · rw [h] at hm
    cases hm
  · rw [h] at ha
    obtain ⟨turn, hturns, hevent⟩ := List.map_eq_singleton_iff.1 hevents
    obtain ⟨x, _, hx⟩ | ⟨f, rfl, habsent, _⟩ | ⟨f, _, _, hf⟩ := ha
    · cases hx
    · exact ⟨turn, c, f, hturns, hevent, habsent, hc⟩
    · cases hf

/-- **Where a resource is reported absent, the last request was answered that there is nothing**: it
was the one that reads this very resource, or a login. So the answer is the server's word about the
resource unless the last request was a login. -/
theorem last_of_absent (p : Probe) (t : τ) (w : Dialogue.World Wire σ) (st : σ) (s : Session)
    (h : (Dialogue.run w (Session.carryOut ((p.ask : Calls τ Bool).run t) s) st).result.1.1 =
      .ok false) :
    ∃ init q r, (Dialogue.run w (Session.carryOut ((p.ask : Calls τ Bool).run t) s) st).events =
        init ++ [Session.sent q (.response r)] ∧
      (r.status = 404 ∨ r.status = 400) ∧ (IsEntry s q ∨ p.IsRead s q) := by
  obtain ⟨turn, c, f, hturns, hevent, hf, hc⟩ := p.turn_of_absent t w st s h
  obtain ⟨s', hcourse⟩ := Session.course_of_first w _ s st hturns hevent
  obtain ⟨init, q, r, hsent, hstatus, hrequest⟩ := Session.last_of_absence hcourse hf
  refine ⟨init, q, r, ?_, hstatus, isEntry_or_isRead hc hrequest⟩
  rw [Session.events_carryOut, hturns, List.flatMap_singleton, hsent]

/-- A management API that answers logins as laid down and has no resource at all. -/
def empty (logins : List Reply) : Rehearsal.State where
  server := ⟨logins, 0, [], [], Rehearsal.Server.plainResponse 404 ""⟩
  depot := ⟨none, [], []⟩
  random := 0.5

/-- Whether a bucket exists, asked by a session of a management API without one. -/
def askedBucket (s : Session) (logins : List Reply) :
    Dialogue.Outcome Wire Rehearsal.State ((Except Fault Bool × Unit) × Session) :=
  Dialogue.run Rehearsal.world
    (Session.carryOut (((bucket "b" "ns").ask : Calls Unit Bool).run ()) s) (empty logins)

/-- With a token, the bucket is read and reported absent. -/
theorem last_of_absent_missing :
    let o := askedBucket Session.expired []
    o.result.1.1 = .ok false ∧ ∃ init q r, o.events = init ++ [Session.sent q (.response r)] ∧
      (r.status = 404 ∨ r.status = 400) ∧
        (IsEntry Session.expired q ∨ (bucket "b" "ns").IsRead Session.expired q) := by
  have h : (askedBucket Session.expired []).result.1.1 = .ok false := by decide +kernel
  exact ⟨h, (bucket "b" "ns").last_of_absent () Rehearsal.world (empty []) Session.expired h⟩

/-- **A login alone can make a bucket absent**: the session has no token, its login is answered with
404, and the bucket is reported absent though no request for it was sent. -/
theorem absent_of_login :
    let o := askedBucket (Session.expired.withToken none) [Rehearsal.Server.plainResponse 404 ""]
    o.result.1.1 = .ok false ∧ o.events.map Session.isLogin = [true] := by
  decide +kernel

end Probe

end Management

end StorageBroker
