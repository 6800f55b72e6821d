import StorageBroker.Proofs.Session.Acceptance
import StorageBroker.Proofs.Session.Backend
import StorageBroker.Proofs.Session.Token
/-!
# Pages that stay the same

A management API may answer the same reading request always in the same way: what is got from an
address then depends on the address alone. Over a session that such an API has let in, what has
been read once is read again, by one request for each reading.

* `Shows` -- every reading request is answered by the page at its address; a login is one, too;
* `Admits` -- the session is let in by the page at its login address;
* `admits_of_request`, `page_of_request` -- what a reading that came through tells of the pages;
* `read_of_request` -- a reading of a page that is accepted comes through, by one request;
* `demands_of_readings` -- so an operation that only reads demands one page after the other.
-/

namespace StorageBroker.Session

variable {s s' : Session} {es es' : Events} {e p u : Text} {r a : Response}

/-! ## 1. Pages -/

/-- What is got from each address. -/
abbrev Pages := Text → Reply

/-- The call that reads the document at a path. -/
def reading (p : Text) : Call := { path := .text p, parse := true }

/-- What is demanded to read the page at an address. -/
def visit (u : Text) : Demand := ⟨"GET", u, .null⟩

/-- **Every reading request is answered by the page at its address.** -/
def Shows (page : Pages) (es : Events) : Prop :=
  ∀ q x, sent q x ∈ es → q.method = "GET" → x = page q.url

/-- **The session is let in** by the page at its login address. -/
def Admits (page : Pages) (s : Session) : Prop :=
  ∃ u t, s.loginAddress = .ok u ∧ s.tokenFrom (page u) = .ok t

variable {page : Pages}

theorem Shows.mono (h : Shows page es) (hes : ∀ ev ∈ es', ev ∈ es) : Shows page es' :=
  fun q x hmem => h q x (hes _ hmem)

theorem Admits.withToken (h : Admits page s) (t : Option Text) : Admits page (s.withToken t) := h

theorem Admits.ready (h : Admits page s) : s.Ready := by
  obtain ⟨u, _, hu, _⟩ := h
  exact ⟨u, hu⟩

/-- The world of an API that shows pages; the object storage is empty. -/
def worldOfPages (page : Pages) : Dialogue.World Wire Unit where
  answer q t := match q with
    | .http q => (page q.url, t)
    | .storage q => ((Rehearsal.Depot.answer ⟨none, [], []⟩ q).1, t)
    | .pause _ => ((), t)
    | .random => ((0.5 : Float), t)

theorem shows_worldOfPages (page : Pages) {α : Type} (d : Dialogue Wire α) :
    Shows page (Dialogue.run (worldOfPages page) d ()).events := by
  intro q x hmem _
  obtain ⟨_, hx⟩ := Dialogue.answer_of_mem_run hmem
  exact hx

/-! ## 2. What came through -/

/-- A call that comes through comes to a response that it accepts. -/
theorem accept_of_request {c : Call} (h : (request c).Course s es (.ok a) s') :
    accept c a = .ok a := by
  have hclosed : Retry.Closed fun (_ : Session) (_ : Events) (x : Except Fault Response) _ =>
      ∀ a, x = .ok a → accept c a = .ok a := {
    again := fun _ _ hrest => hrest
    stopped := fun _ _ a ha => by cases ha }
  refine closed_of_request hclosed (fun {s es x s'} hexchange a ha => ?_) h a rfl
  subst ha
  generalize hresult : Except.ok a = result at hexchange
  cases hexchange with
  | unentered _ _ => cases hresult
  | unaddressed _ _ => cases hresult
  | undelivered _ _ _ => cases hresult
  | delivered _ _ _ =>
    obtain ⟨rfl, _⟩ := accept_eq_ok.1 hresult.symm
    rfl

/-- **A reading that came through tells the page at its address.** -/
theorem page_of_request (h : (request (reading p)).Course s es (.ok a) s') (hpage : Shows page es)
    (he : s.endpoint = .text e) : page (e ++ p) = .response a := by
  obtain ⟨q, hq, ⟨t, u, own, hu, rfl⟩, _⟩ := accepted_of_request h
  cases (urlText_of_endpoint he).symm.trans hu
  exact (hpage _ _ hq rfl).symm

/-- A call that came through without a token before it has been given one. -/
theorem granted_of_request {c : Call} (h : (request c).Course s es (.ok a) s')
    (htoken : s.token = none) : ∃ ev ∈ es, ∃ t, tokenGiven ev = some t := by
  by_contra hnone
  have hungranted : ∀ ev ∈ es, tokenGiven ev = none := by
    intro ev hev
    cases hev' : tokenGiven ev with
    | none => rfl
    | some t => exact absurd ⟨ev, hev, t, hev'⟩ hnone
  have hout := (traced_of_request h).held_of_ungranted htoken hungranted
  have hin := (served_of_request h).token ⟨a, rfl⟩
  rw [isLoggedIn, hout] at hin
  cases hin

/-- **A call that came through was let in**: by a login before it, if not by one of its own. -/
theorem admits_of_request {c : Call} (h : (request c).Course s es (.ok a) s')
    (hpage : Shows page es) (hheld : s.isLoggedIn → Admits page s) : Admits page s := by
  cases htoken : s.token with
  | some t => exact hheld (by rw [isLoggedIn, htoken]; rfl)
  | none =>
    obtain ⟨ev, hev, t, ht⟩ := granted_of_request h htoken
    cases (served_of_request h).requests ev hev with
    | @login u x hu =>
      obtain rfl : x = page u := hpage _ _ hev rfl
      refine ⟨u, t, hu, ?_⟩
      rw [tokenGiven_login] at ht
      cases hx : s.tokenFrom (page u) with
      | ok t' =>
        rw [hx] at ht
        exact congrArg Except.ok (Option.some.inj ht)
      | error f => rw [hx] at ht; cases ht
    | call _ => cases ht
    | pause => cases ht
    | random => cases ht

/-! ## 3. What comes through again -/

/-- A backend with one response to everything. -/
def always (r : Response) : Backend Unit where
  answers _ _ r' _ := r' = r

/-- **What is sent for a reading fits a backend** that always has the page at its address. -/
theorem talk_of_shows (hadmits : Admits page s) (he : s.endpoint = .text e)
    (hr : page (e ++ p) = .response r) (hes : ∀ ev ∈ es, RequestOf s (reading p) ev)
    (hpage : Shows page es) : Talk (always r) () es () := by
  induction es with
  | nil => exact .nil ()
  | cons ev es ih =>
    obtain ⟨hev, hes⟩ := List.forall_mem_cons.1 hes
    have hrest := ih hes (hpage.mono fun _ => List.mem_cons_of_mem ev)
    cases hev with
    | @login u x hu =>
      obtain rfl : x = page u := hpage _ _ List.mem_cons_self rfl
      obtain ⟨u', t, hu', ht⟩ := hadmits
      obtain rfl : u' = u := Except.ok.inj (hu'.symm.trans hu)
      cases hx : page u' with
      | impossible m => rw [hx] at ht; cases ht
      | failure m => rw [hx] at ht; cases ht
      | response r' =>
        rw [hx] at ht
        exact .login ht hrest
    | @call t u own x hu =>
      obtain rfl : x = page u := hpage _ _ List.mem_cons_self rfl
      cases (urlText_of_endpoint he).symm.trans hu
      rw [hr]
      exact .resource rfl hrest
    | pause => exact .aside (fun _ _ h => by cases h) hrest
    | random => exact .aside (fun _ _ h => by cases h) hrest

theorem status_of_accept_reading (h : accept (reading p) r = .ok r) : r.status = 200 := by
  obtain ⟨_, hstatus, _⟩ := accept_eq_ok.1 h
  simpa [reading, Value.holds, Value.equal_int_int] using hstatus

theorem calm_always (h : r.status = 200) : (always r).Calm := by
  rintro d t r' t' rfl
  exact .inl h

/-- **A reading of a page that is accepted comes through**, and demands the page once. -/
theorem read_of_request {x : Except Fault Response}
    (h : (request (reading p)).Course s es x s') (hadmits : Admits page s)
    (he : s.endpoint = .text e) (hr : page (e ++ p) = .response r)
    (haccept : accept (reading p) r = .ok r) (hpage : Shows page es) :
    x = .ok r ∧ noted some es = [visit (e ++ p)] := by
  have hrequests := (served_of_request h).requests
  -- An attempt that is answered so never fails, and so there is no other one.
  have hclosed : Retry.Closed fun (s : Session) es (x : Except Fault Response) _ =>
      s.Ready → s.endpoint = .text e → Talk (always r) () es () →
        x = .ok r ∧ noted some es = [visit (e ++ p)] := {
    again := by
      intro s es f s₁ ws rest x s' h _ _ hs he htalk
      rw [List.append_assoc] at htalk
      obtain ⟨_, hfirst, _⟩ := talk_append.1 htalk
      cases (h hs he hfirst).1
    stopped := by
      intro s es f s' ws m h _ hs he htalk
      obtain ⟨_, hfirst, _⟩ := talk_append.1 htalk
      cases (h hs he hfirst).1 }
  refine closed_of_request hclosed ?_ h hadmits.ready he
    (talk_of_shows hadmits he hr hrequests hpage)
  intro s es x s' hexchange hs he htalk
  have hcalm := (calm_always (status_of_accept_reading haccept)).noting (f := some)
  obtain ⟨r', hx, hr', hnoted⟩ :=
    hexchange.answered_of_talk hcalm hs he rfl rfl (htalk.noting [])
  obtain rfl : r' = r := hr'
  exact ⟨hx.trans haccept, hnoted⟩

/-! ## 4. Operations that read -/

section Operations

variable {σ α : Type} (w : Dialogue.World Wire σ) (d : Dialogue Remote α) (s : Session) (st : σ)

/-- The event of a reading. -/
def read (p : Text) (x : Except Fault Response) : Dialogue.Event Remote := ⟨.call (reading p), x⟩

/-- The readings of an operation that came through. -/
def readAll (reads : List (Text × Response)) : List (Dialogue.Event Remote) :=
  reads.map fun x => read x.1 (.ok x.2)

variable {w d s st}

theorem Shows.turn (h : Shows page (Dialogue.run w (carryOut d s) st).events)
    {turn : Dialogue.Turn Remote Wire} (hturn : turn ∈ turns w d s st) : Shows page turn.sent := by
  rw [events_carryOut] at h
  exact h.mono fun ev hev => List.mem_flatMap.2 ⟨turn, hturn, hev⟩

/-- **An operation that begins with a reading that came through was let in.** -/
theorem admits_of_first {rest : List (Dialogue.Event Remote)}
    (h : (turns w d s st).map Dialogue.Turn.event = read p (.ok r) :: rest)
    (hpage : Shows page (Dialogue.run w (carryOut d s) st).events)
    (hheld : s.isLoggedIn → Admits page s) : Admits page s := by
  obtain ⟨turn, others, hturns, hevent, _⟩ := List.map_eq_cons_iff.1 h
  obtain ⟨s', hcourse⟩ := course_of_first w d s st hturns hevent
  exact admits_of_request hcourse (hpage.turn (by rw [hturns]; exact List.mem_cons_self)) hheld

/-- A reading of an operation that came through tells the page at its address. -/
theorem page_of_turns (h : read p (.ok r) ∈ (turns w d s st).map Dialogue.Turn.event)
    (hpage : Shows page (Dialogue.run w (carryOut d s) st).events) (he : s.endpoint = .text e) :
    page (e ++ p) = .response r ∧ accept (reading p) r = .ok r := by
  obtain ⟨turn, hturn, hevent⟩ := List.mem_map.1 h
  obtain ⟨_, _, ⟨⟨t, rfl⟩, _⟩, hcourse⟩ := turn_of_call w d s st hturn hevent
  exact ⟨page_of_request hcourse (hpage.turn hturn) he, accept_of_request hcourse⟩

variable {turn : Dialogue.Turn Remote Wire} {x : Except Fault Response}

theorem read_of_turn (hturn : turn ∈ turns w d s st) (hevent : turn.event = read p x)
    (hadmits : Admits page s) (he : s.endpoint = .text e) (hr : page (e ++ p) = .response r)
    (haccept : accept (reading p) r = .ok r)
    (hpage : Shows page (Dialogue.run w (carryOut d s) st).events) :
    x = .ok r ∧ noted some turn.sent = [visit (e ++ p)] := by
  obtain ⟨_, _, ⟨⟨t, rfl⟩, _⟩, hcourse⟩ := turn_of_call w d s st hturn hevent
  exact read_of_request hcourse (hadmits.withToken t) he hr haccept (hpage.turn hturn)

/-- **A page that is accepted is read** wherever an operation asks for it. -/
theorem read_of_turns (h : read p x ∈ (turns w d s st).map Dialogue.Turn.event)
    (hadmits : Admits page s) (he : s.endpoint = .text e) (hr : page (e ++ p) = .response r)
    (haccept : accept (reading p) r = .ok r)
    (hpage : Shows page (Dialogue.run w (carryOut d s) st).events) : x = .ok r := by
  obtain ⟨turn, hturn, hevent⟩ := List.mem_map.1 h
  exact (read_of_turn hturn hevent hadmits he hr haccept hpage).1

/-- **An operation whose readings came through** demands one page after the other, and nothing
else. -/
theorem demands_of_readings {reads : List (Text × Response)}
    (h : (turns w d s st).map Dialogue.Turn.event = readAll reads) (hadmits : Admits page s)
    (he : s.endpoint = .text e) (hpage : Shows page (Dialogue.run w (carryOut d s) st).events) :
    noted some (Dialogue.run w (carryOut d s) st).events =
      reads.map fun x => visit (e ++ x.1) := by
  have hsent : ∀ turn ∈ turns w d s st, ∀ x : Text × Response,
      turn.event = read x.1 (.ok x.2) → noted some turn.sent = [visit (e ++ x.1)] := by
    intro turn hturn x hevent
    obtain ⟨hr, haccept⟩ := page_of_turns (List.mem_map.2 ⟨turn, hturn, hevent⟩) hpage he
    exact (read_of_turn hturn hevent hadmits he hr haccept hpage).2
  rw [events_carryOut]
  generalize turns w d s st = ts at h hsent
  induction ts generalizing reads with
  | nil =>
    obtain rfl := List.map_eq_nil_iff.1 h.symm
    rfl
  | cons turn ts ih =>
    cases reads with
    | nil => cases h
    | cons x reads =>
      obtain ⟨hevent, hrest⟩ := List.cons.inj h
      obtain ⟨hfirst, hothers⟩ := List.forall_mem_cons.1 hsent
      rw [List.flatMap_cons, noted, List.filterMap_append, List.map_cons,
        ← List.singleton_append]
      exact congrArg₂ (· ++ ·) (hfirst x hevent) (ih hrest hothers)

end Operations

end StorageBroker.Session
