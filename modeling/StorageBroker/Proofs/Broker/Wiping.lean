import StorageBroker.Proofs.Broker.Commands
import StorageBroker.Proofs.Session.Delivery
import StorageBroker.Proofs.Text.Template
import StorageBroker.Proofs.Wipe
/-!
# Deleting buckets with their objects

A bucket is deleted only once it holds no objects. The request that deletes it is sent behind a
grant that succeeded and a wipe that left nothing behind; in every other case no such request is
sent, and what became of the bucket is told with everything that was recorded.

* `asks_startWipe`, `granted_of_course` -- what the grant asks for, and what its success means;
* `BucketDeleted` -- the deletion of an emptied bucket and what is told of it;
* `wipeAndDelete_keeps_unemptied` -- no bucket is deleted that may still hold an object.
-/

namespace StorageBroker.Broker

open Management
open Wipe (Emptied)

variable (b : Broker)

/-! ## 1. The grant -/

/-- The calls of a grant: each reads a document or replaces something. -/
def IsGranting (c : Call) : Prop := (c.method = "GET" ∧ c.parse = true) ∨ c.method = "PUT"

theorem not_isGranting_of_isProbe {c : Call} (h : IsProbe c) : ¬ IsGranting c := by
  obtain ⟨hget, hblind⟩ := h.method
  rintro (⟨_, hparse⟩ | hput)
  · rw [hblind] at hparse
    cases hparse
  · rw [hget] at hput
    exact absurd (Value.text.inj hput) (by decide)

theorem isGranting_of_fetched {t : Text.Template} {args : List Value} {params : Mapping} {c : Call}
    (h : Filled t args (fun p => { path := p, parse := true, params := params }) c) :
    IsGranting c := by
  obtain ⟨p, _, rfl⟩ := h
  exact .inl ⟨rfl, rfl⟩

theorem isGranting_of_written {t : Text.Template} {args : List Value} {v : Value}
    {params : Mapping} {c : Call} (h : Written t args v
      (fun p body => { method := "PUT", path := p, body := body, params := params }) c) :
    IsGranting c := by
  obtain ⟨p, body, _, _, rfl⟩ := h
  exact .inr rfl

theorem asks_bucketFileEnabled {id : Value} : Asks IsGranting (b.bucketFileEnabled id) :=
  .mapFault <| .lift_bind fun _ _ =>
    (Bucket.makes_get.asks.mono fun _ => isGranting_of_fetched).bind fun _ => asks_pure

theorem asks_addUser {bucketId userId permissions : Value} :
    Asks IsGranting (b.addUser bucketId userId permissions) := by
  refine .mapFault <| .lift_bind fun name _ => .lift_bind fun user _ => ?_
  refine (Bucket.makes_getAcl.asks.mono fun _ => isGranting_of_fetched).bind fun acl => ?_
  refine .lift_bind fun entry _ => .lift_bind fun acl _ => ?_
  refine (Bucket.makes_updateAcl.asks.mono fun _ => isGranting_of_written).bind fun _ => ?_
  refine b.asks_bucketFileEnabled.bind fun enabled => ?_
  split
  · exact Bucket.makes_updatePolicy.asks.mono fun _ => isGranting_of_written
  · exact asks_pure

/-- **A grant reads and replaces, and creates or deletes nothing.** -/
theorem asks_startWipe {id : Value} : Asks IsGranting (b.startWipe id) := by
  refine .mapFault <| .get_bind fun s => ?_
  dsimp only
  split
  · exact asks_throw_bind
  · exact b.asks_addUser

/-- The first call of a grant names the bucket, and a grant that succeeds has made it. -/
theorem named_of_addUser {bucketId userId permissions : Value} {bs bs' : State}
    {es : List (Dialogue.Event Remote)}
    (h : (b.addUser bucketId userId permissions).Course bs es (.ok ()) bs') :
    ∃ name p, b.nameOf bucketId = .ok name ∧ Bucket.acl.fill [name] = .ok p ∧ es ≠ [] := by
  obtain ⟨r, h, hr⟩ := Action.course_mapFault.1 h
  obtain rfl := mapError_eq_ok.1 hr.symm
  obtain ⟨m, _, _, hm, _⟩ | ⟨name, hname, h⟩ := Action.course_lift_malformed_bind.1 h
  · cases hm
  obtain ⟨m, _, _, hm, _⟩ | ⟨user, _, h⟩ := Action.course_lift_malformed_bind.1 h
  · cases hm
  obtain ⟨f, _, hf⟩ | ⟨es₁, acl, s₁, es₂, hacl, h, rfl⟩ := Action.course_bind.1 h
  · cases hf
  obtain ⟨_, ⟨_, m, hm⟩ | ⟨c, a, ⟨p, hp, _⟩, rfl, _⟩⟩ := Bucket.makes_getAcl _ _ _ _ hacl
  · cases hm
  · exact ⟨name, p, hname, hp, by simp⟩

/-- **A grant that succeeds** has named the bucket, and its last call got a response. -/
theorem granted_of_course {id : Value} {bs bs' : State} {es : List (Dialogue.Event Remote)}
    (h : (b.startWipe id).Course bs es (.ok ()) bs') :
    ∃ name p, b.nameOf id = .ok name ∧ Bucket.acl.fill [name] = .ok p ∧
      ∃ init c a, es = init ++ [called c (.ok a)] := by
  have hnamed : ∃ name p, b.nameOf id = .ok name ∧ Bucket.acl.fill [name] = .ok p ∧ es ≠ [] := by
    obtain ⟨r, h, hr⟩ := Action.course_mapFault.1 h
    obtain rfl := mapError_eq_ok.1 hr.symm
    rw [Action.course_get_bind] at h
    dsimp only at h
    split at h
    · obtain ⟨_, _, hf⟩ | ⟨_, _, _, _, hthrow, _⟩ := Action.course_bind.1 h
      · cases hf
      · cases (Action.course_throw.1 hthrow).2.1
    · exact b.named_of_addUser h
  obtain ⟨name, p, hname, hp, hne⟩ := hnamed
  refine ⟨name, p, hname, hp, ?_⟩
  obtain ⟨init, e, rfl⟩ := (List.eq_nil_or_concat es).resolve_left hne
  rw [List.concat_eq_append] at h ⊢
  obtain ⟨c, a, rfl, hc⟩ :=
    b.asks_startWipe _ _ _ _ h e (List.mem_append_right _ (List.mem_singleton_self _))
  cases a with
  | ok a => exact ⟨init, c, a, rfl⟩
  | error f =>
    -- A call that failed would have been the failure of the grant.
    have hstop := b.failStop_startWipe _ _ _ _ h init c f [] rfl
      fun habsorbed => not_isGranting_of_isProbe habsorbed.1 hc
    obtain ⟨_, f', hf', _⟩ := hstop
    cases hf'

/-! ## 2. The deletion -/

/-- The call that deletes a bucket, whose name stands percent-encoded in the path. -/
def deactivation (name : List Char) (ns : Value) : Call where
  method := "POST"
  path := .text (String.ofList ("/object/bucket/".toList ++ name ++ "/deactivate".toList))
  params := Bucket.inNamespace ns

/-- A path of a bucket holds its encoded name between two fixed texts. -/
theorem fill_resource {part p : String} {name : Value} :
    (Bucket.resource part).fill [name] = .ok p ↔ ∃ cs, Text.Template.encoded name = .ok cs ∧
      p = String.ofList ("/object/bucket/".toList ++ cs ++ part.toList) :=
  Text.Template.fill_one

/-- A question to the object storage. -/
def IsStorage (e : Dialogue.Event Wire) : Prop := ∃ q a, e = ⟨.storage q, a⟩

/-- **What becomes of a bucket that holds nothing**: its deletion is sent, and the outcome tells
whether it was accepted. -/
structure BucketDeleted (c : Call) (name : Value) (s : Session) (es : Session.Events)
    (x : Except Fault Response) (outcome : Except Fault Unit) : Prop where
  sent : ∃ u reply rest, s.urlText c.path = .ok u ∧
    es = Session.sent (s.callRequest c u []) reply :: rest
  delivered : Session.Delivered c es x
  afterwards : ∀ e ∈ es, ¬ IsStorage e
  accepted : outcome = .ok () ↔ ∃ r, x = .ok r
  refused : (∀ e ∈ es, Session.Possible e) → ∀ f, x = .error f → f.isManagement ∧
    outcome = .error (.broker (some ("Error Deleting Bucket " ++ name.plain ++ " " ++ f.text))
      (some f))

theorem refuses_unauthorized {cs : List Char} :
    (deactivation cs b.home).accepted.holds (.int 401) ≠ .ok true := by
  simp [deactivation, Value.holds, Value.equal_int_int]

/-- Behind a wipe that recorded nothing the bucket is deleted. -/
theorem course_finishWipe_of_nil {id name : Value} {cs : List Char} {progress : Wipe.Progress}
    {bs bs' : State} {es : List (Dialogue.Event Remote)} {r : Except Fault Unit}
    (hname : b.nameOf id = .ok name) (hcs : Text.Template.encoded name = .ok cs)
    (hprogress : progress.errors = []) (h : (b.finishWipe id progress).Course bs es r bs') :
    ∃ a, es = [called (deactivation cs b.home) a] ∧
      r = (a.map fun _ => ()).mapError (notDeleted name) := by
  rw [finishWipe, hname, hprogress] at h
  obtain ⟨m, hm, _⟩ | ⟨name', hname', h⟩ := Action.course_lift_malformed_bind.1 h
  · cases hm
  cases hname'
  obtain ⟨r, hdelete, rfl⟩ := Action.course_mapFault.1 h
  have hpath := (@fill_resource "/deactivate" _ name).2 ⟨cs, hcs, rfl⟩
  rw [Bucket.delete, course_path_bind, Bucket.deactivation, hpath] at hdelete
  obtain ⟨m, hm, _⟩ | ⟨p, hp, hcall⟩ := hdelete
  · cases hm
  · cases hp
    obtain ⟨a, rfl, rfl, _⟩ := course_perform.1 hcall
    exact ⟨a, rfl, rfl⟩

/-- Behind a wipe that recorded something the bucket is kept, and the record is told. -/
theorem course_finishWipe_of_ne_nil {id name : Value} {progress : Wipe.Progress}
    {bs bs' : State} {es : List (Dialogue.Event Remote)} {r : Except Fault Unit}
    (hname : b.nameOf id = .ok name) (hprogress : progress.errors ≠ [])
    (h : (b.finishWipe id progress).Course bs es r bs') :
    es = [] ∧ r = .error (.wipeFailed name progress.errors) := by
  rw [finishWipe, hname] at h
  obtain ⟨m, hm, _⟩ | ⟨name', hname', h⟩ := Action.course_lift_malformed_bind.1 h
  · cases hm
  cases hname'
  cases herrors : progress.errors with
  | nil => exact absurd herrors hprogress
  | cons e rest =>
    rw [herrors] at h
    obtain ⟨rfl, rfl, _⟩ := Action.course_throw.1 h
    exact ⟨rfl, rfl⟩

variable {σ : Type} (w : Dialogue.World Wire σ) (st : σ) (s : Session)

theorem not_isStorage_of_requestOf {c : Call} {e : Dialogue.Event Wire} {s : Session}
    (h : Session.RequestOf s c e) : ¬ IsStorage e := by
  rintro ⟨q, a, rfl⟩
  generalize he : (⟨.storage q, a⟩ : Dialogue.Event Wire) = e at h
  cases h <;> cases he

/-- A session with a token sends the deletion at once, and the outcome is that of the request. -/
theorem bucketDeleted_of_request {name : Value} {cs : List Char} {s s' : Session}
    {es : Session.Events} {x : Except Fault Response} (hs : s.Sound) (htoken : s.isLoggedIn)
    (h : (Session.request (deactivation cs b.home)).Course s es x s') :
    BucketDeleted (deactivation cs b.home) name s es x
      ((x.map fun _ => ()).mapError (notDeleted name)) := by
  have hexchange : Session.ExchangeCourse (deactivation cs b.home) s es x s' :=
    Session.exchangeCourse_of_course h
  constructor
  case sent => exact Session.first_of_exchange (hs htoken) htoken rfl rfl hexchange
  case delivered => exact Session.delivered_of_exchange (b.refuses_unauthorized) hexchange
  case afterwards =>
    intro e he
    exact not_isStorage_of_requestOf ((Session.served_of_exchange hexchange).requests e he)
  case accepted =>
    cases x with
    | ok r => exact ⟨fun _ => ⟨r, rfl⟩, fun _ => rfl⟩
    | error f => exact ⟨fun h => (by cases h), fun ⟨_, h⟩ => (by cases h)⟩
  case refused =>
    rintro hsend f rfl
    have hf := Session.isManagement_of_exchange (hs htoken) hsend rfl rfl rfl hexchange
    refine ⟨hf, ?_⟩
    show Except.error (notDeleted name f) = _
    rw [notDeleted, if_pos hf]

/-! ## 3. The whole -/

/-- A request that creates, changes or deletes something by a POST. -/
def IsPost (e : Dialogue.Event Wire) : Prop := ∃ q x, e = Session.sent q x ∧ q.method = "POST"

/-- What belongs to a call of a grant is neither a question to the object storage nor a POST. -/
theorem granting_of_requestOf {c : Call} {e : Dialogue.Event Wire} {s : Session}
    (hc : IsGranting c) (h : Session.RequestOf s c e) : ¬ IsStorage e ∧ ¬ IsPost e := by
  have hmethod : c.method ≠ "POST" := by
    obtain ⟨h, _⟩ | h := hc
    · rw [h]
      exact fun h => absurd (Value.text.inj h) (by decide)
    · rw [h]
      exact fun h => absurd (Value.text.inj h) (by decide)
  refine ⟨not_isStorage_of_requestOf h, ?_⟩
  · rintro ⟨q, x, rfl, hq⟩
    generalize he : Session.sent q x = e at h
    cases h with
    | login hu => cases he; exact absurd (Value.text.inj hq) (by decide)
    | call hu => cases he; exact hmethod hq
    | pause => cases he
    | random => cases he

/-- **A grant sends no POST** and does not touch the objects. -/
theorem granting_events (id : Value) (bs : State) :
    ∀ e ∈ (Dialogue.run w (Session.carryOut ((b.startWipe id).run bs) s) st).events,
      ¬ IsStorage e ∧ ¬ IsPost e := by
  intro e he
  have hcourse := Action.course_iff.1 (Session.course_carryOut w ((b.startWipe id).run bs) s st)
  obtain ⟨c, hrequest, hc⟩ :=
    Session.events_of_calls w _ s st (b.asks_startWipe _ _ _ _ hcourse) e he
  exact granting_of_requestOf hc hrequest

theorem storage_of_onWire {es : Wipe.Events} :
    ∀ e ∈ es.flatMap Session.onWire, IsStorage e := by
  intro e he
  obtain ⟨⟨q, a⟩, _, he⟩ := List.mem_flatMap.1 he
  cases q with
  | call c => cases he
  | storage q =>
    cases List.mem_singleton.1 he
    exact ⟨q, a, rfl⟩

theorem not_isPost_of_isStorage {e : Dialogue.Event Wire} (h : IsStorage e) : ¬ IsPost e := by
  obtain ⟨q, a, rfl⟩ := h
  rintro ⟨q', x, he, _⟩
  cases he

/-- A wipe over a session leaves the session alone, and its record tells what it came to. -/
theorem run_wipe (name : Value) (bs : State) :
    let o := Dialogue.run w (Session.carryOut (((Wipe.wipe (.ok Wipe.batchLimit) name
      (.text "")).stateAfter .start : Operation Wipe.Progress).run bs) s) st
    ∃ es p st', (Wipe.wipe (.ok Wipe.batchLimit) name (.text "")).Course .start es (.ok ()) p ∧
      o = ⟨((.ok p, bs), s), es.flatMap Session.onWire, st'⟩ := by
  intro o
  have hcourse := Action.course_iff.1 (Session.course_carryOut w
    (((Wipe.wipe (.ok Wipe.batchLimit) name (.text "")).stateAfter .start :
      Operation Wipe.Progress).run bs) s st)
  obtain ⟨r, p, hwipe, hp, hbs⟩ := Action.course_stateAfter.1 hcourse
  obtain ⟨rfl, hstorage, _⟩ := Wipe.course_wipe ⟨0, rfl⟩ hwipe
  obtain ⟨hsession, hevents⟩ := Session.run_storage w _ s st fun turn hturn =>
    hstorage turn.event (List.mem_map_of_mem hturn)
  refine ⟨_, p, o.state, hwipe, ?_⟩
  have hresult : o.result = ((.ok p, bs), s) := Prod.ext (Prod.ext hp hbs) hsession
  rw [← hresult, ← hevents]

/-- An emptied bucket is deleted by a session that the grant has left with a token. -/
theorem run_finishWipe_of_nil {id name : Value} {cs : List Char} {progress : Wipe.Progress}
    (bs : State) (hname : b.nameOf id = .ok name) (hcs : Text.Template.encoded name = .ok cs)
    (hprogress : progress.errors = []) (hs : s.Sound) (htoken : s.isLoggedIn) :
    let o := Dialogue.run w (Session.carryOut ((b.finishWipe id progress).attempt.run bs) s) st
    ∃ x outcome, o.result.1.1 = .ok outcome ∧
      BucketDeleted (deactivation cs b.home) name s o.events x outcome := by
  intro o
  have hcourse := Action.course_iff.1
    (Session.course_carryOut w ((b.finishWipe id progress).attempt.run bs) s st)
  obtain ⟨r, hfinish, hr⟩ := Action.course_attempt.1 hcourse
  obtain ⟨a, hevents, rfl⟩ := b.course_finishWipe_of_nil hname hcs hprogress hfinish
  obtain ⟨turn, hturns, hturn⟩ := List.map_eq_singleton_iff.1 hevents
  obtain ⟨s', hrequest⟩ := Session.course_of_first w _ s st hturns hturn
  have ho : o.events = turn.sent := by
    rw [Session.events_carryOut, hturns, List.flatMap_cons, List.flatMap_nil, List.append_nil]
  rw [ho]
  exact ⟨a, _, hr, b.bucketDeleted_of_request hs htoken hrequest⟩

/-- A bucket that was not emptied is kept, without another request. -/
theorem run_finishWipe_of_ne_nil {id name : Value} {progress : Wipe.Progress} (bs : State)
    (hname : b.nameOf id = .ok name) (hprogress : progress.errors ≠ []) :
    let o := Dialogue.run w (Session.carryOut ((b.finishWipe id progress).attempt.run bs) s) st
    o.result.1.1 = .ok (.error (.wipeFailed name progress.errors)) ∧ o.events = [] := by
  intro o
  have hcourse := Action.course_iff.1
    (Session.course_carryOut w ((b.finishWipe id progress).attempt.run bs) s st)
  obtain ⟨r, hfinish, hr⟩ := Action.course_attempt.1 hcourse
  obtain ⟨hevents, rfl⟩ := b.course_finishWipe_of_ne_nil hname hprogress hfinish
  refine ⟨hr, ?_⟩
  rw [Session.events_carryOut, List.map_eq_nil_iff.1 hevents, List.flatMap_nil]

/-- Behind a grant the bucket is wiped, and what follows goes on with the session of the grant. -/
theorem run_wipeAndDelete {id name : Value} {bs : State} (hname : b.nameOf id = .ok name) :
    let g := Dialogue.run w (Session.carryOut ((b.startWipe id).run bs) s) st
    let o := Dialogue.run w (Session.carryOut ((b.wipeAndDelete id).run bs) s) st
    g.result.1.1 = .ok () → ∃ es p st',
      (Wipe.wipe (.ok Wipe.batchLimit) name (.text "")).Course .start es (.ok ()) p ∧
      let q := Dialogue.run w (Session.carryOut
        ((b.finishWipe id p).attempt.run g.result.1.2) g.result.2) st'
      o.result = q.result ∧ o.events = g.events ++ es.flatMap Session.onWire ++ q.events := by
  intro g o hok
  obtain ⟨es, p, st', hwipe, hrun⟩ :=
    run_wipe w g.state g.result.2 name g.result.1.2
  have ho : o = ⟨_, _, _⟩ := Session.run_bind_of_ok w s st hok
  rw [hname] at ho
  have hrest := Session.run_bind_of_ok w g.result.2 g.state (congrArg (fun o => o.result.1.1) hrun)
    (f := fun progress => (b.finishWipe id progress).attempt)
  rw [hrun] at hrest
  refine ⟨es, p, st', hwipe, ?_, ?_⟩
  · rw [ho]
    exact (congrArg Dialogue.Outcome.result hrest :)
  · rw [ho, List.append_assoc]
    exact congrArg (g.events ++ ·) (congrArg Dialogue.Outcome.events hrest :)

/-- **A bucket is deleted only if nothing is left in it.** Where the grant fails its failure is
the result and nothing else is sent. Where it succeeds the bucket is wiped; the request that
deletes it is sent behind everything else if the bucket was emptied, and otherwise it is not sent
at all and the result tells what was recorded. -/
theorem wipeAndDelete_keeps_unemptied (id : Value) (bs : State) (hs : s.Sound) :
    let g := Dialogue.run w (Session.carryOut ((b.startWipe id).run bs) s) st
    let o := Dialogue.run w (Session.carryOut ((b.wipeAndDelete id).run bs) s) st
    (∀ e ∈ g.events, ¬ IsStorage e ∧ ¬ IsPost e) ∧
      (∀ f, g.result.1.1 = .error f → o.result.1.1 = .error f ∧ o.events = g.events) ∧
      (g.result.1.1 = .ok () → ∃ name cs es p outcome,
        b.nameOf id = .ok name ∧ Text.Template.encoded name = .ok cs ∧
        (Wipe.wipe (.ok Wipe.batchLimit) name (.text "")).Course .start es (.ok ()) p ∧
        o.result.1.1 = .ok outcome ∧
        (Emptied name (.text "") es → ∃ rest x,
          o.events = g.events ++ es.flatMap Session.onWire ++ rest ∧
          BucketDeleted (deactivation cs b.home) name g.result.2 rest x outcome) ∧
        (¬ Emptied name (.text "") es →
          o.events = g.events ++ es.flatMap Session.onWire ∧ (∀ e ∈ o.events, ¬ IsPost e) ∧
          p.errors ≠ [] ∧ outcome = .error (.wipeFailed name p.errors))) := by
  intro g o
  have hgranting := b.granting_events w st s id bs
  refine ⟨hgranting, fun f hf => ?_, fun hok => ?_⟩
  · have ho : o = _ := Session.run_bind_of_error w s st hf
    rw [ho]
    exact ⟨rfl, rfl⟩
  -- The grant has named the bucket, and its last call has left a token.
  have hgranted := Action.course_iff.1
    (Session.course_carryOut w ((b.startWipe id).run bs) s st)
  rw [hok] at hgranted
  obtain ⟨name, path, hname, hpath, init, c, a, hevents⟩ := b.granted_of_course hgranted
  obtain ⟨cs, hcs, _⟩ := fill_resource.1 hpath
  have htoken : g.result.2.isLoggedIn := Session.isLoggedIn_of_last w _ s st hevents
  have hsound : g.result.2.Sound := (Session.turns_succeed w _ s st).2.2 hs
  obtain ⟨es, p, st', hwipe, hresult, ho⟩ := b.run_wipeAndDelete w st s hname hok
  have hiff : p.errors = [] ↔ Emptied name (.text "") es := Wipe.errors_wipe_eq_nil_iff hwipe
  -- What the wipe recorded decides, and it tells whether the bucket was emptied.
  by_cases herrors : p.errors = []
  · obtain ⟨x, outcome, houtcome, hdeleted⟩ := b.run_finishWipe_of_nil w st' g.result.2
      g.result.1.2 hname hcs herrors hsound htoken
    refine ⟨name, cs, es, p, outcome, hname, hcs, hwipe, ?_, ?_, ?_⟩
    · rw [hresult, houtcome]
    · intro _
      exact ⟨_, x, ho, hdeleted⟩
    · intro h
      exact absurd (hiff.1 herrors) h
  · obtain ⟨houtcome, hnone⟩ := b.run_finishWipe_of_ne_nil w st' g.result.2
      g.result.1.2 hname herrors
    refine ⟨name, cs, es, p, .error (.wipeFailed name p.errors), hname, hcs, hwipe, ?_, ?_, ?_⟩
    · rw [hresult, houtcome]
    · intro h
      exact absurd (hiff.2 h) herrors
    · intro _
      rw [hnone, List.append_nil] at ho
      refine ⟨ho, ?_, herrors, rfl⟩
      rw [ho]
      intro e he
      rcases List.mem_append.1 he with he | he
      · exact (hgranting e he).2
      · exact not_isPost_of_isStorage (storage_of_onWire e he)

/-- A broker without services that can wipe buckets. -/
def bare : Broker := ⟨Configuration.defaults.set .namespaceName (.text "ns"), ⟨[]⟩⟩

def wiping : State := { State.start with wipeReady := true }

/-- A bucket that holds one object. -/
def singleObject : Rehearsal.State where
  server := ⟨[], 0, [], [("GET /object/bucket/ecs-cf-broker-b/acl",
    .always (Rehearsal.Server.plainResponse 200 "\x7b\"acl\":\x7b\x7d\x7d"))],
    Rehearsal.Server.plainResponse 200 "\x7b\x7d"⟩
  depot := ⟨none, [.ok (.mapping
    [(.text "Contents", .list [.mapping [(.text "Key", .text "k")]])])], []⟩
  random := 0.5

def succeeds : Except Fault (Except Fault Unit) → Bool
  | .ok (.ok ()) => true
  | _ => false

/-- A bucket is deleted behind its only object: behind a login and the four requests of the grant
come the listing, the deletion of the object, and that of the bucket. -/
theorem wipeAndDelete_keeps_unemptied_single :
    let s := Session.expired.withToken none
    s.Sound ∧
      let g := Dialogue.run Rehearsal.world
        (Session.carryOut ((bare.startWipe (.text "b")).run wiping) s) singleObject
      let o := Dialogue.run Rehearsal.world
        (Session.carryOut ((bare.wipeAndDelete (.text "b")).run wiping) s) singleObject
      g.events.length = 5 ∧ o.events.length = 8 ∧ ∃ name cs es rest x,
        o.events = g.events ++ es.flatMap Session.onWire ++ rest ∧ Emptied name (.text "") es ∧
        BucketDeleted (deactivation cs (.text "ns")) name g.result.2 rest x (.ok ()) := by
  intro s
  have hs : s.Sound := fun htoken => (by cases htoken)
  refine ⟨hs, ?_⟩
  intro g o
  obtain ⟨_, _, h⟩ := bare.wipeAndDelete_keeps_unemptied Rehearsal.world singleObject s (.text "b")
    wiping hs
  have hrun : g.events.length = 5 ∧ o.events.length = 8 ∧ g.result.1.1.isOk ∧
      succeeds o.result.1.1 := by decide +kernel
  obtain ⟨hg, ho, hok, hsucceeds⟩ := hrun
  refine ⟨hg, ho, ?_⟩
  have hgranted : g.result.1.1 = .ok () := by
    cases hresult : g.result.1.1 with
    | ok => rfl
    | error f => rw [hresult] at hok; cases hok
  obtain ⟨name, cs, es, p, outcome, _, _, _, houtcome, hemptied, hkept⟩ := h hgranted
  rw [show o.result.1.1 = .ok outcome from houtcome] at hsucceeds
  by_cases hempty : Emptied name (.text "") es
  · obtain ⟨rest, x, hevents, hdeleted⟩ := hemptied hempty
    cases outcome with
    | ok => exact ⟨name, cs, es, rest, x, hevents, hempty, hdeleted⟩
    | error f => cases hsucceeds
  · rw [(hkept hempty).2.2.2] at hsucceeds
    cases hsucceeds

end StorageBroker.Broker
