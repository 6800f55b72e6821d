import StorageBroker.Proofs.Broker.Preparation
/-!
# Starts are all or nothing

A start that succeeds leaves what it gives, and one that fails leaves nothing; no other deed changes
what is left. What a start that succeeds has sent tells what it has not found: it repeats no work of
the starts before it.

* `Equipped` -- what is sent for the repository, as it is seen on the wire;
* `sends_bucket_iff` and the like -- each of the requests that make a part of the repository;
* `equipped_of_prepared` -- all of it, read off the calls and what they are for;
* `discovery_remains` -- behind a row of deeds the last start counts;
* `launch_all_or_nothing` -- what a start leaves and sends.
-/

namespace StorageBroker.Broker

open Management
open Text.Template (under_self)

variable {b : Broker} {found : Part → Bool}

/-! ## 1. One start -/

theorem resourceAddress_eq_ok {s : Session} {t : Text.Template} {id : Value} {u : Text}
    (h : b.resourceAddress s t id = .ok u) :
    ∃ name p, b.nameOf id = .ok name ∧ t.fill [name] = .ok p ∧
      b.resourceAddress s t id = s.urlText (.text p) := by
  obtain ⟨name, hname, hfilled⟩ := bind_eq_ok.1 h
  obtain ⟨p, hp, _⟩ := bind_eq_ok.1 hfilled
  exact ⟨name, p, hname, hp, resourceAddress_eq hname hp⟩

section Start

variable (b) {σ : Type} (w : Dialogue.World Wire σ)

/-- The calls of a deed and its questions to the object storage, with what they were answered. -/
def Deed.calls (x : Deed) (bs : State) (s : Session) (st : σ) : List (Dialogue.Event Remote) :=
  (Session.turns w ((x.perform b).run bs) s st).map Dialogue.Turn.event

/-- **What a start that succeeds has done for what it gives**: it looked for the parts of the
repository, sent what creates those that it has not found, and took one client of the storage. -/
structure Equipped (s : Session) (d : Discovery) (found : Part → Bool)
    (calls : List (Dialogue.Event Remote)) (es : Session.Events) : Prop where
  looked : ∀ k, b.FirstLook k (found k) calls
  bucket : (∃ e ∈ es, Session.Sends "POST" (s.urlText Part.bucket.path) e) ↔
    found .bucket = false
  user : (∃ e ∈ es, Session.Sends "POST" (s.urlText Part.user.path) e) ↔ found .user = false
  key : (∃ e ∈ es, Session.Sends "POST"
    (b.resourceAddress s User.secrets (b.config.value .repositoryUser)) e) ↔ found .user = false
  grant : (∃ e ∈ es, Session.Sends "PUT"
    (b.resourceAddress s Bucket.acl (b.config.value .repositoryBucket)) e) ↔ found .user = false
  reads : (∀ k, found k) → ∀ q x, Session.sent q x ∈ es → q.method = .text "GET"
  client : ∃ user, b.nameOf (b.config.value .repositoryUser) = .ok user ∧
    LastListed user d.repositorySecret calls ∧ es.filter Session.isStorage =
      [⟨.storage (.connect d.repositoryEndpoint user d.repositorySecret), .ok ()⟩]

variable {b} {w} {α : Type} {x : Dialogue Remote α} {s : Session} {st : σ}
  {prepared : List (Dialogue.Event Remote)} {secret : Value}

/-- What is sent to the address of a path was called for a purpose. -/
theorem purpose_of_sends {method p : Text} {e : Dialogue.Event Wire}
    (hpurposed : ∀ c a, called c a ∈ (Session.turns w x s st).map Dialogue.Turn.event →
      b.Purpose found c)
    (he : e ∈ (Dialogue.run w (Session.carryOut x s) st).events)
    (hsends : Session.Sends method (s.urlText (.text p)) e) :
    ∃ c, b.Purpose found c ∧ c.method = .text method ∧ c.path = .text p := by
  obtain ⟨c, a, hc, hmethod, hpath⟩ := Session.call_of_sends w x s st he hsends
  exact ⟨c, hpurposed c a hc, hmethod, hpath⟩

/-- The same for the address of a resource. -/
theorem purpose_of_sends_resource {t : Text.Template} {v : Value} {method : Text}
    {e : Dialogue.Event Wire}
    (hpurposed : ∀ c a, called c a ∈ (Session.turns w x s st).map Dialogue.Turn.event →
      b.Purpose found c)
    (he : e ∈ (Dialogue.run w (Session.carryOut x s) st).events)
    (hsends : Session.Sends method (b.resourceAddress s t v) e) :
    ∃ c name p, b.Purpose found c ∧ b.nameOf v = .ok name ∧ t.fill [name] = .ok p ∧
      c.method = .text method ∧ c.path = .text p := by
  have haddressed : ∃ u, b.resourceAddress s t v = .ok u := by
    obtain ⟨q, _, _, _, _, haddress⟩ := hsends
    exact ⟨q.url, haddress⟩
  obtain ⟨u, haddress⟩ := haddressed
  obtain ⟨name, p, hname, hp, haddress⟩ := resourceAddress_eq_ok haddress
  rw [haddress] at hsends
  obtain ⟨c, hc, hmethod, hpath⟩ := purpose_of_sends hpurposed he hsends
  exact ⟨c, name, p, hc, hname, hp, hmethod, hpath⟩

theorem method_of_requestOf {c : Call} {q : Request} {y : Reply}
    (h : Session.RequestOf s c (Session.sent q y)) (hc : c.method = .text "GET") :
    q.method = .text "GET" := by
  generalize hevent : Session.sent q y = e at h
  cases h with
  | login hu => cases hevent; rfl
  | pause => cases hevent
  | random => cases hevent
  | call hu => cases hevent; exact hc

section Sent

variable (hpurposed : ∀ c a, called c a ∈ (Session.turns w x s st).map Dialogue.Turn.event →
    b.Purpose found c)
  (hprepared : Prepared b secret prepared found)
  (hmade : ∀ e ∈ prepared, e ∈ (Session.turns w x s st).map Dialogue.Turn.event)

/-- What is called and accepted is sent. -/
theorem sends_of_called {c : Call} {a : Response} {method : Text}
    (hc : called c (.ok a) ∈ (Session.turns w x s st).map Dialogue.Turn.event)
    (hmethod : c.method = .text method) :
    ∃ e ∈ (Dialogue.run w (Session.carryOut x s) st).events,
      Session.Sends method (s.urlText c.path) e :=
  (Session.accepted_of_turns w x s st hc).sends hmethod

include hpurposed hprepared hmade

theorem sends_bucket_iff : (∃ e ∈ (Dialogue.run w (Session.carryOut x s) st).events,
    Session.Sends "POST" (s.urlText Part.bucket.path) e) ↔ found .bucket = false := by
  constructor
  · rintro ⟨e, he, hsends⟩
    obtain ⟨c, hc, hmethod, hpath⟩ := purpose_of_sends hpurposed he hsends
    exact hc.found_bucket hmethod hpath
  · intro hfound
    obtain ⟨body, a, hcreated⟩ := hprepared.created_bucket hfound
    exact sends_of_called (hmade _ hcreated) rfl

theorem sends_user_iff : (∃ e ∈ (Dialogue.run w (Session.carryOut x s) st).events,
    Session.Sends "POST" (s.urlText Part.user.path) e) ↔ found .user = false := by
  constructor
  · rintro ⟨e, he, hsends⟩
    obtain ⟨c, hc, hmethod, hpath⟩ := purpose_of_sends hpurposed he hsends
    refine hc.found_user hmethod fun heq => ?_
    exact absurd (Value.text.inj (hpath.symm.trans heq)) (by decide)
  · intro hfound
    obtain ⟨⟨body, a, hcreated⟩, _⟩ := hprepared.made_user hfound
    exact sends_of_called (hmade _ hcreated) rfl

theorem sends_key_iff : (∃ e ∈ (Dialogue.run w (Session.carryOut x s) st).events,
    Session.Sends "POST" (b.resourceAddress s User.secrets (b.config.value .repositoryUser)) e) ↔
      found .user = false := by
  constructor
  · rintro ⟨e, he, hsends⟩
    obtain ⟨c, _, p, hc, _, hp, hmethod, hpath⟩ := purpose_of_sends_resource hpurposed he hsends
    refine hc.found_user hmethod fun heq => ?_
    exact absurd (Value.text_plain_inj (hpath.symm.trans heq))
      ((under_secrets hp).ne under_self (by decide))
  · intro hfound
    obtain ⟨_, ⟨user, p, body, a, hname, hp, hkey⟩, _⟩ := hprepared.made_user hfound
    rw [resourceAddress_eq hname hp]
    exact sends_of_called (hmade _ hkey) rfl

theorem sends_grant_iff : (∃ e ∈ (Dialogue.run w (Session.carryOut x s) st).events,
    Session.Sends "PUT" (b.resourceAddress s Bucket.acl (b.config.value .repositoryBucket)) e) ↔
      found .user = false := by
  constructor
  · rintro ⟨e, he, hsends⟩
    obtain ⟨c, name, p, hc, hname, hp, hmethod, hpath⟩ :=
      purpose_of_sends_resource hpurposed he hsends
    exact hc.found_user_of_grant hname hp hmethod hpath
  · intro hfound
    obtain ⟨_, _, name, p, body, a, hname, hp, hgranted⟩ := hprepared.made_user hfound
    rw [resourceAddress_eq hname hp]
    exact sends_of_called (hmade _ hgranted) rfl

end Sent

/-- **What is sent tells what was not found**, where it is known what the calls are for. -/
theorem equipped_of_prepared {looked calls : List (Dialogue.Event Remote)} {d : Discovery}
    {user : Value} (hturns : (Session.turns w x s st).map Dialogue.Turn.event = calls)
    (hcalls : calls =
      looked ++ (prepared ++ [connected d.repositoryEndpoint user d.repositorySecret]))
    (hlooked : ∀ e ∈ looked, ∃ c a, e = called c a ∧ IsLookup c)
    (hprepared : Prepared b d.repositorySecret prepared found)
    (huser : b.nameOf (b.config.value .repositoryUser) = .ok user) :
    b.Equipped s d found calls (Dialogue.run w (Session.carryOut x s) st).events := by
  have hlookups : b.Purposed found looked := purposed_of_lookups hlooked
  have hpurposed : ∀ c a, called c a ∈ (Session.turns w x s st).map Dialogue.Turn.event →
      b.Purpose found c := by
    intro c a hc
    rw [hturns, hcalls, ← List.append_assoc] at hc
    rcases List.mem_append.1 hc with hc | hc
    · obtain ⟨_, _, heq, hpurpose⟩ := hlookups.append hprepared.purposed _ hc
      cases heq
      exact hpurpose
    · cases List.mem_singleton.1 hc
  have hmade : ∀ e ∈ prepared, e ∈ (Session.turns w x s st).map Dialogue.Turn.event := by
    intro e he
    rw [hturns, hcalls]
    exact List.mem_append_right _ (List.mem_append_left _ he)
  exact {
    looked := fun k => hcalls ▸ hprepared.firstLook hlooked k
    bucket := sends_bucket_iff hpurposed hprepared hmade
    user := sends_user_iff hpurposed hprepared hmade
    key := sends_key_iff hpurposed hprepared hmade
    grant := sends_grant_iff hpurposed hprepared hmade
    reads := by
      intro hfound q y he
      obtain ⟨c, a, hc, hrequest⟩ | ⟨_, _, _, heq⟩ := Session.event_of_turns w x s st he
      · exact method_of_requestOf hrequest ((hpurposed c a hc).reads hfound)
      · cases heq
    client := by
      refine ⟨user, huser, ?_, ?_⟩
      · rw [hcalls]
        refine (hprepared.lastListed huser).append fun c y hc => ?_
        cases List.mem_singleton.1 hc
      · rw [Session.filter_isStorage, hturns, hcalls, List.flatMap_append, List.flatMap_append,
          hlookups.onWire, hprepared.purposed.onWire]
        rfl }

/-! ## 2. Starts among other deeds -/

/-- What a start came to, if the deed is one: what it gave, if it succeeded. -/
def Account.started? : Account → Option (Option Discovery)
  | ⟨.launch, r, _⟩ => some r.toOption
  | _ => none

/-- What the starts in a row of deeds came to, in order. -/
def starts (as : List Account) : List (Option Discovery) := as.filterMap Account.started?

/-- **Only a start changes what is discovered**: it leaves what it gives, and nothing if it
fails. -/
theorem discovery_of_run (x : Deed) (bs : State) (s : Session) (st : σ) :
    (x.run b w bs s st).result.1.2.discovery =
      (x.account b w bs s st).started?.getD bs.discovery := by
  have hcourse := course_of_run (b := b) (w := w) x bs s st
  cases x with
  | launch =>
    show _ = (Except.toOption (Deed.launch.account b w bs s st).result : Option Discovery)
    obtain ⟨d, hd, hstarted⟩ | ⟨⟨f, hf⟩, hnone, _⟩ := b.launch_cases hcourse
    · exact hstarted.discovery.trans (congrArg Except.toOption hd).symm
    · exact hnone.trans (congrArg Except.toOption hf).symm
  | command cmd => exact (Prod.mk.inj (cmd.leaves b _ _ _ _ hcourse)).1
  | wipe id => exact (Prod.mk.inj (b.leaves_wipeAndDelete _ _ _ _ hcourse)).1

/-- **What is discovered is what the last start left**, and what it was where there was none. -/
theorem discovery_remains (deeds : List Deed) (bs : State) (s : Session) (st : σ) :
    (b.remains w deeds bs s st).discovery =
      (starts (b.life w deeds bs s st)).getLast?.getD bs.discovery := by
  induction deeds generalizing bs s st with
  | nil => rfl
  | cons x xs ih =>
    rw [remains, life, ih, discovery_of_run, starts, starts, List.filterMap_cons]
    cases (x.account b w bs s st).started? with
    | none => rfl
    | some found =>
      show _ = (List.getLast? (found :: _)).getD _
      rw [List.getLast?_cons]
      rfl

/-- A start that fails reports the failure of what it has done. -/
theorem failure_of_launch {bs : State} {f : Fault}
    (h : (Deed.launch.run b w bs s st).result.1.1 = .error f) :
    ∃ g, (Dialogue.run w (Session.carryOut (b.startUp.run bs) s) st).result.1.1 = .error g ∧
      f = startFailure g := by
  have hattempt : (Dialogue.run w (Session.carryOut (b.startUp.attempt.run bs) s) st).result.1.1 =
      .ok (Dialogue.run w (Session.carryOut (b.startUp.run bs) s) st).result.1.1 := by
    rw [Action.attempt_run, Session.run_carryOut_bind]
    rfl
  have hlaunch : (Dialogue.run w (Session.carryOut (b.launch.run bs) s) st).result.1.1 = .error f :=
    h
  rw [launch, Session.run_bind_of_ok w s st hattempt] at hlaunch
  cases hstart : (Dialogue.run w (Session.carryOut (b.startUp.run bs) s) st).result.1.1 with
  | ok d =>
    rw [hstart] at hlaunch
    cases hlaunch
  | error g =>
    rw [hstart] at hlaunch
    exact ⟨g, rfl, (Except.error.inj hlaunch).symm⟩

/-- **A start is all or nothing, and does nothing over.** -/
theorem launch_all_or_nothing (b : Broker) (w : Dialogue.World Wire σ) (s : Session) (st : σ) :
    (∀ deeds d, (b.remains w deeds .start s st).discovery = some d ↔
      (starts (b.life w deeds .start s st)).getLast? = some (some d)) ∧
    ∀ bs,
      let o := Deed.launch.run b w bs s st
      (∀ f, o.result.1.1 = .error f → o.result.1.2.discovery = none ∧
        ∃ g, (Dialogue.run w (Session.carryOut (b.startUp.run bs) s) st).result.1.1 = .error g ∧
          f = startFailure g ∧ (g.isOwn → f.isBroker)) ∧
      ∀ d, o.result.1.1 = .ok d → o.result.1.2.discovery = some d ∧
        ∃ found, b.Equipped s d found (Deed.launch.calls b w bs s st) o.events := by
  refine ⟨fun deeds d => ?_, fun bs => ⟨fun f hf => ?_, fun d hd => ?_⟩⟩
  · rw [discovery_remains]
    cases (starts (b.life w deeds .start s st)).getLast? with
    | none => exact ⟨fun h => (nomatch h), fun h => (nomatch h)⟩
    | some found => exact ⟨congrArg some, Option.some.inj⟩
  · have hcourse := course_of_run (b := b) (w := w) .launch bs s st
    obtain ⟨d, hd, _⟩ | ⟨_, hnone, _⟩ := b.launch_cases hcourse
    · cases hf.symm.trans hd
    · obtain ⟨g, hg, rfl⟩ := failure_of_launch hf
      refine ⟨hnone, g, hg, rfl, fun hown => ?_⟩
      rw [startFailure, if_pos hown]
      rfl
  · have hcourse := course_of_run (b := b) (w := w) .launch bs s st
    obtain ⟨d', hd', hstarted⟩ | ⟨⟨f, hf⟩, _⟩ := b.launch_cases hcourse
    · cases hd.symm.trans hd'
      obtain ⟨looked, prepared, found, user, hcalls, hlooked, hprepared, huser⟩ :=
        phased_of_started hstarted
      exact ⟨hstarted.discovery, found, equipped_of_prepared rfl hcalls hlooked hprepared huser⟩
    · cases hd.symm.trans hf

end Start

open Rehearsal (Route) in
/-- A start on a management API that knows nothing of the repository. -/
def firstStart (creation : Route) :
    Dialogue.Outcome Wire Rehearsal.State ((Except Fault Discovery × State) × Session) :=
  Deed.launch.run founder Rehearsal.world .start (Session.expired.withToken none)
    (vacant (.inTurn absence [emptyDocument]) creation (.always emptyDocument))

/-- Where the user can be created, the start leaves what it gives; where not, nothing. -/
theorem launch_all_or_nothing_first :
    (∃ d, (firstStart (.always emptyDocument)).result.1.1 = .ok d ∧
      (firstStart (.always emptyDocument)).result.1.2.discovery = some d ∧
      ∃ found calls, founder.Equipped (Session.expired.withToken none) d found calls
        (firstStart (.always emptyDocument)).events) ∧
    ∃ f, (firstStart (.always forbidden)).result.1.1 = .error f ∧
      (firstStart (.always forbidden)).result.1.2.discovery = none ∧ f.isBroker := by
  constructor
  · have hok : (firstStart (.always emptyDocument)).result.1.1.isOk := by decide +kernel
    cases hresult : (firstStart (.always emptyDocument)).result.1.1 with
    | error f =>
      rw [hresult] at hok
      cases hok
    | ok d =>
      obtain ⟨_, hall⟩ := launch_all_or_nothing founder Rehearsal.world
        (Session.expired.withToken none)
        (vacant (.inTurn absence [emptyDocument]) (.always emptyDocument) (.always emptyDocument))
      obtain ⟨hleft, found, hequipped⟩ := (hall .start).2 d hresult
      exact ⟨d, rfl, hleft, found, _, hequipped⟩
  · obtain ⟨f, hf, _⟩ := failure_of_isFailure
      (show isFailure (fun _ => true) (firstStart (.always forbidden)).result.1.1 by decide +kernel)
    obtain ⟨_, hall⟩ := launch_all_or_nothing founder Rehearsal.world
      (Session.expired.withToken none)
      (vacant (.inTurn absence [emptyDocument]) (.always forbidden) (.always emptyDocument))
    obtain ⟨hnone, g, hstart, rfl, howned⟩ := (hall .start).1 f hf
    obtain ⟨g', hstart', hown⟩ := failure_of_isFailure
      (show isFailure Fault.isOwn (Dialogue.run Rehearsal.world (Session.carryOut
        (founder.startUp.run .start) (Session.expired.withToken none)) (vacant
          (.inTurn absence [emptyDocument]) (.always forbidden)
          (.always emptyDocument))).result.1.1 by decide +kernel)
    cases hstart.symm.trans hstart'
    exact ⟨_, hf, hnone, howned hown⟩

end StorageBroker.Broker
