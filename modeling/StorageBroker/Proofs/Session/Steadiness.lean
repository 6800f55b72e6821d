import StorageBroker.Proofs.Session.Operations
/-!
# Sessions that fail as the library does

What a session cannot help fails as the library raises failures: its login is refused, the transport
breaks down, a response is not the expected one. Besides that a request may have no form in which it
is sent, and a policy of trying again may have settings that no wait comes of. Without these two a
call fails in no other way.

* `Steady` -- a policy of trying again that can tell how often to try and how long to wait;
* `steady_standard` -- the policy of a session that is given none is one;
* `fault_of_retrying` -- under such a policy the failure of the whole is that of an attempt;
* `Proper`, `proper_start` -- sessions that have been started;
* `Ordinary` -- calls about which nothing can be wrong;
* `own_of_turns` -- the calls of an operation, made by such a session.
-/

namespace StorageBroker.Retry

variable {σ α : Type} {s s' : σ} {es : List (Dialogue.Event Wire)} {p : Policy}

/-! ## 1. Policies that can tell -/

/-- The random part of a wait, by the random number that is drawn for it. -/
def randomPart (p : Policy) (x : Float) : Except Malformed Number :=
  if p.randomize.truthy then do return .float (x * (← asFloat (← asNumber p.initialDelay)))
  else .ok (.int 0)

/-- The seconds of a delay and the random part behind it. -/
def secondsOf (delay extra : Number) : Except Malformed Float :=
  match delay.add extra with
  | some total => asFloat total
  | none => .error (.magnitude "int too large to convert to float")

/-- How long a wait is, by the random number that is drawn for it. -/
def pauseLength (p : Policy) (delay : Number) (x : Float) : Except Malformed Float := do
  secondsOf delay (← randomPart p x)

/-- **The waits of a policy can be told**, for as many retries as are left. -/
def Paced (p : Policy) : (left : Nat) → (n : Nat) → (delay : Number) → Prop
  | 0, _, _ => True
  | left + 1, n, delay => ∃ next, nextDelay p n delay = .ok next ∧
      (∀ x, ∃ seconds, pauseLength p next x = .ok seconds) ∧ Paced p left (n + 1) next

/-- **A policy that can tell how often to try and how long to wait**, if there is one at all. -/
def Steady (policy : Option Policy) : Prop :=
  ∀ p, policy = some p → ∃ most, asNumber p.maxRetries = .ok most ∧
    Paced p most.countBelow 0 (.int 0)

theorem steady_none : Steady none := fun _ h => nomatch h

/-- What the settings of a policy come to as doubles, where they are numbers that can be doubles. -/
structure Policy.Tells (p : Policy) (initial most factor : Float) : Prop where
  initial : ∃ n, asNumber p.initialDelay = .ok n ∧ asFloat n = .ok initial
  most : ∃ n, asNumber p.maxBackoff = .ok n ∧ asFloat n = .ok most
  factor : ∃ n, asNumber p.factor = .ok n ∧ asFloat n = .ok factor

theorem toFloat?_of_asFloat {n : Number} {x : Float} (h : asFloat n = .ok x) :
    n.toFloat? = some x := by
  unfold asFloat at h
  split at h
  next y hy =>
    cases h
    exact hy
  next => cases h

/-- A delay that can be a double is one together with its random part as well. -/
theorem secondsOf_isOk {delay extra : Number} {a y : Float} (ha : asFloat delay = .ok a)
    (hextra : extra = .float y ∨ extra = .int 0) : ∃ t, secondsOf delay extra = .ok t := by
  have hfloat := toFloat?_of_asFloat ha
  rcases hextra with rfl | rfl
  · refine ⟨a + y, ?_⟩
    cases delay with
    | int i =>
      have hsum : Number.add (.int i) (.float y) = some (.float (a + y)) := by
        show ((Number.int i).toFloat?.bind fun x => some (Number.float (x + y))) = _
        rw [hfloat]
        rfl
      rw [secondsOf, hsum]
      rfl
    | float x =>
      cases hfloat
      rfl
  · cases delay with
    | int i =>
      refine ⟨a, ?_⟩
      rw [secondsOf, Number.add, Int.add_zero]
      exact ha
    | float x => exact ⟨x + Float.ofInt 0, rfl⟩

section Tells

variable {initial most factor : Float}

theorem Policy.Tells.pauseLength (h : p.Tells initial most factor) {delay : Number} {a : Float}
    (ha : asFloat delay = .ok a) (x : Float) : ∃ t, pauseLength p delay x = .ok t := by
  obtain ⟨⟨n, hn, hd⟩, _, _⟩ := h
  have hpart : ∃ extra, randomPart p x = .ok extra ∧
      (extra = .float (x * initial) ∨ extra = .int 0) := by
    unfold randomPart
    split
    · exact ⟨_, bind_eq_ok.2 ⟨n, hn, bind_eq_ok.2 ⟨initial, hd, rfl⟩⟩, .inl rfl⟩
    · exact ⟨_, rfl, .inr rfl⟩
  obtain ⟨extra, hextra, hform⟩ := hpart
  obtain ⟨t, ht⟩ := secondsOf_isOk ha hform
  exact ⟨t, bind_eq_ok.2 ⟨extra, hextra, ht⟩⟩

/-- The next delay is told, if the power of the factor is no overflow. -/
theorem Policy.Tells.nextDelay (h : p.Tells initial most factor) {n : Nat} {delay : Number}
    {a : Float} (ha : asFloat delay = .ok a) (hpower : (factor.pow (Float.ofNat n)).isInf = false) :
    ∃ next b, nextDelay p n delay = .ok next ∧ asFloat next = .ok b := by
  obtain ⟨⟨i, hi, hinitial⟩, ⟨m, hm, hmost⟩, ⟨f, hf, hfactor⟩⟩ := h
  have hgrowth : power factor (Float.ofNat n) = .ok (factor.pow (Float.ofNat n)) := by
    rw [power, hpower]
    rfl
  rw [Retry.nextDelay, hm]
  show ∃ next b, (if delay.lt m then _ else _) = Except.ok next ∧ asFloat next = .ok b
  split
  · have hmin : ∀ y, ∃ b, asFloat (m.min (.float y)) = .ok b := by
      intro y
      rw [Number.min]
      split
      · exact ⟨y, rfl⟩
      · exact ⟨most, hmost⟩
    obtain ⟨b, hb⟩ := hmin (factor.pow (Float.ofNat n) * initial)
    refine ⟨_, b, bind_eq_ok.2 ⟨f, hf, bind_eq_ok.2 ⟨factor, hfactor, ?_⟩⟩, hb⟩
    exact bind_eq_ok.2 ⟨_, hgrowth, bind_eq_ok.2 ⟨i, hi, bind_eq_ok.2 ⟨initial, hinitial, rfl⟩⟩⟩
  · exact ⟨delay, a, rfl, ha⟩

/-- **A policy whose settings are numbers** is steady, if no power of its factor is an overflow. -/
theorem Policy.Tells.paced (h : p.Tells initial most factor) {left n : Nat} {delay : Number}
    {a : Float} (ha : asFloat delay = .ok a)
    (hpower : ∀ k < n + left, (factor.pow (Float.ofNat k)).isInf = false) :
    Paced p left n delay := by
  induction left generalizing n delay a with
  | zero => trivial
  | succ left ih =>
    obtain ⟨next, b, hnext, hb⟩ := h.nextDelay ha (hpower n (by omega))
    refine ⟨next, hnext, h.pauseLength hb, ih hb fun k hk => hpower k (by omega)⟩

theorem Policy.tells_standard : standard.Tells 1 8 2 where
  initial := ⟨.int 1, rfl, by decide +kernel⟩
  most := ⟨.int 8, rfl, by decide +kernel⟩
  factor := ⟨.int 2, rfl, by decide +kernel⟩

/-- **The standard policy is steady**, since no small power of two is an overflow. Powers of doubles
are not computed here. -/
theorem steady_standard (hpower : ∀ k < 3, ((2 : Float).pow (Float.ofNat k)).isInf = false) :
    Steady (some standard) := by
  rintro p ⟨⟩
  exact ⟨.int 3, rfl, Policy.tells_standard.paced (a := 0) (by decide +kernel) hpower⟩
end Tells

/-! ## 2. Failures -/

/-- A pause fails only if its seconds cannot be told. -/
theorem secondsOf_of_unpaused {delay extra : Number} {f : Fault}
    (h : (match delay.add extra with
      | some total => do Action.perform (Wire.pause (← asFloat total))
      | none => throw (.malformed (.magnitude "int too large to convert to float")) :
        Action Wire σ Unit).Course s es (.error f) s') :
    ∃ m, secondsOf delay extra = .error m := by
  unfold secondsOf
  split at h
  · obtain ⟨m, hm, _⟩ | ⟨total, _, h⟩ := Action.course_lift_malformed_bind.1 h
    · exact ⟨m, hm⟩
    · cases (course_pause.1 h).2.1
  · exact ⟨_, rfl⟩

/-- A wait fails only if its length cannot be told. -/
theorem pauseLength_of_unwaited {delay : Number} {f : Fault}
    (h : (wait p delay : Action Wire σ Unit).Course s es (.error f) s') :
    ∃ x m, pauseLength p delay x = .error m := by
  unfold wait at h
  dsimp only at h
  split at h
  next hrandomize =>
    have hdrawn : ∀ {s : σ} {es : List (Dialogue.Event Wire)} (x : Float), (do
        let d ← asFloat (← asNumber p.initialDelay)
        let extra ← pure (Number.float (x * d))
        match delay.add extra with
        | some total => Action.perform (Wire.pause (← asFloat total))
        | none => throw (.malformed (.magnitude "int too large to convert to float")) :
          Action Wire σ Unit).Course s es (.error f) s' →
        ∃ m, pauseLength p delay x = .error m := by
      intro s es x h
      have hpart : randomPart p x = do
          return .float (x * (← asFloat (← asNumber p.initialDelay))) := if_pos hrandomize
      rw [pauseLength, hpart]
      rw [Action.course_lift_malformed_bind] at h
      obtain ⟨m, hm, _⟩ | ⟨initial, hinitial, h⟩ := h
      · exact ⟨m, by rw [hm]; rfl⟩
      rw [Action.course_lift_malformed_bind] at h
      obtain ⟨m, hm, _⟩ | ⟨d, hd, h⟩ := h
      · refine ⟨m, bind_eq_error.2 (.inl (bind_eq_error.2 (.inr ⟨initial, hinitial, ?_⟩)))⟩
        exact bind_eq_error.2 (.inl hm)
      rw [Action.course_pure_bind] at h
      obtain ⟨m, hm⟩ := secondsOf_of_unpaused h
      refine ⟨m, bind_eq_error.2 (.inr ⟨_, bind_eq_ok.2 ⟨initial, hinitial, ?_⟩, hm⟩)⟩
      exact bind_eq_ok.2 ⟨d, hd, rfl⟩
    rw [Action.course_bind] at h
    obtain ⟨g, hx, _⟩ | ⟨_, x, _, es₂, _, h, _⟩ := h
    · obtain ⟨_, _, hx, _⟩ := course_random.1 hx
      cases hx
    · exact ⟨x, hdrawn x h⟩
  next hrandomize =>
    rw [Action.course_pure_bind] at h
    obtain ⟨m, hm⟩ := secondsOf_of_unpaused h
    refine ⟨0, m, ?_⟩
    rw [pauseLength, randomPart, if_neg hrandomize]
    exact hm

/-- The standard codes are a matter of numbers, so it can always be told whether a failure has one
of them. -/
theorem isRetryable_standard_ok (f : Fault) : ∃ worth, isRetryable standardCodes f = .ok worth := by
  cases f with
  | http f => exact ⟨_, isRetryable_standard f⟩
  | _ => exact ⟨false, rfl⟩

/-- **The failure of the whole is that of an attempt**, where every wait can be told. The attempt is
made in a state that the ones before have left. -/
theorem fault_of_loop {x : Action Wire σ α} {I : σ → Prop}
    (hkeeps : ∀ s es f s', I s → x.Course s es (.error f) s' → I s') {left n : Nat}
    {delay : Number} {f : Fault} (hpaced : Paced p left n delay) (hs : I s)
    (h : (loop p standardCodes x left n delay).Course s es (.error f) s') :
    ∃ s₁ es₁ s₂, I s₁ ∧ x.Course s₁ es₁ (.error f) s₂ ∧ ∀ e ∈ es₁, e ∈ es := by
  induction left generalizing n delay s es with
  | zero => exact ⟨s, es, s', hs, h, fun _ he => he⟩
  | succ left ih =>
    obtain ⟨next, hnext, hlength, hpaced⟩ := hpaced
    rw [loop, Action.course_bind] at h
    obtain ⟨g, hx, _⟩ | ⟨es₁, r, s₁, es₂, hx, h, rfl⟩ := h
    · obtain ⟨_, _, hg⟩ := Action.course_attempt.1 hx
      cases hg
    obtain ⟨r, hx, hr⟩ := Action.course_attempt.1 hx
    cases hr
    cases r with
    | ok a => cases (Action.course_pure.1 h).2.1
    | error g =>
      dsimp only at h
      obtain ⟨worth, hworth⟩ := isRetryable_standard_ok g
      rw [hworth, Action.course_lift_malformed_bind] at h
      obtain ⟨m, hm, _⟩ | ⟨_, hok, h⟩ := h
      · cases hm
      cases hok
      cases worth with
      | false =>
        obtain ⟨rfl, hf, rfl⟩ := Action.course_throw.1 h
        cases hf
        exact ⟨s, es₁, _, hs, hx, fun e he => List.mem_append_left _ he⟩
      | true =>
        rw [if_pos rfl, hnext, Action.course_lift_malformed_bind] at h
        obtain ⟨m, hm, _⟩ | ⟨_, hok, h⟩ := h
        · cases hm
        cases hok
        rw [Action.course_bind] at h
        obtain ⟨g', hwait, _⟩ | ⟨ws, ⟨⟩, s₂, rest, hwait, h, rfl⟩ := h
        · obtain ⟨x, m, hm⟩ := pauseLength_of_unwaited hwait
          obtain ⟨seconds, hseconds⟩ := hlength x
          cases hm.symm.trans hseconds
        · obtain ⟨rfl, _⟩ := course_wait hwait
          obtain ⟨s₃, es₃, s₄, hs₃, hlast, hmem⟩ := ih hpaced (hkeeps _ _ _ _ hs hx) h
          exact ⟨s₃, es₃, s₄, hs₃, hlast, fun e he =>
            List.mem_append_right _ (List.mem_append_right _ (hmem e he))⟩

/-- **Under a policy that can tell**, the failure of the whole is that of an attempt. -/
theorem fault_of_retrying {policy : Option Policy} {x : Action Wire σ α} {I : σ → Prop}
    (hkeeps : ∀ s es f s', I s → x.Course s es (.error f) s' → I s') {f : Fault}
    (hsteady : Steady policy) (hs : I s)
    (h : (retrying policy standardCodes x).Course s es (.error f) s') :
    ∃ s₁ es₁ s₂, I s₁ ∧ x.Course s₁ es₁ (.error f) s₂ ∧ ∀ e ∈ es₁, e ∈ es := by
  cases policy with
  | none => exact ⟨s, es, s', hs, h, fun _ he => he⟩
  | some p =>
    obtain ⟨most, hmost, hpaced⟩ := hsteady p rfl
    rw [retrying, hmost] at h
    exact fault_of_loop hkeeps hpaced hs h

end StorageBroker.Retry

namespace StorageBroker.Session

variable {s s' : Session} {es : Events} {c : Call} {f : Fault}

/-! ## 3. Sessions -/

/-- **A session that has been started**: it holds a token only if it could get one, has a text for
its endpoint if it has one at all, and can tell how to try again. -/
structure Proper (s : Session) : Prop where
  sound : s.Sound
  endpoint : s.endpoint.truthy → ∃ e, s.endpoint = .text e
  steady : Retry.Steady s.retry

theorem Proper.withToken {t : Option Text} (hs : s.Proper) (ht : (s.withToken t).Sound) :
    (s.withToken t).Proper := ⟨ht, hs.endpoint, hs.steady⟩

/-- **Every session is started so.** -/
theorem proper_start {endpoint username password verifySsl timeout : Value}
    {retry : Option Retry.Policy} (hretry : Retry.Steady retry)
    (h : start endpoint username password verifySsl timeout retry = .ok s) : s.Proper := by
  have hsound := sound_start h
  rw [start, bind_eq_ok] at h
  obtain ⟨e, he, h⟩ := h
  rw [pure_eq_ok] at h
  subst h
  refine ⟨hsound, fun htruthy => ?_, hretry⟩
  unfold address at he
  split at he
  · split at he
    · cases he
      exact ⟨_, rfl⟩
    · cases he
    · cases he
  next hfalse =>
    cases he
    exact absurd htruthy hfalse

/-! ## 4. Calls -/

/-- **A call about which nothing can be wrong**: it has no headers of its own, a text for a path and
a list of statuses that it accepts. -/
structure Ordinary (c : Call) : Prop where
  headers : c.headers = .null
  path : ∃ p, c.path = .text p
  accepted : ∃ xs, c.accepted = .list xs

/-- An attribute that is told by a text is set, or is a matter of the configuration. -/
theorem configuration_of_checkAll {operation : Text} {attributes : Mapping}
    {names : List Value} (hnames : ∀ name ∈ names, ∃ t, name = .text t)
    (h : Completeness.checkAll operation attributes names = .error f) :
    ∃ m, f = .configuration m := by
  induction names with
  | nil => cases h
  | cons name names ih =>
    obtain ⟨⟨t, rfl⟩, hrest⟩ := List.forall_mem_cons.1 hnames
    rw [Completeness.checkAll, bind_eq_error] at h
    obtain h | ⟨_, _, h⟩ := h
    · rw [Completeness.checkOne] at h
      split at h
      · cases h
      · cases h
        exact ⟨_, rfl⟩
    · exact ih hrest h

/-- What passes the check has an endpoint. -/
theorem truthy_of_checkAll {names : List Value} (hmem : .text "endpoint" ∈ names)
    (h : Completeness.checkAll "login" s.loginAttributes names = .ok ()) : s.endpoint.truthy := by
  have hget : Mapping.get s.loginAttributes "endpoint" = some s.endpoint := by
    simp [loginAttributes, Mapping.ofNamed, Mapping.get_cons, Mapping.text_equal_text]
  have hset := (Completeness.checkAll_eq_ok_iff _ _ _).1 h _ hmem
  rw [Completeness.checkOne, Completeness.isSet, hget] at hset
  by_contra hfalse
  dsimp only at hset
  rw [if_neg hfalse] at hset
  cases hset

/-- A session can always tell whether it has what a login needs. -/
theorem Proper.own_of_loginAddress (hs : s.Proper) (h : s.loginAddress = .error f) : f.isOwn := by
  rw [loginAddress, bind_eq_error] at h
  obtain h | ⟨⟨⟩, hcheck, h⟩ := h
  · have hall : Completeness.checkAll "login" s.loginAttributes
        (["endpoint", "username", "password"].map .text) = .error f := h
    obtain ⟨m, rfl⟩ := configuration_of_checkAll (fun name hname => by
      obtain ⟨t, _, rfl⟩ := List.mem_map.1 hname
      exact ⟨t, rfl⟩) hall
    rfl
  · obtain ⟨e, he⟩ := hs.endpoint (truthy_of_checkAll List.mem_cons_self hcheck)
    rw [urlText_of_endpoint he] at h
    cases h

theorem own_of_isManagement (h : f.isManagement) : f.isOwn := by
  cases f <;> first | rfl | cases h

/-- **An attempt fails as the library does**, if its requests can be sent. -/
theorem own_of_exchange (hs : s.Proper) (hc : Ordinary c) (hes : ∀ e ∈ es, Possible e)
    (h : ExchangeCourse c s es (.error f) s') : f.isOwn := by
  obtain ⟨hheaders, ⟨p, hpath⟩, xs, haccepted⟩ := hc
  cases haddress : s.loginAddress with
  | ok u =>
    have hf := isManagement_of_exchange ⟨u, haddress⟩ hes hheaders hpath haccepted h
    exact own_of_isManagement hf
  | error g =>
    -- Without an address to log in at there is no token, so the login is all that is tried.
    have hnone : ¬ s.Ready := by
      rintro ⟨u, hu⟩
      cases haddress.symm.trans hu
    have hopen : ∀ {es s₁}, ¬ OpenCourse s es s₁ := fun hopen => hnone (hopen.ready hs.sound)
    generalize hresult : Except.error f = result at h
    cases h with
    | unentered _ hlogin =>
      cases hresult
      cases hlogin with
      | unsent hu => exact hs.own_of_loginAddress hu
      | refused hu _ => cases haddress.symm.trans hu
    | unaddressed h _ => exact absurd h hopen
    | undelivered h _ _ => exact absurd h hopen
    | delivered h _ _ => exact absurd h hopen

/-- **A call fails as the library does**, if its requests can be sent and the policy of the session
can tell how to try again. -/
theorem own_of_request (hs : s.Proper) (hc : Ordinary c) (hes : ∀ e ∈ es, Possible e)
    (h : (request c).Course s es (.error f) s') : f.isOwn := by
  have hexchange : ∃ s₁ es₁ s₂, s₁.Proper ∧ (exchange c).Course s₁ es₁ (.error f) s₂ ∧
      ∀ e ∈ es₁, e ∈ es := by
    unfold request at h
    split at h
    · rw [Action.course_get_bind] at h
      refine Retry.fault_of_retrying (fun s₁ es₁ g s₂ hs₁ hx => ?_) hs.steady hs h
      have hserved := served_of_exchange (exchangeCourse_of_course hx)
      obtain ⟨t, rfl⟩ := hserved.same
      exact hs₁.withToken (hserved.sound hs₁.sound)
    · exact ⟨s, es, s', hs, h, fun _ he => he⟩
  obtain ⟨s₁, es₁, s₂, hs₁, hx, hmem⟩ := hexchange
  exact own_of_exchange hs₁ hc (fun e he => hes e (hmem e he)) (exchangeCourse_of_course hx)

/-- **The calls of an operation fail as the library does.** -/
theorem own_of_turns {σ α : Type} (w : Dialogue.World Wire σ) (d : Dialogue Remote α)
    (s : Session) (st : σ) (hs : s.Proper)
    (hsend : ∀ e ∈ (Dialogue.run w (carryOut d s) st).events, Possible e) (hc : Ordinary c)
    (h : (⟨.call c, .error f⟩ : Dialogue.Event Remote) ∈
      (turns w d s st).map Dialogue.Turn.event) : f.isOwn := by
  obtain ⟨turn, hturn, hevent⟩ := List.mem_map.1 h
  obtain ⟨s₁, s₂, ⟨⟨t, rfl⟩, hsound⟩, hcourse⟩ := turn_of_call w d s st hturn hevent
  refine own_of_request (hs.withToken (hsound hs.sound)) hc (fun e he => ?_) hcourse
  rw [events_carryOut] at hsend
  exact hsend e (List.mem_flatMap.2 ⟨turn, hturn, he⟩)

end StorageBroker.Session
