import Mathlib.Data.ENat.Lattice
import StorageBroker.Proofs.Session.Delivery
import StorageBroker.Proofs.Session.Steadiness
/-!
# How often an operation is tried

An operation of an object is made until it ends in a way that is not worth another attempt, or until
no retry is left. How each attempt ends is not for the loop to say: the function that is tried has
an outcome for every call, one after the other, and may do whatever it likes on the way. Between two
calls there is one wait; before the first call and behind the last one there is none.

* `Follows` -- a function whose calls end in given outcomes, one after the other;
* `Final`, `firstFinal` -- the outcomes that end the loop, and the first one of them;
* `WaitedFor` -- a wait of the length that the policy says;
* `Rounds` -- calls with one wait between each two of them;
* `loop_step`, `rounds_of_loop` -- one step of the loop, and what it comes to with a number of
  retries left;
* `Configures` -- which policy it is that an operation finds;
* `invoke_rounds` -- an operation of an object, for every sequence of outcomes.
-/

namespace StorageBroker.Retry

variable {σ α : Type} {s s' : σ} {es : List (Dialogue.Event Wire)} {p : Policy} {codes : Value}

/-! ## 1. Functions with outcomes -/

/-- **A function whose calls end in given outcomes**, one after the other; the state tells how often
it has been called. -/
def Follows (x : Action Wire σ α) (called : σ → ℕ) (outcomes : ℕ → Except Fault α) : Prop :=
  ∀ s es r s', x.Course s es r s' → r = outcomes (called s) ∧ called s' = called s + 1

/-- A function that does nothing but count its calls and end in the next outcome. -/
def playing (outcomes : ℕ → Except Fault α) : Action Wire ℕ α := do
  let n ← get
  set (n + 1)
  liftM (outcomes n)

/-- There is such a function for every sequence of outcomes. -/
theorem follows_playing (outcomes : ℕ → Except Fault α) :
    Follows (playing outcomes) id outcomes := by
  intro n es r n' h
  have hset := Action.course_get_bind.1 h
  rcases Action.course_bind.1 hset with ⟨f, hf, _⟩ | ⟨es₁, _, n₁, es₂, hn₁, hrest, _⟩
  · have hok := (Action.course_set.1 hf).2.1
    cases hok
  · have hn : n₁ = n + 1 := (Action.course_set.1 hn₁).2.2
    have hend := Action.course_lift.1 hrest
    exact ⟨hend.2.1, by simp [hend.2.2, hn]⟩

/-! ## 2. The outcomes that end the loop -/

/-- **An outcome that is not worth another attempt**: anything but an HTTP failure with one of the
codes. -/
def Final (codes : Value) (r : Except Fault α) : Prop :=
  ¬ ∃ f, r = .error (.http f) ∧ codes.holds f.code = .ok true

/-- It can be told whether the code of a failure is one of the codes. -/
def Told (codes : Value) (r : Except Fault α) : Prop :=
  ∀ f, r = .error (.http f) → ∃ b, codes.holds f.code = .ok b

/-- A collection of codes with its items. -/
inductive Collection : Value → List Value → Prop where
  | list (cs : List Value) : Collection (.list cs) cs
  | tuple (cs : List Value) : Collection (.tuple cs) cs
  | set (cs : List Value) : Collection (.set cs) cs

/-- **In a collection it can be told whether a code is there**: one of the items is equal to it. -/
theorem holds_of_collection {cs : List Value} {v : Value} (h : Collection codes cs)
    (hv : v.isKey) : codes.holds v = .ok (cs.any v.equal) := by
  cases h with
  | list => rfl
  | tuple => rfl
  | set => simp [Value.holds, hv]

theorem told_of_collection {cs : List Value} {r : Except Fault α} (h : Collection codes cs)
    (hr : ∀ f, r = .error (.http f) → f.code.isKey) : Told codes r :=
  fun f hf => ⟨_, holds_of_collection h (hr f hf)⟩

variable {r : Except Fault α}

/-- Every other failure is final. -/
theorem isRetryable_of_final {f : Fault} (htold : Told codes r) (hr : r = .error f)
    (hfinal : Final codes r) : isRetryable codes f = .ok false := by
  cases f with
  | http g =>
    have htrue : codes.holds g.code ≠ .ok true := fun h => hfinal ⟨g, hr, h⟩
    obtain ⟨b, hb⟩ := htold g hr
    cases b with
    | false => exact hb
    | true => exact absurd hb htrue
  | _ => rfl

/-- An outcome that is worth another attempt is a failure. -/
theorem isRetryable_of_not_final (h : ¬ Final codes r) :
    ∃ f, r = .error f ∧ isRetryable codes f = .ok true := by
  unfold Final at h
  simp only [not_not] at h
  obtain ⟨f, hr, hf⟩ := h
  exact ⟨.http f, hr, hf⟩

/-- **Which outcome is the first final one**, counted from one; infinite if none is final. -/
noncomputable def firstFinal (codes : Value) (outcomes : ℕ → Except Fault α) : ℕ∞ :=
  ⨅ (i : ℕ) (_ : Final codes (outcomes i)), ((i + 1 : ℕ) : ℕ∞)

variable {outcomes : ℕ → Except Fault α}

theorem one_le_firstFinal : 1 ≤ firstFinal codes outcomes := by
  refine le_iInf₂ fun i _ => ?_
  have hi : (1 : ℕ) ≤ i + 1 := by omega
  exact_mod_cast hi

theorem firstFinal_of_final (h : Final codes (outcomes 0)) : firstFinal codes outcomes = 1 := by
  have hle : firstFinal codes outcomes ≤ ((0 + 1 : ℕ) : ℕ∞) := iInf₂_le 0 h
  exact le_antisymm (by simpa using hle) one_le_firstFinal

/-- Behind an outcome that is not final the first final one is one further than in the rest. -/
theorem firstFinal_of_not_final (h : ¬ Final codes (outcomes 0)) :
    firstFinal codes outcomes = firstFinal codes (fun i => outcomes (i + 1)) + 1 := by
  have hrest : firstFinal codes (fun i => outcomes (i + 1)) + 1 =
      ⨅ (i : ℕ) (_ : Final codes (outcomes (i + 1))), ((i + 1 + 1 : ℕ) : ℕ∞) := by
    simp only [firstFinal, ENat.iInf_add, Nat.cast_add, Nat.cast_one]
  rw [hrest]
  apply le_antisymm
  · exact le_iInf₂ fun i hi => iInf₂_le (i + 1) hi
  · refine le_iInf₂ fun i hi => ?_
    cases i with
    | zero => exact absurd hi h
    | succ i => exact iInf₂_le i hi

/-- **How many calls there are**: up to the first final outcome, but at most one more than there are
retries. -/
def IsCount (codes : Value) (outcomes : ℕ → Except Fault α) (retries c : ℕ) : Prop :=
  (c : ℕ∞) = min (firstFinal codes outcomes) (retries + 1)

theorem exists_isCount (codes : Value) (outcomes : ℕ → Except Fault α) (retries : ℕ) :
    ∃ c, IsCount codes outcomes retries c := by
  have hbound : min (firstFinal codes outcomes) (retries + 1) ≠ ⊤ := by
    have hle : min (firstFinal codes outcomes) (retries + 1) ≤ ((retries + 1 : ℕ) : ℕ∞) := by
      simp
    exact ne_top_of_le_ne_top (ENat.natCast_ne_top _) hle
  exact ENat.ne_top_iff_exists.1 hbound

theorem isCount_zero {c : ℕ} (h : IsCount codes outcomes 0 c) : c = 1 := by
  have hone : min (firstFinal codes outcomes) ((0 : ℕ) + 1) = 1 := by
    simp [one_le_firstFinal]
  rw [IsCount, hone] at h
  exact_mod_cast h

theorem isCount_of_final {c retries : ℕ} (hfinal : Final codes (outcomes 0))
    (h : IsCount codes outcomes retries c) : c = 1 := by
  have hone : min (firstFinal codes outcomes) (retries + 1) = 1 := by
    rw [firstFinal_of_final hfinal]
    simp
  rw [IsCount, hone] at h
  exact_mod_cast h

/-- Behind an outcome that is not final one more call is made than for the rest of the outcomes. -/
theorem isCount_succ {c retries : ℕ} (hfinal : ¬ Final codes (outcomes 0))
    (h : IsCount codes outcomes (retries + 1) c) :
    ∃ c', c = c' + 1 ∧ IsCount codes (fun i => outcomes (i + 1)) retries c' := by
  obtain ⟨c', hc'⟩ := exists_isCount codes (fun i => outcomes (i + 1)) retries
  have hsum : (c : ℕ∞) = ((c' + 1 : ℕ) : ℕ∞) := calc
    (c : ℕ∞) = min (firstFinal codes outcomes) ((retries + 1 : ℕ) + 1) := h
    _ = min (firstFinal codes (fun i => outcomes (i + 1)) + 1) (retries + 1 + 1) := by
      rw [firstFinal_of_not_final hfinal, Nat.cast_add, Nat.cast_one]
    _ = min (firstFinal codes (fun i => outcomes (i + 1))) (retries + 1) + 1 :=
      min_add_add_right _ _ _
    _ = ((c' + 1 : ℕ) : ℕ∞) := by rw [← hc', Nat.cast_add, Nat.cast_one]
  exact ⟨c', by exact_mod_cast hsum, hc'⟩

theorem one_le_of_isCount {c retries : ℕ} (h : IsCount codes outcomes retries c) : 1 ≤ c := by
  have hle : (1 : ℕ∞) ≤ c := by
    rw [h]
    simp [one_le_firstFinal]
  exact_mod_cast hle

/-! ## 3. Waits -/

/-- **The events of a wait of the length that the policy says**: a random number, if there is a
random part, and one pause. -/
def WaitedFor (p : Policy) (delay : Number) (es : List (Dialogue.Event Wire)) : Prop :=
  ∃ x seconds, pauseLength p delay x = .ok seconds ∧
    es = (if p.randomize.truthy then [⟨.random, x⟩] else []) ++ [⟨.pause seconds, ()⟩]

/-- What is behind the random part of a wait pauses for the sum. -/
theorem pause_of_course {delay extra : Number}
    (h : (match delay.add extra with
      | some total => do Action.perform (Wire.pause (← asFloat total))
      | none => throw (.malformed (.magnitude "int too large to convert to float")) :
        Action Wire σ Unit).Course s es (.ok ()) s') :
    s' = s ∧ ∃ seconds, secondsOf delay extra = .ok seconds ∧ es = [⟨.pause seconds, ()⟩] := by
  split at h
  next total htotal =>
    rcases Action.course_lift_malformed_bind.1 h with ⟨m, _, _, hm, _⟩ | ⟨seconds, hseconds, hrest⟩
    · cases hm
    · have hpause := course_pause.1 hrest
      have hsum : secondsOf delay extra = .ok seconds := by
        rw [secondsOf, htotal]
        exact hseconds
      exact ⟨hpause.2.2, seconds, hsum, hpause.1⟩
  next =>
    have herror := (Action.course_throw.1 h).2.1
    cases herror

/-- **A wait that comes to its end** is of the length that the policy says. -/
theorem waitedFor_of_course {delay : Number} (h : (wait p delay).Course s es (.ok ()) s') :
    s' = s ∧ WaitedFor p delay es := by
  unfold wait at h
  dsimp only at h
  split at h
  next hrandomize =>
    have hpart : ∀ x, randomPart p x = do
        return .float (x * (← asFloat (← asNumber p.initialDelay))) := fun x => if_pos hrandomize
    rcases Action.course_bind.1 h with ⟨f, hx, _⟩ | ⟨_, x, s₁, es₂, hx, hdrawn, rfl⟩
    · obtain ⟨_, _, hok, _⟩ := course_random.1 hx
      cases hok
    obtain ⟨y, rfl, hy, rfl⟩ := course_random.1 hx
    cases hy
    rcases Action.course_lift_malformed_bind.1 hdrawn with
      ⟨m, _, _, hm, _⟩ | ⟨initial, hinitial, htold⟩
    · cases hm
    rcases Action.course_lift_malformed_bind.1 htold with ⟨m, _, _, hm, _⟩ | ⟨d, hd, hrest⟩
    · cases hm
    obtain ⟨rfl, seconds, hseconds, rfl⟩ := pause_of_course (Action.course_pure_bind.1 hrest)
    have hextra : randomPart p x = .ok (.float (x * d)) := by
      rw [hpart, hinitial]
      show (asFloat initial >>= fun d => pure (Number.float (x * d))) = _
      rw [hd]
      rfl
    have hlength : pauseLength p delay x = .ok seconds := by
      rw [pauseLength, hextra]
      exact hseconds
    exact ⟨rfl, x, seconds, hlength, by simp [hrandomize]⟩
  next hrandomize =>
    obtain ⟨rfl, seconds, hseconds, rfl⟩ := pause_of_course (Action.course_pure_bind.1 h)
    have hlength : pauseLength p delay 0 = .ok seconds := by
      rw [pauseLength, randomPart, if_neg hrandomize]
      exact hseconds
    exact ⟨rfl, 0, seconds, hlength, by simp [hrandomize]⟩

/-! ## 4. Rounds -/

/-- **Calls with one wait between each two of them**, and none before the first or behind the last.
The number of retries that there have been and the last delay say how long the next wait is. -/
inductive Rounds (policy : Option Policy) (x : Action Wire σ α) :
    (n : ℕ) → (delay : Number) → (calls : ℕ) → σ → List (Dialogue.Event Wire) →
      Except Fault α → σ → Prop where
  | last {n : ℕ} {delay : Number} {s s' : σ} {es : List (Dialogue.Event Wire)}
      {r : Except Fault α} (h : x.Course s es r s') : Rounds policy x n delay 1 s es r s'
  | again {n calls : ℕ} {delay next : Number} {s s₁ s' : σ}
      {es ws rest : List (Dialogue.Event Wire)} {p : Policy} {f : Fault} {r : Except Fault α}
      (h : x.Course s es (.error f) s₁) (hp : policy = some p)
      (hnext : nextDelay p n delay = .ok next) (hw : WaitedFor p next ws)
      (hrest : Rounds policy x (n + 1) next calls s₁ rest r s') :
      Rounds policy x n delay (calls + 1) s (es ++ ws ++ rest) r s'

section Loop

variable {x : Action Wire σ α} {called : σ → ℕ}

/-- Behind a failure that is worth another attempt there is a wait, and then the rest of the
loop. -/
theorem waited_of_course {left n : ℕ} {delay next : Number} {r : Except Fault α}
    (hnext : nextDelay p n delay = .ok next)
    (hlength : ∀ y, ∃ seconds, pauseLength p next y = .ok seconds)
    (h : (do
      let delay ← nextDelay p n delay
      wait p delay
      loop p codes x left (n + 1) delay : Action Wire σ α).Course s es r s') :
    ∃ ws rest, es = ws ++ rest ∧ WaitedFor p next ws ∧
      (loop p codes x left (n + 1) next).Course s rest r s' := by
  rw [hnext] at h
  rcases Action.course_lift_malformed_bind.1 h with ⟨m, hm, _⟩ | ⟨d, hd, hbehind⟩
  · cases hm
  cases hd
  rcases Action.course_bind.1 hbehind with ⟨f, hwait, _⟩ | ⟨ws, _, s₁, rest, hwait, hrest, hes⟩
  · obtain ⟨y, m, hm⟩ := pauseLength_of_unwaited hwait
    obtain ⟨seconds, hseconds⟩ := hlength y
    cases hm.symm.trans hseconds
  · obtain ⟨rfl, hwaited⟩ := waitedFor_of_course hwait
    exact ⟨ws, rest, hes, hwaited, hrest⟩

/-- One call alone has the next outcome. -/
theorem rounds_of_call (hfollows : Follows x called outcomes) {policy : Option Policy} {n : ℕ}
    {delay : Number} {r : Except Fault α} (h : x.Course s es r s') :
    called s' = called s + 1 ∧ r = outcomes (called s + (1 - 1)) ∧
      Rounds policy x n delay 1 s es r s' := by
  have hend := hfollows _ _ _ _ h
  exact ⟨hend.2, hend.1, .last h⟩

/-- **One step of the loop**: a final outcome is given back as it is, and nothing is done behind it;
behind any other outcome there is a wait, and then the rest of the loop. -/
theorem loop_step {left n : ℕ} {delay : Number} {r : Except Fault α}
    (htold : ∀ {es r s'}, x.Course s es r s' → Told codes r)
    (h : (loop p codes x (left + 1) n delay).Course s es r s') :
    (Final codes r ∧ x.Course s es r s') ∨
      ∃ es₁ f s₁ rest, x.Course s es₁ (.error f) s₁ ∧ ¬ Final codes (.error f : Except Fault α) ∧
        es = es₁ ++ rest ∧ (do
          let delay ← nextDelay p n delay
          wait p delay
          loop p codes x left (n + 1) delay : Action Wire σ α).Course s₁ rest r s' := by
  rw [loop, Action.course_bind] at h
  rcases h with ⟨f, hx, _⟩ | ⟨es₁, r₁, s₁, es₂, hx, hbehind, rfl⟩
  · obtain ⟨_, _, hf⟩ := Action.course_attempt.1 hx
    cases hf
  obtain ⟨r₁, hx, hr⟩ := Action.course_attempt.1 hx
  cases hr
  by_cases hfinal : Final codes r₁
  · have hend : es₂ = [] ∧ r = r₁ ∧ s' = s₁ := by
      cases r₁ with
      | ok a => exact Action.course_pure.1 hbehind
      | error f =>
        have hworth := isRetryable_of_final (htold hx) rfl hfinal
        dsimp only at hbehind
        rw [hworth] at hbehind
        rcases Action.course_lift_malformed_bind.1 hbehind with ⟨m, hm, _⟩ | ⟨b, hb, hthrow⟩
        · cases hm
        · cases hb
          exact Action.course_throw.1 hthrow
    obtain ⟨rfl, rfl, rfl⟩ := hend
    rw [List.append_nil]
    exact .inl ⟨hfinal, hx⟩
  · obtain ⟨f, rfl, hworth⟩ := isRetryable_of_not_final hfinal
    dsimp only at hbehind
    rw [hworth] at hbehind
    rcases Action.course_lift_malformed_bind.1 hbehind with ⟨m, hm, _⟩ | ⟨b, hb, hagain⟩
    · cases hm
    · cases hb
      exact .inr ⟨es₁, f, s₁, es₂, hx, hfinal, rfl, hagain⟩

/-- **The loop makes its calls in rounds**, as many as there are up to the first final outcome or
until no retry is left. The induction is on the retries that are left; what is left of the outcomes
begins with that of the next call. -/
theorem rounds_of_loop (hfollows : Follows x called outcomes) (htold : ∀ i, Told codes (outcomes i))
    {left n c : ℕ} {delay : Number} {r : Except Fault α}
    (hc : IsCount codes (fun i => outcomes (called s + i)) left c)
    (hpaced : Paced p (c - 1) n delay) (h : (loop p codes x left n delay).Course s es r s') :
    called s' = called s + c ∧ r = outcomes (called s + (c - 1)) ∧
      Rounds (some p) x n delay c s es r s' := by
  induction left generalizing n delay s es c with
  | zero =>
    have hone := isCount_zero hc
    subst hone
    exact rounds_of_call hfollows h
  | succ left ih =>
    have htold' : ∀ {es r s'}, x.Course s es r s' → Told codes r := by
      intro es r s' hx
      rw [(hfollows _ _ _ _ hx).1]
      exact htold _
    rcases loop_step htold' h with ⟨hfinal, hx⟩ | ⟨es₁, f, s₁, es₂, hx, hfinal, rfl, hagain⟩
    · have hfirst : Final codes (outcomes (called s + 0)) := by
        rwa [Nat.add_zero, ← (hfollows _ _ _ _ hx).1]
      have hone := isCount_of_final hfirst hc
      subst hone
      exact rounds_of_call hfollows hx
    · obtain ⟨hr, hs₁⟩ := hfollows _ _ _ _ hx
      have hfirst : ¬ Final codes (outcomes (called s + 0)) := by rwa [Nat.add_zero, ← hr]
      obtain ⟨c', rfl, hc'⟩ := isCount_succ hfirst hc
      have hpos := one_le_of_isCount hc'
      have hpred : c' + 1 - 1 = (c' - 1) + 1 := by omega
      rw [hpred] at hpaced
      obtain ⟨next, hnext, hlength, hpaced⟩ := hpaced
      obtain ⟨ws, rest, rfl, hwaited, hrest⟩ := waited_of_course hnext hlength hagain
      have hshift : (fun i => outcomes (called s + (i + 1))) =
          fun i => outcomes (called s₁ + i) := by
        funext i
        rw [hs₁, Nat.add_right_comm, Nat.add_assoc]
      rw [hshift] at hc'
      obtain ⟨hcalled, hresult, hrounds⟩ := ih hc' hpaced hrest
      have hplace : called s₁ + (c' - 1) = called s + (c' + 1 - 1) := by omega
      rw [hplace] at hresult
      refine ⟨by omega, hresult, ?_⟩
      rw [← List.append_assoc]
      exact .again hx rfl hnext hwaited hrounds

end Loop

/-! ## 5. Operations of objects -/

/-- **Which policy an operation finds**: the one that comes with it, or else the one that the object
keeps under the name, or else the fallback. To have no policy is a policy, too, and so is to keep
none under the name. -/
inductive Configures (attributes : List (Text × Option Policy)) (fallback : Option Policy) :
    Source → Option Policy → Prop where
  | fixed (policy : Option Policy) : Configures attributes fallback (.fixed policy) policy
  | kept {name : Text} {policy : Option Policy} (h : attributes.lookup name = some policy) :
      Configures attributes fallback (.attribute name) policy
  | missing {name : Text} (h : attributes.lookup name = none) :
      Configures attributes fallback (.attribute name) fallback

theorem Configures.policy_eq {attributes : List (Text × Option Policy)}
    {fallback policy : Option Policy} {source : Source}
    (h : Configures attributes fallback source policy) :
    source.policy attributes fallback = policy := by
  cases h with
  | fixed => rfl
  | kept h => simp [Source.policy, h]
  | missing h => simp [Source.policy, h]

/-- **How many retries a policy allows**: an integer, and zero without a policy. -/
def Allows (policy : Option Policy) (most : ℤ) : Prop :=
  (policy = none ∧ most = 0) ∨
    ∃ p, policy = some p ∧ p.maxRetries.number? = some (.int most)

/-- **An operation is tried until its first final outcome, or until no retry is left.** For every
policy that it can find, whatever integer the number of retries is, for every collection of codes
and every sequence of outcomes, from every state and in every world: there are as many calls as
there are outcomes up to the first final one, but at most one more than there are retries, and one
at least. What comes out is the outcome of the last call. Between two calls there is one wait, and
none before the first call or behind the last one; the waits are those of a loop that has not
retried yet, however often the operation has been made before. This holds as far as the waits can
be told. -/
theorem invoke_rounds {attributes : List (Text × Option Policy)}
    {fallback policy : Option Policy} {source : Source}
    (hpolicy : Configures attributes fallback source policy) {most : ℤ}
    (hmost : Allows policy most) {x : Action Wire σ α} {called : σ → ℕ}
    {outcomes : ℕ → Except Fault α} (hfollows : Follows x called outcomes)
    (htold : ∀ i, Told codes (outcomes i)) (s : σ) {τ : Type} (w : Dialogue.World Wire τ) (t : τ) :
    let o := Dialogue.run w ((invoke attributes fallback source codes x).run s) t
    let k := firstFinal codes fun i => outcomes (called s + i)
    ∃ c : ℕ, (c : ℕ∞) = min k (most.toNat + 1) ∧ 1 ≤ c ∧
      ((∀ p, policy = some p → Paced p (c - 1) 0 (.int 0)) →
        called o.result.2 = called s + c ∧ o.result.1 = outcomes (called s + (c - 1)) ∧
          Rounds policy x 0 (.int 0) c s o.events o.result.1 o.result.2) := by
  intro o k
  obtain ⟨c, hc⟩ := exists_isCount codes (fun i => outcomes (called s + i)) most.toNat
  refine ⟨c, hc, one_le_of_isCount hc, fun hpaced => ?_⟩
  have hcourse : (retrying policy codes x).Course s o.events o.result.1 o.result.2 := by
    rw [← hpolicy.policy_eq]
    exact Action.course_iff.1 (Dialogue.course_run w _ t)
  rcases hmost with ⟨rfl, rfl⟩ | ⟨p, rfl, hp⟩
  · have hone := isCount_zero hc
    subst hone
    exact rounds_of_call hfollows hcourse
  · have hnumber : asNumber p.maxRetries = .ok (.int most) := by
      rw [asNumber, hp]
    rw [retrying, hnumber] at hcourse
    exact rounds_of_loop hfollows htold hc (hpaced p rfl) hcourse

/-- A policy of at most three retries that does not wait for any time. -/
def eager : Policy := { maxRetries := .int 3, maxBackoff := .int 0, randomize := .bool false }

theorem paced_eager (left n : ℕ) : Paced eager left n (.int 0) := by
  induction left generalizing n with
  | zero => trivial
  | succ left ih => exact ⟨.int 0, rfl, fun _ => ⟨_, rfl⟩, ih (n + 1)⟩

/-- A function that is refused twice before it gives something back. -/
def refusedTwice (n : ℕ) : Except Fault ℕ :=
  if n < 2 then .error (.http (HttpFault.ofCode 503 .null)) else .ok n

theorem told_refusedTwice (n : ℕ) : Told standardCodes (refusedTwice n) := by
  refine told_of_collection (.tuple _) fun f hf => ?_
  unfold refusedTwice at hf
  split at hf
  · cases hf
    rfl
  · cases hf

/-- An object that keeps a policy under the usual name: two failures, and a result by the third
call. -/
theorem invoke_rounds_third :
    let attributes : List (Text × Option Policy) := [("_retry_params", some eager)]
    let o := Dialogue.run Rehearsal.world
      ((invoke attributes none .usual standardCodes (playing refusedTwice)).run 0)
      Session.refusesOnce
    Configures attributes none .usual (some eager) ∧ Allows (some eager) 3 ∧
      Follows (playing refusedTwice) id refusedTwice ∧
      (∀ i, Told standardCodes (refusedTwice i)) ∧ o.result.1 = .ok 2 ∧ o.result.2 = 3 ∧
      Rounds (some eager) (playing refusedTwice) 0 (.int 0) 3 0 o.events (.ok 2) 3 := by
  intro attributes o
  have hrun : o.result.1 = .ok 2 ∧ o.result.2 = 3 := by decide +kernel
  have hconfigures : Configures attributes none .usual (some eager) := .kept rfl
  have hallows : Allows (some eager) 3 := .inr ⟨eager, rfl, rfl⟩
  have hfollows := follows_playing refusedTwice
  obtain ⟨c, _, _, hrounds⟩ := invoke_rounds hconfigures hallows hfollows told_refusedTwice 0
    Rehearsal.world Session.refusesOnce
  obtain ⟨hcalled, _, hrounds⟩ := hrounds fun p hp => by
    cases hp
    exact paced_eager (c - 1) 0
  have hcount : o.result.2 = 0 + c := hcalled
  obtain rfl : c = 3 := by omega
  replace hrounds : Rounds (some eager) (playing refusedTwice) 0 (.int 0) 3 0 o.events
    o.result.1 o.result.2 := hrounds
  rw [hrun.1, hrun.2] at hrounds
  exact ⟨hconfigures, hallows, hfollows, told_refusedTwice, hrun.1, hrun.2, hrounds⟩

end StorageBroker.Retry
