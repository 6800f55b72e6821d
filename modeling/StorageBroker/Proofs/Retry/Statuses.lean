import StorageBroker.Proofs.Retry.Invocation
/-!
# Which statuses are worth another attempt

A request that is answered with an unexpected status fails with that status, which may be given as a
number or in any form that reads as one. Three readings of it have to agree: the kind of the
failure, the code that it carries, and the codes that are worth another attempt. They do for every
status, not only for those that have a kind of their own.

* `HttpKind.table` -- the statuses with a kind of their own;
* `HttpFault.Reports` -- a failure whose kind and code agree with a status;
* `HttpFault.ofStatus_of_integer`, `HttpFault.ofStatus_of_unread` -- the failure of what reads as an
  integer, and of a text that does not;
* `Retry.again_iff` -- behind which of its calls an operation is called again;
* `Retry.status_decides` -- what is called again, among all failures made from statuses.
-/

namespace StorageBroker

/-! ## 1. Statuses with a kind of their own -/

namespace HttpKind

variable {code : Int} {family : HttpFamily}

/-- **The statuses that have a kind of their own**, each with what the kind says about sending the
request again. -/
def table : List (Int × HttpFamily) :=
  coded.filterMap fun k => k.code?.bind fun code => k.family?.map fun family => (code, family)

theorem mem_table_iff :
    (code, family) ∈ table ↔ ∃ k, ofCode? code = some k ∧ k.family? = some family := by
  simp only [table, List.mem_filterMap, Option.bind_eq_some_iff, Option.map_eq_some_iff,
    Prod.mk.injEq]
  constructor
  · rintro ⟨k, _, _, hcode, _, hfamily, rfl, rfl⟩
    exact ⟨k, ofCode?_of_code? hcode, hfamily⟩
  · rintro ⟨k, hk, hfamily⟩
    exact ⟨k, List.mem_of_find?_eq_some hk, code, code?_of_ofCode? hk, family, hfamily, rfl, rfl⟩

example : table =
    [(408, .transient), (500, .transient), (502, .transient), (503, .transient), (504, .transient),
      (404, .fatal), (400, .fatal), (403, .fatal), (401, .fatal), (409, .fatal),
      (429, .transient)] := by decide

/-- The codes worth another attempt are those of the table that say so. -/
theorem mem_retryCodes_iff_table : code ∈ retryCodes ↔ (code, .transient) ∈ table :=
  mem_retryCodes_iff.trans mem_table_iff.symm

/-- Every kind with a status says something about sending the request again. -/
theorem family?_of_ofCode? {k : HttpKind} (h : ofCode? code = some k) :
    k.family? = some .transient ∨ k.family? = some .fatal := by
  have hall : ∀ k ∈ coded, k.family? = some .transient ∨ k.family? = some .fatal := by decide
  exact hall k (List.mem_of_find?_eq_some h)

end HttpKind

/-! ## 2. The failure of a status -/

namespace HttpFault

open HttpKind (retryCodes table)

variable {s : Int} {status message : Value} {f : HttpFault} {t : Text}

/-- **A failure that reports a status**: it carries the status and the message; it says of itself
that it may vanish exactly if the status is worth another attempt, and that it will not exactly if
the status stands so in the table; and otherwise it is of no special kind. -/
structure Reports (f : HttpFault) (s : Int) (message : Value) : Prop where
  message : f.message = message
  code : f.code = .int s ∨ (s = 1 ∧ f.code = .bool true)
  transient_iff : f.kind.family? = some .transient ↔ s ∈ retryCodes
  fatal_iff : f.kind.family? = some .fatal ↔ (s, .fatal) ∈ table
  plain : s ∉ retryCodes → (s, .fatal) ∉ table → f.kind = .plain

theorem code_ofCode (hs : s ≠ 0) (message : Value) : (ofCode s message).code = .int s := by
  unfold ofCode
  cases hkind : HttpKind.ofCode? s with
  | some k =>
    have hcode := HttpKind.code?_of_ofCode? hkind
    simp [make, Value.truthy, hcode]
  | none => simp [make, Value.truthy, hs]

/-- **The failure of a number other than zero reports it.** -/
theorem reports_ofCode (hs : s ≠ 0) (message : Value) : (ofCode s message).Reports s message := by
  have hcode := code_ofCode hs message
  unfold ofCode at hcode ⊢
  cases hkind : HttpKind.ofCode? s with
  | some k =>
    rw [hkind] at hcode
    have hfamily : ∀ family, k.family? = some family ↔ (s, family) ∈ table := by
      intro family
      simp [HttpKind.mem_table_iff, hkind]
    refine ⟨rfl, .inl hcode, ?_, hfamily .fatal, fun hretry hfatal => ?_⟩
    · exact (hfamily .transient).trans HttpKind.mem_retryCodes_iff_table.symm
    · rcases HttpKind.family?_of_ofCode? hkind with htransient | hfatal'
      · exact absurd (HttpKind.mem_retryCodes_iff_table.2 ((hfamily _).1 htransient)) hretry
      · exact absurd ((hfamily _).1 hfatal') hfatal
  | none =>
    rw [hkind] at hcode
    have habsent : ∀ family, (s, family) ∉ table := by
      intro family
      simp [HttpKind.mem_table_iff, hkind]
    refine ⟨rfl, .inl hcode, ⟨nofun, fun h => ?_⟩, ⟨nofun, fun h => ?_⟩, fun _ _ => rfl⟩
    · exact absurd (HttpKind.mem_retryCodes_iff_table.1 h) (habsent _)
    · exact absurd h (habsent _)

/-- A truth value counts as the number that it is, but is not looked up. -/
theorem reports_true (message : Value) : (make .plain message (.bool true)).Reports 1 message where
  message := rfl
  code := .inr ⟨rfl, rfl⟩
  transient_iff := by
    show HttpKind.plain.family? = some .transient ↔ _
    decide
  fatal_iff := by
    show HttpKind.plain.family? = some .fatal ↔ _
    decide
  plain _ _ := rfl

/-- **What reads as an integer other than zero fails with that integer.** -/
theorem ofStatus_of_integer (h : status.toInteger = .ok s) (hs : s ≠ 0) (message : Value) :
    ∃ f, ofStatus status message = .ok f ∧ f.Reports s message ∧
      ((∀ b, status ≠ .bool b) → f.code = .int s) := by
  by_cases hbool : ∃ b, status = .bool b
  · obtain ⟨b, rfl⟩ := hbool
    cases b with
    | true =>
      cases h
      exact ⟨_, rfl, reports_true message, fun hno => absurd rfl (hno true)⟩
    | false =>
      cases h
      exact absurd rfl hs
  · refine ⟨ofCode s message, ?_, reports_ofCode hs message, fun _ => code_ofCode hs message⟩
    cases status with
    | int i =>
      cases h
      rfl
    | bool b => exact absurd ⟨b, rfl⟩ hbool
    | _ => simp [ofStatus, h]

/-- **A text that does not read as an integer** is kept as it is, in a failure of no special kind. -/
theorem ofStatus_of_unread (ht : t ≠ "") (h : ∀ s, (Value.text t).toInteger ≠ .ok s)
    (message : Value) : ofStatus (.text t) message = .ok ⟨.plain, message, .text t⟩ := by
  have herror : (Value.text t).toInteger = .error (Value.noInteger (.text t)) := by
    rw [Value.toInteger]
    cases hread : IntegerText.ofText? t with
    | none => rfl
    | some i => exact absurd (by rw [Value.toInteger, hread]) (h i)
  simp [ofStatus, herror, Value.noInteger, make, Value.truthy, ht]

end HttpFault

/-! ## 3. Further attempts -/

namespace Retry

variable {σ α : Type} {f : HttpFault} {s : Int} {message codes : Value}

theorem mem_standardCodes_iff : (HttpKind.retryCodes.map .int).any (Value.int s).equal ↔
    s ∈ HttpKind.retryCodes := by
  simp [List.any_map, Value.equal_int_int]

theorem told_standard (r : Except Fault α) : Told standardCodes r := fun _ _ => ⟨_, rfl⟩

/-- **A failure that reports a status** is worth another attempt exactly if it may vanish. -/
theorem final_of_reports (h : f.Reports s message) :
    Final standardCodes (.error (.http f) : Except Fault α) ↔
      f.kind.family? ≠ some .transient := by
  have hholds : standardCodes.holds f.code = .ok true ↔ s ∈ HttpKind.retryCodes := by
    show Except.ok ((HttpKind.retryCodes.map .int).any f.code.equal) = Except.ok true ↔ _
    rw [Except.ok.injEq]
    rcases h.code with hcode | ⟨rfl, hcode⟩
    · rw [hcode, mem_standardCodes_iff]
    · rw [hcode]
      decide +kernel
  rw [Final, Ne, h.transient_iff, ← hholds]
  simp

/-- A failure whose code is a text is never worth another attempt. -/
theorem final_of_text {t : Text} (hcode : f.code = .text t) :
    Final standardCodes (.error (.http f) : Except Fault α) := by
  have hholds : standardCodes.holds f.code = .ok false := by
    show Except.ok ((HttpKind.retryCodes.map .int).any f.code.equal) = Except.ok false
    rw [hcode]
    simp [List.any_map, Value.equal]
  rintro ⟨g, hg, htrue⟩
  cases hg
  cases hholds.symm.trans htrue

/-- **Behind which of its calls an operation is called again**: behind those whose outcome is not
final, as long as retries remain. The induction is on the call; what is left of the outcomes begins
with that of the next one. -/
theorem again_iff {outcomes : ℕ → Except Fault α} {retries c i : ℕ}
    (hc : IsCount codes outcomes retries c) (hi : i < c) :
    i + 1 < c ↔ ¬ Final codes (outcomes i) ∧ i < retries := by
  induction i generalizing outcomes retries c with
  | zero =>
    by_cases hfinal : Final codes (outcomes 0)
    · have hone := isCount_of_final hfinal hc
      exact ⟨fun h => by omega, fun h => absurd hfinal h.1⟩
    · cases retries with
      | zero =>
        have hone := isCount_zero hc
        exact ⟨fun h => by omega, fun h => by omega⟩
      | succ retries =>
        obtain ⟨c', rfl, hc'⟩ := isCount_succ hfinal hc
        have hpos := one_le_of_isCount hc'
        exact ⟨fun _ => ⟨hfinal, by omega⟩, fun _ => by omega⟩
  | succ i ih =>
    have hfinal : ¬ Final codes (outcomes 0) := fun hfinal => by
      have hone := isCount_of_final hfinal hc
      omega
    cases retries with
    | zero =>
      have hone := isCount_zero hc
      omega
    | succ retries =>
      obtain ⟨c', rfl, hc'⟩ := isCount_succ hfinal hc
      have hrest := ih hc' (by omega)
      rw [Nat.add_lt_add_iff_right, Nat.add_lt_add_iff_right, hrest]

/-- How many retries a policy allows; without a policy there are none. -/
def retriesOf : Option Policy → ℕ
  | none => 0
  | some p => match asNumber p.maxRetries with
    | .ok most => most.countBelow
    | .error _ => 0

/-- Waits that can be told for some retries can be told for fewer. -/
theorem Paced.mono {p : Policy} {left fewer n : ℕ} {delay : Number} (h : Paced p left n delay)
    (hle : fewer ≤ left) : Paced p fewer n delay := by
  induction fewer generalizing left n delay with
  | zero => trivial
  | succ fewer ih =>
    cases left with
    | zero => omega
    | succ left =>
      obtain ⟨next, hnext, hlength, hrest⟩ := h
      exact ⟨next, hnext, hlength, ih hrest (by omega)⟩

theorem le_of_isCount {outcomes : ℕ → Except Fault α} {retries c : ℕ}
    (h : IsCount codes outcomes retries c) : c ≤ retries + 1 := by
  have hle : (c : ℕ∞) ≤ ((retries + 1 : ℕ) : ℕ∞) := by
    rw [h]
    simp
  exact_mod_cast hle

/-- **An operation under a steady policy** is called until its first final outcome, or until no
retry is left. -/
theorem calls_of_steady {policy : Option Policy} (hsteady : Steady policy)
    {x : Action Wire σ α} {called : σ → ℕ} {outcomes : ℕ → Except Fault α}
    (hfollows : Follows x called outcomes) (htold : ∀ i, Told codes (outcomes i)) {s s' : σ}
    {es : List (Dialogue.Event Wire)} {r : Except Fault α}
    (h : (retrying policy codes x).Course s es r s') :
    ∃ c, IsCount codes (fun i => outcomes (called s + i)) (retriesOf policy) c ∧
      called s' = called s + c ∧ r = outcomes (called s + (c - 1)) := by
  obtain ⟨c, hc⟩ := exists_isCount codes (fun i => outcomes (called s + i)) (retriesOf policy)
  refine ⟨c, hc, ?_⟩
  cases policy with
  | none =>
    obtain rfl := isCount_zero hc
    obtain ⟨hr, hcalled⟩ := hfollows _ _ _ _ h
    exact ⟨hcalled, hr⟩
  | some p =>
    obtain ⟨most, hmost, hpaced⟩ := hsteady p rfl
    have hretries : retriesOf (some p) = most.countBelow := by rw [retriesOf, hmost]
    rw [retrying, hmost] at h
    rw [hretries] at hc
    have hle : c - 1 ≤ most.countBelow := by
      have := le_of_isCount hc
      omega
    obtain ⟨hcalled, hr, _⟩ := rounds_of_loop hfollows htold hc (hpaced.mono hle) h
    exact ⟨hcalled, hr⟩

variable {attributes : List (Text × Option Policy)} {fallback policy : Option Policy}
  {source : Source}

/-- **The status decides about the kind, the code and another attempt, and they agree.** Whatever
reads as an integer other than zero makes a failure that reports it, with the message that was given;
a text that is not empty and does not read as one makes a failure of no special kind that carries the
text. And wherever an operation is tried again after failures with the standard codes, under a policy
that can tell how often and how long to wait, it ends with the outcome of its last call; behind a
call that failed with such a status it is called again exactly if the failure may vanish and retries
remain, and behind one that failed with such a text it never is. -/
theorem status_decides (hpolicy : Configures attributes fallback source policy)
    (hsteady : Steady policy) {x : Action Wire σ α} {called : σ → ℕ}
    {outcomes : ℕ → Except Fault α} (hfollows : Follows x called outcomes) (before : σ) {τ : Type}
    (w : Dialogue.World Wire τ) (st : τ) :
    (∀ status message s, status.toInteger = .ok s → s ≠ 0 →
      ∃ f, HttpFault.ofStatus status message = .ok f ∧ f.Reports s message ∧
        ((∀ b, status ≠ .bool b) → f.code = .int s)) ∧
    (∀ (t : Text) message, t ≠ "" → (∀ s, (Value.text t).toInteger ≠ .ok s) →
      HttpFault.ofStatus (.text t) message = .ok ⟨.plain, message, .text t⟩) ∧
    let o := Dialogue.run w ((invoke attributes fallback source standardCodes x).run before) st
    ∃ c, 1 ≤ c ∧ called o.result.2 = called before + c ∧
      o.result.1 = outcomes (called before + (c - 1)) ∧
      ∀ i < c, ∀ status message f, outcomes (called before + i) = .error (.http f) →
        HttpFault.ofStatus status message = .ok f →
        (∀ s, status.toInteger = .ok s → s ≠ 0 →
          (i + 1 < c ↔ f.kind.family? = some .transient ∧ i < retriesOf policy)) ∧
        (∀ t, status = .text t → t ≠ "" → (∀ s, status.toInteger ≠ .ok s) → i + 1 = c) := by
  refine ⟨fun status message s h hs => HttpFault.ofStatus_of_integer h hs message,
    fun t message ht h => HttpFault.ofStatus_of_unread ht h message, ?_⟩
  intro o
  have hcourse : (retrying policy standardCodes x).Course before o.events o.result.1
      o.result.2 := by
    rw [← hpolicy.policy_eq]
    exact Action.course_iff.1 (Dialogue.course_run w _ st)
  obtain ⟨c, hc, hcalled, hresult⟩ :=
    calls_of_steady hsteady hfollows (fun i => told_standard _) hcourse
  refine ⟨c, one_le_of_isCount hc, hcalled, hresult, ?_⟩
  intro i hi status message f hf hstatus
  have hagain := again_iff hc hi
  rw [hf] at hagain
  refine ⟨fun s hs hne => ?_, ?_⟩
  · obtain ⟨g, hg, hreports, _⟩ := HttpFault.ofStatus_of_integer hs hne message
    cases hstatus.symm.trans hg
    rw [hagain, final_of_reports hreports, not_not]
  · rintro t rfl ht hunread
    cases hstatus.symm.trans (HttpFault.ofStatus_of_unread ht hunread message)
    have hlast : ¬ i + 1 < c := fun h => (hagain.1 h).1 (final_of_text rfl)
    omega

/-- A status that is given as a text with blanks, a sign and an underscore: it may vanish, and behind
the first call that fails with it there is another one. -/
theorem status_decides_spelled :
    let attributes : List (Text × Option Policy) := [("_retry_params", some eager)]
    let status := Value.text " +5_03\n"
    let o := Dialogue.run Rehearsal.world
      ((invoke attributes none .usual standardCodes (playing refusedTwice)).run 0)
      Session.refusesOnce
    Configures attributes none .usual (some eager) ∧ Steady (some eager) ∧
      Follows (playing refusedTwice) id refusedTwice ∧ status.toInteger = .ok 503 ∧
      ∃ f, HttpFault.ofStatus status .null = .ok f ∧ f.Reports 503 .null ∧
        refusedTwice 0 = .error (.http f) ∧ f.kind.family? = some .transient ∧
        1 < o.result.2 := by
  intro attributes status o
  have hconfigures : Configures attributes none .usual (some eager) := .kept rfl
  have hsteady : Steady (some eager) := by
    rintro p ⟨⟩
    exact ⟨.int 3, rfl, paced_eager _ 0⟩
  have hfollows := follows_playing refusedTwice
  have hinteger : status.toInteger = .ok 503 := by decide +kernel
  obtain ⟨hreads, _, c, hpos, hcalled, _, hagain⟩ := status_decides hconfigures hsteady hfollows 0
    Rehearsal.world Session.refusesOnce
  obtain ⟨f, hf, hreports, hcode⟩ := hreads status .null 503 hinteger (by decide)
  have hsame : f = HttpFault.ofCode 503 .null := by
    have hstatus : HttpFault.ofStatus status .null = .ok (HttpFault.ofCode 503 .null) := by
      simp [HttpFault.ofStatus, hinteger, status]
    exact Except.ok.inj (hf.symm.trans hstatus)
  have houtcome : refusedTwice (id 0 + 0) = .error (.http f) := by
    rw [hsame]
    rfl
  have htransient : f.kind.family? = some .transient := hreports.transient_iff.2 (by decide)
  have hmore : 0 + 1 < c :=
    ((hagain 0 (by omega) status .null f houtcome hf).1 503 hinteger (by decide)).2
      ⟨htransient, by decide⟩
  have hcount : o.result.2 = 0 + c := hcalled
  exact ⟨hconfigures, hsteady, hfollows, hinteger, f, hf, hreports, houtcome, htransient, by omega⟩

end Retry

end StorageBroker
