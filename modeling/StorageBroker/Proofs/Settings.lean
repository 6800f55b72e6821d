import StorageBroker.Proofs.Outcome
import StorageBroker.Proofs.Value.Keys
import StorageBroker.Settings.Check
/-!
# What the check of settings lets through

Merged parameters pass the check exactly if everything in them that has to be an integer can be
read as one. What comes out of the check is what went in, with each of these values replaced by the
integer that it was read as.

* `Valid` -- parameters that the check lets through;
* `Settled` -- parameters before the check and behind it;
* `fault_check_eq_none_iff` -- the check passes valid parameters and no others;
* `SizeSent`, `ClassIn` -- what is sent of the sizes of a quota and of retention classes;
* `own_of_check` -- what the check fails with where all numbers are finite.
-/

namespace StorageBroker.Settings

variable {m m' : Mapping} {v w : Value} {f : Fault} {message : Text}

/-! ## 1. Integers -/

/-- **A value that is read as an integer**; a truth value is not, though it could be. -/
def Reads (v : Value) (i : Int) : Prop := (∀ b, v ≠ .bool b) ∧ v.toInteger = .ok i

theorem reads_int (i : Int) : Reads (.int i) i := ⟨nofun, rfl⟩

/-- A value that is read as some integer. -/
def IsInteger (v : Value) : Prop := ∃ i, Reads v i

theorem checkInteger_eq_ok : checkInteger message v = .ok w ↔ ∃ i, Reads v i ∧ w = .int i := by
  unfold checkInteger
  split
  next b =>
    constructor
    · intro h
      cases h
    · rintro ⟨i, ⟨hb, _⟩, _⟩
      exact absurd rfl (hb b)
  next hv =>
    constructor
    · intro h
      split at h
      next i hi =>
        cases h
        exact ⟨i, ⟨hv, hi⟩, rfl⟩
      all_goals cases h
    · rintro ⟨i, ⟨_, hi⟩, rfl⟩
      rw [hi]

theorem checkInteger_eq_error (h : checkInteger message v = .error f) : ¬ IsInteger v := by
  rintro ⟨i, hi⟩
  rw [checkInteger_eq_ok.2 ⟨i, hi, rfl⟩] at h
  cases h

/-! ## 2. Entries -/

/-- An entry that is missing or holds nothing. -/
def Absent (v : Option Value) : Prop := v = none ∨ v = some .null

theorem Absent.getD {v : Option Value} (h : Absent v) : v.getD .null = .null := by
  rcases h with rfl | rfl
  · rfl
  · rfl

/-- An entry that is absent or holds a value of a kind. -/
def GivenAs (P : Value → Prop) (v : Option Value) : Prop := Absent v ∨ ∃ w, v = some w ∧ P w

/-- **What a check makes of an entry**: one that holds a value holds what the value is read as. -/
inductive Replaced (check : Value → Except Fault Value) : Option Value → Option Value → Prop where
  | missing : Replaced check none none
  | null : Replaced check (some .null) (some .null)
  | read {v w : Value} (hv : v.isNull = false) (h : check v = .ok w) :
      Replaced check (some v) (some w)

/-- An entry that a check refuses. -/
def Refused (check : Value → Except Fault Value) (v : Option Value) : Prop :=
  ∃ w, v = some w ∧ w.isNull = false ∧ ∃ f, check w = .error f

theorem Replaced.givenAs {check : Value → Except Fault Value} {P : Value → Prop}
    {a b : Option Value} (h : Replaced check a b) (hP : ∀ v w, check v = .ok w → P v) :
    GivenAs P a := by
  cases h with
  | missing => exact .inl (.inl rfl)
  | null => exact .inl (.inr rfl)
  | read _ h => exact .inr ⟨_, rfl, hP _ _ h⟩

theorem Refused.not_givenAs {check : Value → Except Fault Value} {P : Value → Prop}
    {a : Option Value} (h : Refused check a) (hP : ∀ v f, check v = .error f → ¬ P v) :
    ¬ GivenAs P a := by
  obtain ⟨w, rfl, hw, f, hf⟩ := h
  rintro ((h | h) | ⟨w', h, hP'⟩)
  · cases h
  · cases h
    cases hw
  · cases h
    exact hP _ _ hf hP'

/-- An entry that holds a value is looked at by its check, and no other one is. -/
theorem replaced_of_absent {check : Value → Except Fault Value} {a : Option Value}
    (h : ∀ v, a = some v → v.isNull) : Replaced check a a := by
  cases a with
  | none => exact .missing
  | some v =>
    obtain rfl := Value.isNull_iff.1 (h v rfl)
    exact .null

theorem checkEntry_eq_ok {name : Text} (h : checkEntry message name m = .ok m') :
    Replaced (checkInteger message) (Mapping.get m name) (Mapping.get m' name) ∧
      ∀ other, other ≠ name → Mapping.get m' other = Mapping.get m other := by
  unfold checkEntry at h
  split at h
  next hm =>
    cases h
    refine ⟨replaced_of_absent fun v hv => ?_, fun _ _ => rfl⟩
    rw [hm] at hv
    cases hv
  next v hm =>
    split at h
    next hnull =>
      cases h
      refine ⟨replaced_of_absent fun w hw => ?_, fun _ _ => rfl⟩
      rw [hm] at hw
      cases hw
      exact hnull
    next hnull =>
      obtain ⟨w, hw, rfl⟩ := map_eq_ok.1 h
      constructor
      · rw [hm, Mapping.get_set, if_pos rfl]
        exact .read (Bool.eq_false_iff.2 hnull) hw
      · intro other hother
        rw [Mapping.get_set, if_neg (Ne.symm hother)]

theorem checkEntry_eq_error {name : Text} (h : checkEntry message name m = .error f) :
    Refused (checkInteger message) (Mapping.get m name) := by
  unfold checkEntry at h
  split at h
  next => cases h
  next v hm =>
    split at h
    next => cases h
    next hnull =>
      refine ⟨v, hm, Bool.eq_false_iff.2 hnull, ?_⟩
      cases hv : checkInteger message v with
      | ok w => rw [hv] at h; cases h
      | error g => exact ⟨g, rfl⟩

/-! ## 3. Settings with parts -/

/-- A quota that the check lets through. -/
def IsQuota (v : Value) : Prop :=
  ∃ q, v = .mapping q ∧ GivenAs IsInteger (Mapping.get q limit) ∧
    GivenAs IsInteger (Mapping.get q warn)

/-- Retention classes that the check lets through. -/
def AreClasses (v : Value) : Prop := ∃ cs, v = .mapping cs ∧ ∀ e ∈ cs, IsInteger e.2

theorem limit_ne_warn : limit ≠ warn := by decide

theorem isInteger_of_checkInteger (h : checkInteger message v = .ok w) : IsInteger v := by
  obtain ⟨i, hi, _⟩ := checkInteger_eq_ok.1 h
  exact ⟨i, hi⟩

/-- Both sizes of a quota are read. -/
theorem checkQuota_eq_ok (h : checkQuota v = .ok w) :
    ∃ q q', v = .mapping q ∧ w = .mapping q' ∧ ∀ size, size = limit ∨ size = warn →
      Replaced (checkInteger invalidQuota) (Mapping.get q size) (Mapping.get q' size) := by
  unfold checkQuota at h
  split at h
  next q =>
    obtain ⟨q₁, h₁, h⟩ := bind_eq_ok.1 h
    obtain ⟨q₂, h₂, h⟩ := bind_eq_ok.1 h
    obtain rfl := pure_eq_ok.1 h
    obtain ⟨hlimit, hother₁⟩ := checkEntry_eq_ok h₁
    obtain ⟨hwarn, hother₂⟩ := checkEntry_eq_ok h₂
    refine ⟨q, q₂, rfl, rfl, ?_⟩
    rintro size (rfl | rfl)
    · rw [hother₂ limit limit_ne_warn]
      exact hlimit
    · rw [hother₁ warn limit_ne_warn.symm] at hwarn
      exact hwarn
  next => cases h

theorem isQuota_of_checkQuota (h : checkQuota v = .ok w) : IsQuota v := by
  obtain ⟨q, q', rfl, _, hsizes⟩ := checkQuota_eq_ok h
  exact ⟨q, rfl, (hsizes limit (.inl rfl)).givenAs fun _ _ => isInteger_of_checkInteger,
    (hsizes warn (.inr rfl)).givenAs fun _ _ => isInteger_of_checkInteger⟩

theorem checkQuota_eq_error (h : checkQuota v = .error f) : ¬ IsQuota v := by
  rintro ⟨q, rfl, hlimit, hwarn⟩
  rcases bind_eq_error.1 h with h | ⟨q₁, h₁, h⟩
  · exact (checkEntry_eq_error h).not_givenAs (fun _ _ => checkInteger_eq_error) hlimit
  rcases bind_eq_error.1 h with h | ⟨q₂, _, h⟩
  · have hrefused := checkEntry_eq_error h
    rw [(checkEntry_eq_ok h₁).2 warn limit_ne_warn.symm] at hrefused
    exact hrefused.not_givenAs (fun _ _ => checkInteger_eq_error) hwarn
  · cases h

/-- The period of every class is read, and the names are kept. -/
theorem checkRetention_eq_ok (h : checkRetention v = .ok w) :
    ∃ cs cs', v = .mapping cs ∧ w = .mapping cs' ∧
      List.Forall₂ (fun e e' => ∃ i, Reads e.2 i ∧ e' = (e.1, .int i)) cs cs' := by
  unfold checkRetention at h
  split at h
  next cs =>
    obtain ⟨cs', hvalues, rfl⟩ := map_eq_ok.1 h
    refine ⟨cs, cs', rfl, rfl, (mapM_eq_ok_iff.1 hvalues).imp ?_⟩
    intro e e' he
    obtain ⟨x, hx, rfl⟩ := map_eq_ok.1 he
    obtain ⟨i, hi, rfl⟩ := checkInteger_eq_ok.1 hx
    exact ⟨i, hi, rfl⟩
  next => cases h

theorem areClasses_of_checkRetention (h : checkRetention v = .ok w) : AreClasses v := by
  obtain ⟨cs, cs', rfl, _, hall⟩ := checkRetention_eq_ok h
  refine ⟨cs, rfl, fun e he => ?_⟩
  obtain ⟨_, _, i, hi, _⟩ := exists_right_of_forall₂ hall e he
  exact ⟨i, hi⟩

theorem checkRetention_eq_error (h : checkRetention v = .error f) : ¬ AreClasses v := by
  rintro ⟨cs, rfl, hcs⟩
  obtain ⟨g, hvalues⟩ : ∃ g, checkValues invalidRetention cs = .error g := by
    cases hvalues : checkValues invalidRetention cs with
    | error g => exact ⟨g, rfl⟩
    | ok cs' => rw [checkRetention, hvalues] at h; cases h
  obtain ⟨e, he, hperiod⟩ := mapM_eq_error hvalues
  cases hinteger : checkInteger invalidRetention e.2 with
  | ok w => rw [hinteger] at hperiod; cases hperiod
  | error g => exact checkInteger_eq_error hinteger (hcs e he)

/-! ## 4. All settings -/

/-- **One check** refuses its entry and ends everything, or replaces its entry and no other one. -/
theorem checkAll_cons (c : Text × (Value → Except Fault Value))
    (cs : List (Text × (Value → Except Fault Value))) (m : Mapping) :
    (∃ w f, Mapping.get m c.1 = some w ∧ w.isNull = false ∧ c.2 w = .error f ∧
      (checkAll (c :: cs) m).fault = some f) ∨
      ∃ m₁, checkAll (c :: cs) m = checkAll cs m₁ ∧
        Replaced c.2 (Mapping.get m c.1) (Mapping.get m₁ c.1) ∧
        ∀ other, other ≠ c.1 → Mapping.get m₁ other = Mapping.get m other := by
  obtain ⟨name, check⟩ := c
  rw [checkAll]
  cases hm : Mapping.get m name with
  | none =>
    refine .inr ⟨m, rfl, ?_, fun _ _ => rfl⟩
    dsimp only
    rw [hm]
    exact .missing
  | some v =>
    dsimp only
    by_cases hv : v.isNull
    · rw [if_pos hv]
      obtain rfl := Value.isNull_iff.1 hv
      refine .inr ⟨m, rfl, ?_, fun _ _ => rfl⟩
      rw [hm]
      exact .null
    · rw [if_neg hv]
      have hv : v.isNull = false := Bool.eq_false_iff.2 hv
      cases hcheck : check v with
      | error f => exact .inl ⟨v, f, rfl, hv, hcheck, rfl⟩
      | ok w =>
        refine .inr ⟨Mapping.set m name w, rfl, ?_, fun other hother => ?_⟩
        · rw [Mapping.get_set, if_pos rfl]
          exact .read hv hcheck
        · rw [Mapping.get_set, if_neg hother.symm]

variable {cs : List (Text × (Value → Except Fault Value))}

/-- Where all checks pass, each has replaced its own entry. -/
theorem checkAll_passed (hnodup : (cs.map Prod.fst).Nodup) (h : (checkAll cs m).fault = none) :
    ∃ m', (checkAll cs m).parameters = .mapping m' ∧
      (∀ c ∈ cs, Replaced c.2 (Mapping.get m c.1) (Mapping.get m' c.1)) ∧
      ∀ name, name ∉ cs.map Prod.fst → Mapping.get m' name = Mapping.get m name := by
  induction cs generalizing m with
  | nil => exact ⟨m, rfl, fun c hc => absurd hc List.not_mem_nil, fun _ _ => rfl⟩
  | cons c cs ih =>
    rw [List.map_cons, List.nodup_cons] at hnodup
    obtain ⟨hc, hnodup⟩ := hnodup
    obtain ⟨_, _, _, _, _, hsome⟩ | ⟨m₁, heq, hreplaced, hother⟩ := checkAll_cons c cs m
    · cases h.symm.trans hsome
    rw [heq] at h ⊢
    obtain ⟨m', hm', hall, hrest⟩ := ih hnodup h
    refine ⟨m', hm', List.forall_mem_cons.2 ⟨?_, fun d hd => ?_⟩, fun name hname => ?_⟩
    · rw [hrest c.1 hc]
      exact hreplaced
    · have hne : d.1 ≠ c.1 := fun heq => hc (heq ▸ List.mem_map_of_mem hd)
      rw [← hother d.1 hne]
      exact hall d hd
    · rw [List.map_cons, List.mem_cons, not_or] at hname
      rw [hrest name hname.2, hother name hname.1]

/-- Where a check fails, it is one that refuses an entry as it came. -/
theorem checkAll_refused (hnodup : (cs.map Prod.fst).Nodup) (h : (checkAll cs m).fault = some f) :
    ∃ c ∈ cs, ∃ w, Mapping.get m c.1 = some w ∧ w.isNull = false ∧ c.2 w = .error f := by
  induction cs generalizing m with
  | nil => cases h
  | cons c cs ih =>
    rw [List.map_cons, List.nodup_cons] at hnodup
    obtain ⟨hc, hnodup⟩ := hnodup
    obtain ⟨w, g, hw, hnull, hg, hfault⟩ | ⟨m₁, heq, _, hother⟩ := checkAll_cons c cs m
    · cases h.symm.trans hfault
      exact ⟨c, List.mem_cons_self, w, hw, hnull, hg⟩
    rw [heq] at h
    -- The later checks have other names, so what they refuse is as it came.
    obtain ⟨d, hd, hrefused⟩ := ih hnodup h
    have hne : d.1 ≠ c.1 := fun heq => hc (heq ▸ List.mem_map_of_mem hd)
    rw [hother d.1 hne] at hrefused
    exact ⟨d, List.mem_cons_of_mem c hd, hrefused⟩

/-- **Parameters that the check lets through**: what has to be an integer can be read as one. -/
structure Valid (m : Mapping) : Prop where
  quota : GivenAs IsQuota (Mapping.get m Settings.quota)
  defaultRetention : GivenAs IsInteger (Mapping.get m Settings.defaultRetention)
  retention : GivenAs AreClasses (Mapping.get m Settings.retention)

/-- **Parameters before the check and behind it.** -/
structure Settled (m m' : Mapping) : Prop where
  quota : Replaced checkQuota (Mapping.get m Settings.quota) (Mapping.get m' Settings.quota)
  defaultRetention : Replaced (checkInteger invalidRetention)
    (Mapping.get m Settings.defaultRetention) (Mapping.get m' Settings.defaultRetention)
  retention : Replaced checkRetention
    (Mapping.get m Settings.retention) (Mapping.get m' Settings.retention)
  other : ∀ name, name ∉ checks.map Prod.fst → Mapping.get m' name = Mapping.get m name

theorem checks_nodup : (checks.map Prod.fst).Nodup := by decide

theorem Settled.valid (h : Settled m m') : Valid m where
  quota := h.quota.givenAs fun _ _ => isQuota_of_checkQuota
  defaultRetention := h.defaultRetention.givenAs fun _ _ => isInteger_of_checkInteger
  retention := h.retention.givenAs fun _ _ => areClasses_of_checkRetention

theorem check_passed (h : (check (.mapping m)).fault = none) :
    ∃ m', (check (.mapping m)).parameters = .mapping m' ∧ Settled m m' := by
  obtain ⟨m', hm', hall, hother⟩ := checkAll_passed checks_nodup h
  refine ⟨m', hm', ?_⟩
  exact {
    quota := hall (Settings.quota, checkQuota) (by simp [checks])
    defaultRetention :=
      hall (Settings.defaultRetention, checkInteger invalidRetention) (by simp [checks])
    retention := hall (Settings.retention, checkRetention) (by simp [checks])
    other := hother }

/-- The check refuses one of the three settings. -/
theorem check_eq_some (h : (check (.mapping m)).fault = some f) :
    ∃ name v, Mapping.get m name = some v ∧ v.isNull = false ∧
      ((name = Settings.quota ∧ checkQuota v = .error f) ∨
        (name = Settings.defaultRetention ∧ checkInteger invalidRetention v = .error f) ∨
        (name = Settings.retention ∧ checkRetention v = .error f)) := by
  obtain ⟨c, hc, v, hv, hnull, hf⟩ := checkAll_refused checks_nodup h
  have hmem : c = (Settings.quota, checkQuota) ∨
      c = (Settings.defaultRetention, checkInteger invalidRetention) ∨
      c = (Settings.retention, checkRetention) := by
    simpa [checks] using hc
  refine ⟨c.1, v, hv, hnull, ?_⟩
  rcases hmem with rfl | rfl | rfl
  · exact .inl ⟨rfl, hf⟩
  · exact .inr (.inl ⟨rfl, hf⟩)
  · exact .inr (.inr ⟨rfl, hf⟩)

theorem check_refused (h : (check (.mapping m)).fault = some f) : ¬ Valid m := by
  intro hvalid
  obtain ⟨name, v, hv, hnull, hrefused⟩ := check_eq_some h
  rcases hrefused with ⟨rfl, hf⟩ | ⟨rfl, hf⟩ | ⟨rfl, hf⟩
  · exact Refused.not_givenAs ⟨v, hv, hnull, f, hf⟩ (fun _ _ => checkQuota_eq_error) hvalid.quota
  · exact Refused.not_givenAs ⟨v, hv, hnull, f, hf⟩ (fun _ _ => checkInteger_eq_error)
      hvalid.defaultRetention
  · exact Refused.not_givenAs ⟨v, hv, hnull, f, hf⟩ (fun _ _ => checkRetention_eq_error)
      hvalid.retention

/-- **The check lets valid parameters through, and no others.** -/
theorem fault_check_eq_none_iff : (check (.mapping m)).fault = none ↔ Valid m := by
  constructor
  · intro h
    obtain ⟨m', _, hsettled⟩ := check_passed h
    exact hsettled.valid
  · intro hvalid
    cases h : (check (.mapping m)).fault with
    | none => rfl
    | some f => exact absurd hvalid (check_refused h)

/-! ## 5. What is sent of settings -/

/-- A size in the quota, if it is set. -/
def sizeIn (m : Mapping) (size : Text) : Option Value :=
  match Mapping.get m Settings.quota with
  | some (.mapping q) => (Mapping.get q size).filter fun v => !v.isNull
  | _ => none

/-- **A size as it is sent**: the integer that was given, or something that stands for none where
none was given. -/
inductive SizeSent (m : Mapping) (size : Text) : Option Value → Prop where
  | given {v : Value} {i : Int} (h : sizeIn m size = some v) (hi : Reads v i) :
      SizeSent m size (some (.int i))
  | unset {v : Option Value} (h : sizeIn m size = none)
      (hv : Absent v ∨ v = some (.int Settings.unset)) : SizeSent m size v

theorem Settled.quota_cases (h : Settled m m') :
    (Absent (Mapping.get m' Settings.quota) ∧ ∀ size, sizeIn m size = none) ∨
      ∃ q q', Mapping.get m Settings.quota = some (.mapping q) ∧
        Mapping.get m' Settings.quota = some (.mapping q') ∧ ∀ size, size = limit ∨ size = warn →
          Replaced (checkInteger invalidQuota) (Mapping.get q size) (Mapping.get q' size) := by
  have hquota := h.quota
  unfold sizeIn
  generalize Mapping.get m Settings.quota = a, Mapping.get m' Settings.quota = b at hquota
  cases hquota with
  | missing => exact .inl ⟨.inl rfl, fun _ => rfl⟩
  | null => exact .inl ⟨.inr rfl, fun _ => rfl⟩
  | read _ hcheck =>
    obtain ⟨q, q', rfl, rfl, hsizes⟩ := checkQuota_eq_ok hcheck
    exact .inr ⟨q, q', rfl, rfl, hsizes⟩

/-- The size in a quota behind the check, by whatever it is sent that reads the same. -/
theorem sizeSent_of_replaced {q q' : Mapping} {size : Text} {o : Option Value}
    (hq : Mapping.get m Settings.quota = some (.mapping q))
    (h : Replaced (checkInteger message) (Mapping.get q size) (Mapping.get q' size))
    (ho : o.getD .null = (Mapping.get q' size).getD .null) : SizeSent m size o := by
  have hsize : sizeIn m size = (Mapping.get q size).filter fun v => !v.isNull := by
    rw [sizeIn, hq]
  have habsent : o.getD .null = .null → Absent o := by
    intro hnull
    cases o with
    | none => exact .inl rfl
    | some v => exact .inr (congrArg some hnull)
  generalize Mapping.get q size = a, Mapping.get q' size = b at h hsize ho
  cases h with
  | missing => exact .unset hsize (.inl (habsent ho))
  | null => exact .unset hsize (.inl (habsent ho))
  | read hv hcheck =>
    obtain ⟨i, hi, rfl⟩ := checkInteger_eq_ok.1 hcheck
    rw [Option.filter_some, hv] at hsize
    cases o with
    | none => cases ho
    | some w =>
      cases ho
      exact .given hsize hi

/-- **The default retention behind the check** is the integer that was given. -/
theorem Settled.default_cases (h : Settled m m') :
    Absent (Mapping.get m' Settings.defaultRetention) ∨
      ∃ v i, Mapping.get m Settings.defaultRetention = some v ∧ Reads v i ∧
        Mapping.get m' Settings.defaultRetention = some (.int i) := by
  have hperiod := h.defaultRetention
  generalize Mapping.get m Settings.defaultRetention = a,
    Mapping.get m' Settings.defaultRetention = b at hperiod
  cases hperiod with
  | missing => exact .inl (.inl rfl)
  | null => exact .inl (.inr rfl)
  | read _ hcheck =>
    obtain ⟨i, hi, rfl⟩ := checkInteger_eq_ok.1 hcheck
    exact .inr ⟨_, i, rfl, hi, rfl⟩

/-- A retention class of parameters with its period. -/
def ClassIn (m : Mapping) (name : Value) (i : Int) : Prop :=
  ∃ cs v, Mapping.get m Settings.retention = some (.mapping cs) ∧ (name, v) ∈ cs ∧ Reads v i

/-- **The retention classes behind the check** are those that were given, with integer periods. -/
theorem Settled.retention_cases (h : Settled m m') :
    Absent (Mapping.get m' Settings.retention) ∨
      ∃ cs', Mapping.get m' Settings.retention = some (.mapping cs') ∧
        ∀ e ∈ cs', ∃ i, ClassIn m e.1 i ∧ e.2 = .int i := by
  have hclasses := h.retention
  unfold ClassIn
  generalize Mapping.get m Settings.retention = a, Mapping.get m' Settings.retention = b at hclasses
  cases hclasses with
  | missing => exact .inl (.inl rfl)
  | null => exact .inl (.inr rfl)
  | read _ hcheck =>
    obtain ⟨cs, cs', rfl, rfl, hall⟩ := checkRetention_eq_ok hcheck
    refine .inr ⟨cs', rfl, fun e' he' => ?_⟩
    obtain ⟨e, he, i, hi, rfl⟩ := exists_left_of_forall₂ hall e' he'
    exact ⟨i, ⟨cs, e.2, rfl, he, hi⟩, rfl⟩

/-! ## 6. What the check fails with -/

/-- A double that is neither infinite nor NaN, or no double at all. -/
def Finite (v : Value) : Prop := ∀ x, v = .float x → (Dyadic.ofFloat? x).isSome

/-- **A setting whose numbers are finite**, be they the setting itself or the values in it. -/
def Bounded (v : Value) : Prop := Finite v ∧ ∀ q, v = .mapping q → ∀ e ∈ q, Finite e.2

/-- What is no integer is told apart by its kind or its content, unless it is beyond all numbers. -/
theorem toInteger_eq_error {e : Malformed} (hv : Finite v) (h : v.toInteger = .error e) :
    (∃ d, e = .kind d) ∨ ∃ d, e = .content d := by
  unfold Value.toInteger at h
  split at h
  next => cases h
  next => cases h
  next x =>
    obtain ⟨d, hd⟩ := Option.isSome_iff_exists.1 (hv x rfl)
    rw [hd] at h
    cases h
  next s =>
    split at h
    · cases h
    · cases h
      exact .inr ⟨_, rfl⟩
  next bs =>
    split at h
    · cases h
    · cases h
      exact .inr ⟨_, rfl⟩
  next =>
    cases h
    exact .inl ⟨_, rfl⟩

theorem own_of_checkInteger (hv : Finite v) (h : checkInteger message v = .error f) : f.isOwn := by
  unfold checkInteger at h
  split at h
  next =>
    cases h
    rfl
  next =>
    cases hread : v.toInteger with
    | ok i =>
      rw [hread] at h
      cases h
    | error e =>
      rw [hread] at h
      obtain ⟨d, rfl⟩ | ⟨d, rfl⟩ := toInteger_eq_error hv hread
      · cases h
        rfl
      · cases h
        rfl

theorem own_of_checkEntry {name : Text} (hm : ∀ v, Mapping.get m name = some v → Finite v)
    (h : checkEntry message name m = .error f) : f.isOwn := by
  unfold checkEntry at h
  split at h
  next => cases h
  next v hv =>
    split at h
    next => cases h
    next =>
      cases hcheck : checkInteger message v with
      | ok w =>
        rw [hcheck] at h
        cases h
      | error g =>
        rw [hcheck] at h
        cases h
        exact own_of_checkInteger (hm v hv) hcheck

theorem own_of_checkQuota (hv : Bounded v) (h : checkQuota v = .error f) : f.isOwn := by
  unfold checkQuota at h
  split at h
  next q =>
    have hfinite : ∀ name w, Mapping.get q name = some w → Finite w := by
      intro name w hw
      exact hv.2 q rfl _ (Mapping.mem_of_get hw)
    rcases bind_eq_error.1 h with h | ⟨q₁, h₁, h⟩
    · exact own_of_checkEntry (hfinite limit) h
    rcases bind_eq_error.1 h with h | ⟨q₂, _, h⟩
    · refine own_of_checkEntry (fun w hw => ?_) h
      rw [(checkEntry_eq_ok h₁).2 warn limit_ne_warn.symm] at hw
      exact hfinite warn w hw
    · cases h
  next =>
    cases h
    rfl

theorem own_of_checkRetention (hv : Bounded v) (h : checkRetention v = .error f) : f.isOwn := by
  unfold checkRetention at h
  split at h
  next cs =>
    cases hvalues : checkValues invalidRetention cs with
    | ok cs' =>
      rw [hvalues] at h
      cases h
    | error g =>
      rw [hvalues] at h
      cases h
      obtain ⟨e, he, hperiod⟩ := mapM_eq_error hvalues
      cases hcheck : checkInteger invalidRetention e.2 with
      | ok w =>
        rw [hcheck] at hperiod
        cases hperiod
      | error g' =>
        rw [hcheck] at hperiod
        cases hperiod
        exact own_of_checkInteger (hv.2 cs rfl e he) hcheck
  next =>
    cases h
    rfl

/-- **Where all numbers are finite** the check of settings fails as the library does. -/
theorem own_of_check (hm : ∀ e ∈ m, Bounded e.2) (h : (check (.mapping m)).fault = some f) :
    f.isOwn := by
  obtain ⟨name, v, hv, _, hrefused⟩ := check_eq_some h
  have hbounded : Bounded v := hm _ (Mapping.mem_of_get hv)
  rcases hrefused with ⟨_, hf⟩ | ⟨_, hf⟩ | ⟨_, hf⟩
  · exact own_of_checkQuota hbounded hf
  · exact own_of_checkInteger hbounded.1 hf
  · exact own_of_checkRetention hbounded hf

end StorageBroker.Settings
