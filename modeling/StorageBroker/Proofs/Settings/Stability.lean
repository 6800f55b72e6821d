import StorageBroker.Proofs.Settings
/-!
# Settings that are checked again

What the check has made of parameters is left as it is by another check: integers are read as
themselves. So parameters that have been settled once stay the same when some of their settings are
put back to what they were before, or are taken out, and the check is made again.

* `Stable` -- checks that let their own results through unchanged;
* `Settles` -- parameters before the check and behind it, under every key;
* `Settles.again` -- what settled parameters are settled to once some settings were put back;
* `Settles.unique` -- parameters are settled in one way.
-/

namespace StorageBroker

/-- Setting a name to what it has already changes nothing. -/
theorem Mapping.set_of_get {m : Mapping} {name : Text} {v : Value}
    (h : Mapping.get m name = some v) : Mapping.set m name v = m := by
  induction m with
  | nil => cases h
  | cons e m ih =>
    obtain ⟨k, w⟩ := e
    rw [Mapping.get_cons] at h
    rw [Mapping.set, Mapping.insert]
    by_cases hk : (Value.text name).equal k
    · rw [if_pos hk] at h ⊢
      cases h
      rfl
    · rw [if_neg hk] at h ⊢
      exact congrArg _ (ih h)

namespace Settings

variable {check : Value → Except Fault Value} {a c c' : Option Value} {v w : Value}
  {message : Text} {m m' : Mapping}

/-! ## 1. Single checks -/

/-- **A check that lets its own results through unchanged.** -/
def Stable (check : Value → Except Fault Value) : Prop :=
  ∀ v w, check v = .ok w → w.isNull = false ∧ check w = .ok w

theorem stable_checkInteger (message : Text) : Stable (checkInteger message) := by
  intro v w h
  obtain ⟨i, _, rfl⟩ := checkInteger_eq_ok.1 h
  exact ⟨rfl, checkInteger_int message i⟩

/-- What an entry has been replaced by is not replaced again. -/
theorem Replaced.again (h : Replaced check a c) (hcheck : Stable check) : Replaced check c c := by
  cases h with
  | missing => exact .missing
  | null => exact .null
  | read _ h =>
    obtain ⟨hnull, hagain⟩ := hcheck _ _ h
    exact .read hnull hagain

/-- An entry is replaced in one way. -/
theorem Replaced.unique (h : Replaced check a c) (h' : Replaced check a c') : c = c' := by
  cases h with
  | missing =>
    cases h'
    rfl
  | null =>
    cases h' with
    | null => rfl
    | read hv _ => cases hv
  | read hv hw =>
    cases h' with
    | null => cases hv
    | read _ hw' =>
      cases hw.symm.trans hw'
      rfl

/-- An entry that its check has let through is left as it is. -/
theorem checkEntry_of_replaced {name : Text}
    (h : Replaced (checkInteger message) a (Mapping.get m name)) :
    checkEntry message name m = .ok m := by
  have hagain := h.again (stable_checkInteger message)
  unfold checkEntry
  generalize hentry : Mapping.get m name = entry at hagain
  cases hagain with
  | missing => rfl
  | null => rfl
  | @read v _ hv hcheck =>
    dsimp only
    rw [if_neg (by rw [hv]; exact Bool.false_ne_true), hcheck]
    exact congrArg Except.ok (Mapping.set_of_get hentry)

theorem stable_checkQuota : Stable checkQuota := by
  intro v w h
  obtain ⟨q, q', rfl, rfl, hsizes⟩ := checkQuota_eq_ok h
  refine ⟨rfl, bind_eq_ok.2 ⟨q', checkEntry_of_replaced (hsizes limit (.inl rfl)), ?_⟩⟩
  exact bind_eq_ok.2 ⟨q', checkEntry_of_replaced (hsizes warn (.inr rfl)), rfl⟩

theorem stable_checkRetention : Stable checkRetention := by
  intro v w h
  obtain ⟨cs, cs', rfl, rfl, hall⟩ := checkRetention_eq_ok h
  refine ⟨rfl, map_eq_ok.2 ⟨cs', mapM_eq_ok_iff.2 ?_, rfl⟩⟩
  refine List.forall₂_same.2 fun e' he' => ?_
  obtain ⟨e, _, i, _, rfl⟩ := exists_left_of_forall₂ hall e' he'
  rfl

/-! ## 2. All checks -/

/-- A key that no check is about. -/
def Unchecked (q : Value) : Prop := ∀ name ∈ checks.map Prod.fst, ¬ q.equal (.text name)

/-- The checks of some settings change nothing under other keys. -/
theorem find?_checkAll {cs : List (Text × (Value → Except Fault Value))} {q : Value}
    (hq : q.isKey) (hne : ∀ name ∈ cs.map Prod.fst, ¬ q.equal (.text name))
    (h : (checkAll cs m).parameters = .mapping m') :
    Mapping.find? m' q = Mapping.find? m q := by
  induction cs generalizing m with
  | nil =>
    cases h
    rfl
  | cons c cs ih =>
    obtain ⟨name, check⟩ := c
    rw [List.map_cons, List.forall_mem_cons] at hne
    obtain ⟨hname, hne⟩ := hne
    rw [checkAll] at h
    split at h
    · exact ih hne h
    · split at h
      · exact ih hne h
      · split at h
        next w _ =>
          rw [ih hne h, Mapping.set, Mapping.find?_insert m w rfl hq, if_neg hname]
        next =>
          cases h
          rfl

/-- **Parameters before the check and behind it**, under every key. -/
structure Settles (m m' : Mapping) : Prop extends Settled m m' where
  unchecked : ∀ q : Value, q.isKey → Unchecked q → Mapping.find? m' q = Mapping.find? m q

theorem settles_of_check (h : Settings.check (.mapping m) = ⟨.mapping m', none⟩) :
    Settles m m' := by
  obtain ⟨m'', hm'', hsettled⟩ := check_passed (congrArg Checked.fault h)
  rw [h] at hm''
  cases hm''
  exact ⟨hsettled, fun q hq hne => find?_checkAll hq hne (congrArg Checked.parameters h)⟩

/-- What a name stands for is found under its text and under nothing else. -/
theorem eq_text_of_equal {q : Value} {name : Text} (hq : q.isKey) (h : q.equal (.text name)) :
    q = .text name :=
  Value.equal_text_iff.1 (Value.equal_symm hq h)

theorem unchecked_text {name : Text} (h : name ∉ checks.map Prod.fst) :
    Unchecked (.text name) := by
  intro other hother heq
  cases Value.equal_text_iff.1 heq
  exact h hother

/-- **Settled parameters are settled for good.** Where every setting has been put back to what it
was, or has been left as it was settled, or has been taken out, another check leads to the settled
parameters, without the settings that were taken out. -/
theorem Settles.again (h : Settles m m') {n t : Mapping}
    (hn : ∀ q : Value, q.isKey →
      (Mapping.find? n q = Mapping.find? m q ∧ Mapping.find? t q = Mapping.find? m' q) ∨
        (Mapping.find? n q = Mapping.find? t q ∧
          (Mapping.find? t q = Mapping.find? m' q ∨ Mapping.find? t q = none))) :
    Settles n t := by
  have hreplaced : ∀ {name : Text} {check : Value → Except Fault Value}, Stable check →
      Replaced check (Mapping.get m name) (Mapping.get m' name) →
      Replaced check (Mapping.get n name) (Mapping.get t name) := by
    intro name check hstable hname
    obtain ⟨hback, hsettled⟩ | ⟨hkept, hsettled | hnone⟩ := hn (.text name) rfl
    · rw [Mapping.get, Mapping.get, hback, hsettled]
      exact hname
    · rw [Mapping.get, Mapping.get, hkept, hsettled]
      exact hname.again hstable
    · rw [Mapping.get, Mapping.get, hkept, hnone]
      exact .missing
  have hunchecked : ∀ q : Value, q.isKey → Unchecked q →
      Mapping.find? t q = Mapping.find? n q := by
    intro q hq hne
    obtain ⟨hback, hsettled⟩ | ⟨hkept, _⟩ := hn q hq
    · rw [hback, hsettled, h.unchecked q hq hne]
    · exact hkept.symm
  exact {
    quota := hreplaced stable_checkQuota h.quota
    defaultRetention := hreplaced (stable_checkInteger _) h.defaultRetention
    retention := hreplaced stable_checkRetention h.retention
    other := fun name hname => hunchecked (.text name) rfl (unchecked_text hname)
    unchecked := hunchecked }

/-- **Parameters are settled in one way.** -/
theorem Settles.unique {t t' : Mapping} (h : Settles m t) (h' : Settles m t') :
    Mapping.Agree t t' := by
  intro q hq
  by_cases hne : Unchecked q
  · rw [h.unchecked q hq hne, h'.unchecked q hq hne]
  · unfold Unchecked at hne
    simp only [not_forall, not_not] at hne
    obtain ⟨name, hname, hequal⟩ := hne
    obtain rfl := eq_text_of_equal hq hequal
    have hchecks : name = Settings.quota ∨ name = Settings.defaultRetention ∨
        name = Settings.retention := by
      simpa [checks] using hname
    rcases hchecks with rfl | rfl | rfl
    · exact h.quota.unique h'.quota
    · exact h.defaultRetention.unique h'.defaultRetention
    · exact h.retention.unique h'.retention

end Settings

end StorageBroker
