import StorageBroker.Proofs.Settings.Stability
/-!
# What the check of settings refuses

The check looks at one value after another: at the quota and its two sizes, at the default
retention, at the retention classes and their periods. It ends at the first value that is not what
it has to be, and reports it as a fault of the broker -- unless the value is an infinite number,
for which the reading of integers fails in a way that the check does not catch. Where every value is
what it has to be, each one is replaced by the integer that it is read as, and nothing else changes.

A report shows the value that is refused, with every integer in it written out. An integer of more
than 4300 digits cannot be written where numbers have a limit, and then the report fails in turn;
that is not modelled.

* `Infinite`, `ofFloat?_eq_none_iff_isInf` -- the numbers that no integer is cut out of;
* `Demand`, `demands` -- the values that are looked at, in order;
* `fault_check` -- the check fails as the first demand that is refused;
* `Kept` -- mappings with the same keys, in which some entries may have changed;
* `check_passes_or_refuses` -- both ends of the check, for all parameters;
* `infinite_limit_escapes` -- a quota whose limit is infinite.
-/

namespace StorageBroker

/-! ## 1. Numbers beyond all integers -/

namespace Dyadic

open Float.Model (UnpackedFloat)

variable {x : Float}

/-- The exponent of a double is full if all of its bits are set. -/
theorem unpackExponent_eq_iff :
    @UnpackedFloat.unpackExponent .binary64 x.toModel.toBits.toBitVec = -1#_ ↔
      exponentField x = 2047 := by
  have hfield : (@UnpackedFloat.unpackExponent .binary64
      x.toModel.toBits.toBitVec).toNat = exponentField x := by
    show (BitVec.cast _ (BitVec.extractLsb 62 52 x.toBits.toBitVec)).toNat = _
    rw [BitVec.toNat_cast, BitVec.extractLsb_toNat, Nat.shiftRight_eq_div_pow]
    rfl
  rw [← hfield, ← BitVec.toNat_inj]
  rfl

/-- A double whose exponent is full is infinite or is no number, and no other one is either. -/
theorem isInf_isNaN_cases : (exponentField x = 2047 ∧ x.isInf = !x.isNaN) ∨
    (exponentField x ≠ 2047 ∧ x.isInf = false ∧ x.isNaN = false) := by
  rw [Ne, ← unpackExponent_eq_iff]
  show (_ ∧ (UnpackedFloat.unpack _ _).isInf = !(UnpackedFloat.unpack _ _).isNaN) ∨
    (_ ∧ (UnpackedFloat.unpack _ _).isInf = false ∧ (UnpackedFloat.unpack _ _).isNaN = false)
  unfold UnpackedFloat.unpack
  dsimp only
  -- The bits are told apart in the order in which a double is unpacked.
  by_cases hfull : @UnpackedFloat.unpackExponent .binary64 x.toModel.toBits.toBitVec = -1#_
  · refine .inl ⟨hfull, ?_⟩
    rw [if_pos hfull]
    by_cases hmantissa : @UnpackedFloat.unpackMantissa .binary64 x.toModel.toBits.toBitVec = 0#_
    · rw [if_pos hmantissa]
      rfl
    · rw [if_neg hmantissa]
      rfl
  · refine .inr ⟨hfull, ?_⟩
    rw [if_neg hfull]
    by_cases hzero : @UnpackedFloat.unpackExponent .binary64 x.toModel.toBits.toBitVec = 0#_
    · rw [if_pos hzero]
      by_cases hmantissa : @UnpackedFloat.unpackMantissa .binary64 x.toModel.toBits.toBitVec = 0#_
      · rw [dif_pos hmantissa]
        exact ⟨rfl, rfl⟩
      · rw [dif_neg hmantissa]
        exact ⟨rfl, rfl⟩
    · rw [if_neg hzero]
      exact ⟨rfl, rfl⟩

/-- **No reading have the infinities and what is no number**, and these alone. -/
theorem ofFloat?_eq_none_iff_isInf : ofFloat? x = none ↔ x.isInf ∨ x.isNaN := by
  rw [ofFloat?_eq_none_iff]
  rcases isInf_isNaN_cases (x := x) with ⟨hfull, hinf⟩ | ⟨hfull, hinf, hnan⟩
  · rw [hinf]
    cases x.isNaN <;> simp [hfull]
  · rw [hinf, hnan]
    simp [hfull]

theorem isNaN_of_isInf (h : x.isInf) : x.isNaN = false := by
  rcases isInf_isNaN_cases (x := x) with ⟨_, hinf⟩ | ⟨_, hinf, _⟩
  · rw [h] at hinf
    cases hnan : x.isNaN with
    | false => rfl
    | true =>
      rw [hnan] at hinf
      cases hinf
  · rw [h] at hinf
    cases hinf

end Dyadic

namespace Settings

variable {m m' : Mapping} {v w : Value} {f : Fault} {message name : Text}

/-- A number that is infinite. -/
def Infinite (v : Value) : Prop := ∃ x, v = .float x ∧ x.isInf

/-- How an infinite number fails to be read. -/
def beyondIntegers : Malformed := .magnitude "cannot convert float infinity to integer"

/-- **An infinite number is the one value that fails in a way of its own** when it is read as an
integer. -/
theorem toInteger_cases (v : Value) : (∃ i, v.toInteger = .ok i) ∨
    (Infinite v ∧ v.toInteger = .error beyondIntegers) ∨
    (¬ Infinite v ∧ ∃ d, v.toInteger = .error (.kind d) ∨ v.toInteger = .error (.content d)) := by
  have hother : (∀ x, v ≠ .float x) → ¬ Infinite v := by
    rintro hv ⟨x, hx, _⟩
    exact hv x hx
  unfold Value.toInteger
  split
  next i => exact .inl ⟨i, rfl⟩
  next b => exact .inl ⟨_, rfl⟩
  next x =>
    split
    next d _ => exact .inl ⟨_, rfl⟩
    next hx =>
      rcases Dyadic.ofFloat?_eq_none_iff_isInf.1 hx with hinf | hnan
      · rw [if_neg (by rw [Dyadic.isNaN_of_isInf hinf]; exact Bool.false_ne_true)]
        exact .inr (.inl ⟨⟨x, rfl, hinf⟩, rfl⟩)
      · rw [if_pos hnan]
        refine .inr (.inr ⟨?_, _, .inr rfl⟩)
        rintro ⟨_, h, hinf⟩
        cases h
        rw [Dyadic.isNaN_of_isInf hinf] at hnan
        cases hnan
  next s =>
    split
    next i _ => exact .inl ⟨i, rfl⟩
    next => exact .inr (.inr ⟨hother nofun, _, .inr rfl⟩)
  next bs =>
    split
    next i _ => exact .inl ⟨i, rfl⟩
    next => exact .inr (.inr ⟨hother nofun, _, .inr rfl⟩)
  next _ _ hfloat _ _ => exact .inr (.inr ⟨hother hfloat, _, .inl rfl⟩)

/-- **A value that has to be an integer** is read, or refused with the message and the value, or is
infinite. -/
theorem checkInteger_cases (message : Text) (v : Value) :
    (∃ i, Reads v i ∧ checkInteger message v = .ok (.int i)) ∨
    (Infinite v ∧ ¬ IsInteger v ∧ checkInteger message v = .error (.malformed beyondIntegers)) ∨
    (¬ Infinite v ∧ ¬ IsInteger v ∧
      ∃ cause, checkInteger message v = .error (.broker (some (message ++ v.quoted)) cause)) := by
  by_cases hbool : ∃ b, v = .bool b
  · obtain ⟨b, rfl⟩ := hbool
    exact .inr (.inr ⟨nofun, fun ⟨i, hi⟩ => hi.1 b rfl, none, rfl⟩)
  have hb : ∀ b, v ≠ .bool b := fun b hv => hbool ⟨b, hv⟩
  have hrefused : ∀ {e}, v.toInteger = .error e → ¬ IsInteger v := by
    rintro e he ⟨i, hi⟩
    cases he.symm.trans hi.2
  unfold checkInteger
  split
  next b => exact absurd rfl (hb b)
  next _ _ =>
    obtain ⟨i, hi⟩ | ⟨hinf, he⟩ | ⟨hinf, d, he | he⟩ := toInteger_cases v
    · rw [hi]
      exact .inl ⟨i, ⟨hb, hi⟩, rfl⟩
    · rw [he]
      exact .inr (.inl ⟨hinf, hrefused he, rfl⟩)
    · rw [he]
      exact .inr (.inr ⟨hinf, hrefused he, _, rfl⟩)
    · rw [he]
      exact .inr (.inr ⟨hinf, hrefused he, _, rfl⟩)

/-! ## 2. What is demanded -/

/-- The fault that a computation ends in. -/
def faultOf {α : Type} (x : Except Fault α) : Option Fault :=
  match x with
  | .ok _ => none
  | .error f => some f

/-- What a value has to be. -/
inductive Shape where
  | integer
  | mapping
deriving DecidableEq, Repr

/-- **A value that is looked at**, what it has to be, and the message for one that is not. -/
structure Demand where
  message : Text
  value : Value
  shape : Shape

namespace Demand

/-- A value that is what it has to be. -/
def Met (d : Demand) : Prop :=
  match d.shape with
  | .integer => IsInteger d.value
  | .mapping => ∃ m, d.value = .mapping m

/-- A number that has to be an integer and is infinite. -/
def Escapes (d : Demand) : Prop := d.shape = .integer ∧ Infinite d.value

/-- The fault of a value that is not what it has to be. -/
def fault (d : Demand) : Option Fault :=
  match d.shape with
  | .integer => faultOf (checkInteger d.message d.value)
  | .mapping => match d.value with
    | .mapping _ => none
    | v => some (.broker (some (d.message ++ v.quoted)) none)

/-- **A demand is met, or refused with a fault of the broker**, unless its value is infinite. -/
theorem fault_cases (d : Demand) : (d.Met ∧ d.fault = none) ∨
    (¬ d.Met ∧ d.Escapes ∧ d.fault = some (.malformed beyondIntegers)) ∨
    (¬ d.Met ∧ ¬ d.Escapes ∧
      ∃ cause, d.fault = some (.broker (some (d.message ++ d.value.quoted)) cause)) := by
  obtain ⟨message, value, shape⟩ := d
  cases shape with
  | integer =>
    unfold Met Escapes fault
    dsimp only
    obtain ⟨i, hi, hcheck⟩ | ⟨hinf, hno, hcheck⟩ | ⟨hinf, hno, cause, hcheck⟩ :=
      checkInteger_cases message value
    · rw [hcheck]
      exact .inl ⟨⟨i, hi⟩, rfl⟩
    · rw [hcheck]
      exact .inr (.inl ⟨hno, ⟨rfl, hinf⟩, rfl⟩)
    · rw [hcheck]
      exact .inr (.inr ⟨hno, fun h => hinf h.2, cause, rfl⟩)
  | mapping =>
    cases value with
    | mapping m => exact .inl ⟨⟨m, rfl⟩, rfl⟩
    | _ => exact .inr (.inr ⟨nofun, nofun, none, rfl⟩)

theorem fault_eq_none_iff {d : Demand} : d.fault = none ↔ d.Met := by
  obtain ⟨hmet, hfault⟩ | ⟨hmet, _, hfault⟩ | ⟨hmet, _, _, hfault⟩ := d.fault_cases
  · rw [hfault]
    exact ⟨fun _ => hmet, fun _ => rfl⟩
  · rw [hfault]
    exact ⟨nofun, fun h => absurd h hmet⟩
  · rw [hfault]
    exact ⟨nofun, fun h => absurd h hmet⟩

end Demand

/-- What a mapping has under a name, if this is not nothing. -/
def settingIn (m : Mapping) (name : Text) : Option Value :=
  (Mapping.get m name).filter fun v => !v.isNull

/-- A setting that is given has a value, any other has none or nothing as its value. -/
theorem settingIn_cases (m : Mapping) (name : Text) :
    (settingIn m name = none ∧ Mapping.get m name = none) ∨
      (settingIn m name = none ∧ Mapping.get m name = some .null) ∨
      ∃ v, settingIn m name = some v ∧ Mapping.get m name = some v ∧ v.isNull = false := by
  unfold settingIn
  cases Mapping.get m name with
  | none => exact .inl ⟨rfl, rfl⟩
  | some v =>
    rw [Option.filter_some]
    cases hnull : v.isNull with
    | true =>
      rw [Value.isNull_iff.1 hnull]
      exact .inr (.inl ⟨rfl, rfl⟩)
    | false => exact .inr (.inr ⟨v, rfl, rfl, hnull⟩)

/-- What is demanded of a size of a quota. -/
def sizeDemands (q : Mapping) (size : Text) : List Demand :=
  (settingIn q size).toList.map fun v => ⟨invalidQuota, v, .integer⟩

/-- What is demanded of a quota: a mapping, in which the limit and the warning are integers. -/
def quotaDemands (v : Value) : List Demand :=
  ⟨invalidQuota, v, .mapping⟩ :: match v with
    | .mapping q => sizeDemands q limit ++ sizeDemands q warn
    | _ => []

/-- What is demanded of a period. -/
def periodDemand (v : Value) : Demand := ⟨invalidRetention, v, .integer⟩

/-- What is demanded of retention classes: a mapping to integers. -/
def retentionDemands (v : Value) : List Demand :=
  ⟨invalidRetention, v, .mapping⟩ :: match v with
    | .mapping cs => cs.map fun e => periodDemand e.2
    | _ => []

/-- **What is demanded of parameters**, in the order in which it is looked at. -/
def demands (m : Mapping) : List Demand :=
  (settingIn m quota).toList.flatMap quotaDemands ++
    ((settingIn m defaultRetention).toList.map periodDemand ++
      (settingIn m retention).toList.flatMap retentionDemands)

/-! ## 3. The first refusal -/

theorem faultOf_map {α β : Type} (x : Except Fault α) (g : α → β) :
    faultOf (x.map g) = faultOf x := by
  cases x <;> rfl

theorem faultOf_bind {α β : Type} (x : Except Fault α) (g : α → Except Fault β) :
    faultOf (x >>= g) = match x with
      | .ok a => faultOf (g a)
      | .error f => some f := by
  cases x <;> rfl

theorem faultOf_checkEntry (q : Mapping) (size : Text) :
    faultOf (checkEntry invalidQuota size q) = (sizeDemands q size).findSome? Demand.fault := by
  unfold checkEntry sizeDemands settingIn
  cases Mapping.get q size with
  | none => rfl
  | some v =>
    dsimp only
    rw [Option.filter_some]
    cases hv : v.isNull with
    | true => rfl
    | false =>
      show faultOf ((checkInteger invalidQuota v).map _) = _
      rw [faultOf_map]
      exact (List.findSome?_singleton ..).symm

/-- **A quota is refused as the first of its parts.** -/
theorem faultOf_checkQuota (v : Value) :
    faultOf (checkQuota v) = (quotaDemands v).findSome? Demand.fault := by
  cases v with
  | mapping q =>
    have hlimit := faultOf_checkEntry q limit
    unfold checkQuota quotaDemands
    rw [List.findSome?_cons]
    show _ = List.findSome? _ _
    rw [List.findSome?_append, ← hlimit]
    dsimp only
    rw [faultOf_bind]
    cases hq : checkEntry invalidQuota limit q with
    | error f => rfl
    | ok q₁ =>
      have hwarn : sizeDemands q₁ warn = sizeDemands q warn := by
        rw [sizeDemands, settingIn, (checkEntry_eq_ok hq).2 warn limit_ne_warn.symm]
        rfl
      show faultOf ((checkEntry invalidQuota warn q₁).map _) = List.findSome? _ _
      rw [faultOf_map, faultOf_checkEntry, hwarn]
  | _ => rfl

/-- **Retention classes are refused as the first of their periods.** -/
theorem faultOf_checkValues (cs : Mapping) :
    faultOf (checkValues invalidRetention cs) =
      (cs.map fun e => periodDemand e.2).findSome? Demand.fault := by
  induction cs with
  | nil => rfl
  | cons e cs ih =>
    unfold checkValues at ih ⊢
    have hperiod : (periodDemand e.2).fault = faultOf (checkInteger invalidRetention e.2) := rfl
    rw [List.mapM_cons, faultOf_bind, List.map_cons, List.findSome?_cons, hperiod]
    cases checkInteger invalidRetention e.2 with
    | error f => rfl
    | ok w =>
      show faultOf (Except.map _ (List.mapM _ cs)) = _
      rw [faultOf_map]
      exact ih

theorem faultOf_checkRetention (v : Value) :
    faultOf (checkRetention v) = (retentionDemands v).findSome? Demand.fault := by
  cases v with
  | mapping cs =>
    show faultOf ((checkValues invalidRetention cs).map _) = List.findSome? _ _
    rw [faultOf_map]
    exact faultOf_checkValues cs
  | _ => rfl

/-- The fault of a check, if its setting is there. -/
def checkFault (m : Mapping) (c : Text × (Value → Except Fault Value)) : Option Fault :=
  (settingIn m c.1).bind fun v => faultOf (c.2 v)

/-- An entry that has been replaced had no fault. -/
theorem checkFault_of_replaced {c : Text × (Value → Except Fault Value)} {a : Option Value}
    (h : Replaced c.2 (Mapping.get m c.1) a) : checkFault m c = none := by
  unfold checkFault settingIn
  generalize Mapping.get m c.1 = entry at h
  cases h with
  | missing => rfl
  | null => rfl
  | read hv hcheck =>
    rw [Option.filter_some, hv]
    show faultOf (c.2 _) = none
    rw [hcheck]
    rfl

/-- **The checks fail as the first one of them does**, each for its own setting as it came. -/
theorem fault_checkAll {cs : List (Text × (Value → Except Fault Value))}
    (hnodup : (cs.map Prod.fst).Nodup) : (checkAll cs m).fault = cs.findSome? (checkFault m) := by
  induction cs generalizing m with
  | nil => rfl
  | cons c cs ih =>
    rw [List.map_cons, List.nodup_cons] at hnodup
    obtain ⟨hc, hnodup⟩ := hnodup
    rw [List.findSome?_cons]
    obtain ⟨w, f, hw, hnull, hf, hfault⟩ | ⟨m₁, heq, hreplaced, hother⟩ := checkAll_cons c cs m
    · have hsetting : checkFault m c = some f := by
        rw [checkFault, settingIn, hw, Option.filter_some, hnull]
        show faultOf (c.2 w) = some f
        rw [hf]
        rfl
      rw [hfault, hsetting]
    · have hlater : ∀ d ∈ cs, checkFault m₁ d = checkFault m d := by
        intro d hd
        have hne : d.1 ≠ c.1 := fun h => hc (h ▸ List.mem_map_of_mem hd)
        rw [checkFault, settingIn, hother d.1 hne]
        rfl
      rw [heq, ih hnodup, checkFault_of_replaced hreplaced, ← Function.id_comp (checkFault m₁),
        ← List.findSome?_map, List.map_congr_left hlater, List.findSome?_map]
      rfl

/-- **The check of parameters fails as the first demand that is refused.** -/
theorem fault_check (m : Mapping) :
    (check (.mapping m)).fault = (demands m).findSome? Demand.fault := by
  have hquota : checkFault m (quota, checkQuota) =
      ((settingIn m quota).toList.flatMap quotaDemands).findSome? Demand.fault := by
    unfold checkFault
    cases settingIn m quota with
    | none => rfl
    | some v =>
      rw [Option.toList_some, List.flatMap_singleton]
      exact faultOf_checkQuota v
  have hperiod : checkFault m (defaultRetention, checkInteger invalidRetention) =
      ((settingIn m defaultRetention).toList.map periodDemand).findSome? Demand.fault := by
    unfold checkFault
    cases settingIn m defaultRetention with
    | none => rfl
    | some v => exact (List.findSome?_singleton ..).symm
  have hretention : checkFault m (retention, checkRetention) =
      ((settingIn m retention).toList.flatMap retentionDemands).findSome? Demand.fault := by
    unfold checkFault
    cases settingIn m retention with
    | none => rfl
    | some v =>
      rw [Option.toList_some, List.flatMap_singleton]
      exact faultOf_checkRetention v
  have hall : (check (.mapping m)).fault = checks.findSome? (checkFault m) :=
    fault_checkAll checks_nodup
  rw [hall, demands, List.findSome?_append, List.findSome?_append, ← hquota, ← hperiod,
    ← hretention]
  simp only [checks, List.findSome?_cons, List.findSome?_nil]
  cases checkFault m (quota, checkQuota) with
  | some f => rfl
  | none =>
    cases checkFault m (defaultRetention, checkInteger invalidRetention) with
    | some f => rfl
    | none => cases checkFault m (retention, checkRetention) <;> rfl

/-! ## 4. What comes through -/

/-- **A mapping with the same keys**, in which no other values have changed than those of some
names. -/
def Kept (names : List Text) (m m' : Mapping) : Prop :=
  List.Forall₂ (fun e e' => e'.1 = e.1 ∧
    ((∀ name ∈ names, ¬ (Value.text name).equal e.1) → e'.2 = e.2)) m m'

variable {names : List Text}

theorem Kept.keys (h : Kept names m m') : Mapping.keys m' = Mapping.keys m := by
  unfold Mapping.keys
  induction h with
  | nil => rfl
  | cons he _ ih => rw [List.map_cons, List.map_cons, he.1, ih]

theorem Kept.refl (names : List Text) (m : Mapping) : Kept names m m :=
  List.forall₂_same.2 fun _ _ => ⟨rfl, fun _ => rfl⟩

theorem Kept.trans {m'' : Mapping} (h : Kept names m m') (h' : Kept names m' m'') :
    Kept names m m'' := by
  unfold Kept at h h' ⊢
  induction h generalizing m'' with
  | nil => exact h'
  | cons he _ ih =>
    obtain ⟨e'', rest, he', hrest, rfl⟩ := List.forall₂_cons_left_iff.1 h'
    refine .cons ⟨he'.1.trans he.1, fun hother => ?_⟩ (ih hrest)
    have hother' := hother
    rw [← he.1] at hother'
    exact (he'.2 hother').trans (he.2 hother)

/-- Setting a name that is there changes the value of that name only. -/
theorem kept_set (hname : name ∈ names) (h : Mapping.get m name = some v) (w : Value) :
    Kept names m (Mapping.set m name w) := by
  induction m with
  | nil => cases h
  | cons e m ih =>
    obtain ⟨k, u⟩ := e
    rw [Mapping.get_cons] at h
    rw [Mapping.set, Mapping.insert]
    by_cases hk : (Value.text name).equal k
    · rw [if_pos hk]
      exact .cons ⟨rfl, fun hother => absurd hk (hother name hname)⟩ (Kept.refl names m)
    · rw [if_neg hk] at h ⊢
      exact .cons ⟨rfl, fun _ => rfl⟩ (ih h)

theorem kept_checkEntry (hname : name ∈ names) (h : checkEntry message name m = .ok m') :
    Kept names m m' := by
  unfold checkEntry at h
  split at h
  next =>
    cases h
    exact Kept.refl names m
  next v hv =>
    split at h
    next =>
      cases h
      exact Kept.refl names m
    next =>
      obtain ⟨w, _, rfl⟩ := map_eq_ok.1 h
      exact kept_set hname hv w

/-- The checks change the values of their own settings only. -/
theorem kept_checkAll {cs : List (Text × (Value → Except Fault Value))}
    (hcs : ∀ c ∈ cs, c.1 ∈ names) (h : (checkAll cs m).parameters = .mapping m') :
    Kept names m m' := by
  induction cs generalizing m with
  | nil =>
    cases h
    exact Kept.refl names _
  | cons c cs ih =>
    obtain ⟨name, check⟩ := c
    obtain ⟨hname, hcs⟩ := List.forall_mem_cons.1 hcs
    rw [checkAll] at h
    split at h
    · exact ih hcs h
    next v hv =>
      split at h
      · exact ih hcs h
      · split at h
        next w _ => exact (kept_set hname hv w).trans (ih hcs h)
        next =>
          cases h
          exact Kept.refl names _

/-- **What has become of an entry**: one that is absent has stayed as it was, and any other one holds
what its value became. -/
inductive Became (R : Value → Value → Prop) : Option Value → Option Value → Prop where
  | absent {a : Option Value} (h : Absent a) : Became R a a
  | read {v w : Value} (h : R v w) : Became R (some v) (some w)

theorem Replaced.became {check : Value → Except Fault Value} {R : Value → Value → Prop}
    {a c : Option Value} (h : Replaced check a c) (hR : ∀ v w, check v = .ok w → R v w) :
    Became R a c := by
  cases h with
  | missing => exact .absent (.inl rfl)
  | null => exact .absent (.inr rfl)
  | read _ hcheck => exact .read (hR _ _ hcheck)

/-- The integer that a value is read as. -/
def IntegerFor (v w : Value) : Prop := ∃ i, Reads v i ∧ w = .int i

/-- A quota with the integers that its sizes are read as. -/
def QuotaFor (v w : Value) : Prop :=
  ∃ q q', v = .mapping q ∧ w = .mapping q' ∧ Kept [limit, warn] q q' ∧
    ∀ size, size = limit ∨ size = warn →
      Became IntegerFor (Mapping.get q size) (Mapping.get q' size)

/-- Retention classes with the integers that their periods are read as. -/
def ClassesFor (v w : Value) : Prop :=
  ∃ cs cs', v = .mapping cs ∧ w = .mapping cs' ∧
    List.Forall₂ (fun e e' => e'.1 = e.1 ∧ IntegerFor e.2 e'.2) cs cs'

theorem integerFor_of_checkInteger (h : checkInteger message v = .ok w) : IntegerFor v w :=
  checkInteger_eq_ok.1 h

theorem quotaFor_of_checkQuota (h : checkQuota v = .ok w) : QuotaFor v w := by
  obtain ⟨q, q', rfl, rfl, hsizes⟩ := checkQuota_eq_ok h
  obtain ⟨q₁, h₁, h⟩ := bind_eq_ok.1 h
  obtain ⟨q₂, h₂, h⟩ := bind_eq_ok.1 h
  cases h
  refine ⟨q, q', rfl, rfl, ?_, fun size hsize => ?_⟩
  · exact (kept_checkEntry (by simp) h₁).trans (kept_checkEntry (by simp) h₂)
  · exact (hsizes size hsize).became fun _ _ => integerFor_of_checkInteger

theorem classesFor_of_checkRetention (h : checkRetention v = .ok w) : ClassesFor v w := by
  obtain ⟨cs, cs', rfl, rfl, hall⟩ := checkRetention_eq_ok h
  refine ⟨cs, cs', rfl, rfl, hall.imp ?_⟩
  rintro e e' ⟨i, hi, rfl⟩
  exact ⟨rfl, i, hi, rfl⟩

/-- **Parameters with the integers that their settings are read as**, and otherwise unchanged. -/
structure Normalised (m m' : Mapping) : Prop where
  kept : Kept [Settings.quota, Settings.defaultRetention, Settings.retention] m m'
  quota : Became QuotaFor (Mapping.get m Settings.quota) (Mapping.get m' Settings.quota)
  defaultRetention : Became IntegerFor
    (Mapping.get m Settings.defaultRetention) (Mapping.get m' Settings.defaultRetention)
  retention : Became ClassesFor (Mapping.get m Settings.retention) (Mapping.get m' Settings.retention)

theorem normalised_of_check (h : check (.mapping m) = ⟨.mapping m', none⟩) : Normalised m m' := by
  have hsettled := (settles_of_check h).toSettled
  have hparameters : (checkAll checks m).parameters = .mapping m' := congrArg Checked.parameters h
  exact {
    kept := kept_checkAll (by simp [checks]) hparameters
    quota := hsettled.quota.became fun _ _ => quotaFor_of_checkQuota
    defaultRetention := hsettled.defaultRetention.became fun _ _ => integerFor_of_checkInteger
    retention := hsettled.retention.became fun _ _ => classesFor_of_checkRetention }

/-- Settings that have been replaced are not replaced again. -/
theorem checkAll_of_replaced {cs : List (Text × (Value → Except Fault Value))}
    (h : ∀ c ∈ cs, Replaced c.2 (Mapping.get m c.1) (Mapping.get m c.1)) :
    checkAll cs m = ⟨.mapping m, none⟩ := by
  induction cs with
  | nil => rfl
  | cons c cs ih =>
    obtain ⟨name, check⟩ := c
    obtain ⟨hreplaced, hrest⟩ := List.forall_mem_cons.1 h
    dsimp only at hreplaced
    rw [checkAll]
    generalize hentry : Mapping.get m name = entry at hreplaced
    cases hreplaced with
    | missing => exact ih hrest
    | null => exact ih hrest
    | @read v _ hv hcheck =>
      dsimp only
      rw [if_neg (by rw [hv]; exact Bool.false_ne_true), hcheck]
      dsimp only
      rw [Mapping.set_of_get hentry]
      exact ih hrest

/-- **The check changes nothing in what it has made itself.** -/
theorem check_again (h : check (.mapping m) = ⟨.mapping m', none⟩) :
    check (.mapping m') = ⟨.mapping m', none⟩ := by
  have hsettled := (settles_of_check h).toSettled
  refine checkAll_of_replaced fun c hc => ?_
  have hmem : c = (quota, checkQuota) ∨ c = (defaultRetention, checkInteger invalidRetention) ∨
      c = (retention, checkRetention) := by
    simpa [checks] using hc
  rcases hmem with rfl | rfl | rfl
  · exact hsettled.quota.again stable_checkQuota
  · exact hsettled.defaultRetention.again (stable_checkInteger _)
  · exact hsettled.retention.again stable_checkRetention

/-! ## 5. Both ends of the check -/

/-- **The check lets parameters through, or refuses them for the first demand that is not met.** If
every demand is met, each setting comes out as the integer that it is read as, all keys and all
other values are as they were, and another check changes nothing. Otherwise the check fails with a
fault of the broker that shows the value -- unless the value is an infinite number where an integer
is demanded; then it fails as the reading of the number does. A limit of 4300 digits on the integers
that are shown is not modelled. -/
theorem check_passes_or_refuses (m : Mapping) :
    ((∀ d ∈ demands m, d.Met) ∧ ∃ m', check (.mapping m) = ⟨.mapping m', none⟩ ∧
      Normalised m m' ∧ Mapping.keys m' = Mapping.keys m ∧
      check (.mapping m') = ⟨.mapping m', none⟩) ∨
    ∃ before d after f, demands m = before ++ d :: after ∧ (∀ e ∈ before, e.Met) ∧ ¬ d.Met ∧
      (check (.mapping m)).fault = some f ∧
      (¬ d.Escapes → ∃ cause, f = .broker (some (d.message ++ d.value.quoted)) cause) ∧
      (d.Escapes → f = .malformed beyondIntegers) := by
  cases hfault : (check (.mapping m)).fault with
  | none =>
    left
    refine ⟨fun d hd => ?_, ?_⟩
    · rw [fault_check, List.findSome?_eq_none_iff] at hfault
      exact Demand.fault_eq_none_iff.1 (hfault d hd)
    · obtain ⟨m', hm', _⟩ := check_passed hfault
      have hcheck : check (.mapping m) = ⟨.mapping m', none⟩ := by
        rw [← hm', ← hfault]
      have hnormalised := normalised_of_check hcheck
      exact ⟨m', hcheck, hnormalised, hnormalised.kept.keys, check_again hcheck⟩
  | some f =>
    right
    have hfirst := hfault
    rw [fault_check, List.findSome?_eq_some_iff] at hfirst
    obtain ⟨before, d, after, hdemands, hd, hbefore⟩ := hfirst
    refine ⟨before, d, after, f, hdemands, fun e he => ?_, ?_⟩
    · exact Demand.fault_eq_none_iff.1 (hbefore e he)
    · obtain ⟨_, hnone⟩ | ⟨hmet, hescapes, hsome⟩ | ⟨hmet, hescapes, cause, hsome⟩ := d.fault_cases
      · cases hd.symm.trans hnone
      · cases hd.symm.trans hsome
        exact ⟨hmet, rfl, fun h => absurd hescapes h, fun _ => rfl⟩
      · cases hd.symm.trans hsome
        exact ⟨hmet, rfl, fun _ => ⟨cause, rfl⟩, fun h => absurd h hescapes⟩

/-- **An infinite limit escapes the broker's report**: the check fails, and with no fault of the
broker. -/
theorem infinite_limit_escapes :
    ∃ f, (check (.mapping [(.text quota, .mapping [(.text limit, .float (1.0 / 0.0))])])).fault =
      some f ∧ f.isBroker = false := by
  have hescapes : (check (.mapping [(.text quota,
      .mapping [(.text limit, .float (1.0 / 0.0))])])).fault.any fun f => !f.isBroker := by
    decide +kernel
  obtain ⟨f, hf, hbroker⟩ := (Option.any_eq_true _ _).1 hescapes
  exact ⟨f, hf, by simpa using hbroker⟩

end Settings

end StorageBroker
