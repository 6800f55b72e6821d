import StorageBroker.Proofs.Record
import StorageBroker.Proofs.Settings.Refusal
/-!
# The body that creates a bucket

A bucket is created with the settings of its request. The body of the creation has one field for
each of them: the head type is sent as it is given, the others as truth values, and what is not given
is left out, but for the access to files, which is then refused. So a body is told by what these
settings come to, and a switch that is turned over makes another body. Compliance is the exception.
It is a setting of buckets as it is one of namespaces, but the body has no field for it.

* `BucketSetting` -- the settings of buckets, and `BucketSetting.field?`, where they are sent;
* `BucketSetting.told` -- what a body says of a setting;
* `bucketCreate_mapping` -- the record of a creation, setting by setting;
* `creation_body_tells_settings` -- what a body holds, and which settings make the same body;
* `compliance_untold` -- a bucket with compliance and one without it.
-/

namespace StorageBroker

open Settings (settingIn settingIn_cases)

/-! ## 1. Settings of buckets -/

/-- The settings that buckets are created with. -/
inductive BucketSetting where
  | fileAccess
  | headType
  | staleReads
  | encryption
  | outageAccess
  | compliance
deriving DecidableEq, Repr

namespace BucketSetting

/-- Every setting, in the order in which a body has their fields. -/
def all : List BucketSetting :=
  [fileAccess, headType, staleReads, encryption, outageAccess, compliance]

variable {x y : BucketSetting} {m m' : Mapping} {f : Text}

/-- The name under which a setting is given. -/
def key : BucketSetting → Text
  | fileAccess => Settings.fileAccessible
  | headType => Settings.headType
  | staleReads => Settings.staleAllowed
  | encryption => Settings.encrypted
  | outageAccess => Settings.accessDuringOutage
  | compliance => Settings.complianceEnabled

/-- **The field in which a setting is sent**, if there is one. -/
def field? : BucketSetting → Option Text
  | fileAccess => some "filesystem_enabled"
  | headType => some "head_type"
  | staleReads => some "is_stale_allowed"
  | encryption => some "is_encryption_enabled"
  | outageAccess => some "is_tso_read_only"
  | compliance => none

/-- A value as it is sent: the head type as it is, any other as a truth value. -/
def shown (x : BucketSetting) (v : Value) : Value :=
  match x with
  | headType => v
  | _ => .bool v.truthy

/-- What is sent for a setting that is not given. -/
def fallback : BucketSetting → Option Value
  | fileAccess => some (.bool false)
  | _ => none

/-- **What a body says of a setting.** -/
def told (x : BucketSetting) (m : Mapping) : Option Value :=
  ((settingIn m x.key).map x.shown).or x.fallback

/-- **Parameters that give a setting the other way round.** -/
def Flipped (x : BucketSetting) (m m' : Mapping) : Prop :=
  ∃ v v', settingIn m x.key = some v ∧ settingIn m' x.key = some v' ∧ v.truthy ≠ v'.truthy

/-- No two settings are sent in one field. -/
theorem field?_injective (hx : x.field? = some f) (hy : y.field? = some f) : x = y := by
  have h := hx.trans hy.symm
  cases x <;> cases y <;> first | rfl | exact absurd h (by decide)

theorem field?_eq_none_iff : x.field? = none ↔ x = compliance := by cases x <;> simp [field?]

/-- What is given is told. -/
theorem told_of_given {v : Value} (h : settingIn m x.key = some v) :
    x.told m = some (x.shown v) := by
  rw [told, h]
  rfl

/-- What is told of a setting is never nothing, so it is not left out where it is written. -/
theorem filter_told (x : BucketSetting) (m : Mapping) :
    (some ((x.told m).getD .null)).filter (fun v => !v.isNull) = x.told m := by
  unfold told
  cases hgiven : settingIn m x.key with
  | none => cases x <;> rfl
  | some v =>
    have hnull : v.isNull = false := by
      simpa using (Option.filter_eq_some_iff.1 hgiven).2
    cases x with
    | headType =>
      show (some v).filter _ = some v
      rw [Option.filter_some, hnull]
      rfl
    | _ => rfl

theorem getD_told (x : BucketSetting) (m : Mapping) :
    (x.told m).getD .null = ((settingIn m x.key).map x.shown).getD (x.fallback.getD .null) := by
  unfold told
  cases settingIn m x.key with
  | none => rfl
  | some v => rfl

/-- A setting that is turned over is told another way. -/
theorem Flipped.told_ne (h : x.Flipped m m') : x.told m' ≠ x.told m := by
  obtain ⟨v, v', hv, hv', hne⟩ := h
  rw [told_of_given hv, told_of_given hv']
  intro heq
  have hshown := Option.some.inj heq
  cases x with
  | headType =>
    have hvalue : v' = v := hshown
    exact hne (congrArg Value.truthy hvalue.symm)
  | _ => exact hne (Value.bool.inj hshown).symm

end BucketSetting

/-! ## 2. The record of a creation -/

namespace Record

open BucketSetting

/-- What a body says of the bucket itself. -/
def identity (name ns group : Value) : Named :=
  [("name", name), ("namespace", ns), ("vpool", group)]

/-- A field with what is sent in it. -/
def sent (m : Mapping) (x : BucketSetting) : Option (Text × Value) :=
  x.field?.map fun f => (f, (x.told m).getD .null)

/-- The record that creates a bucket. -/
def creationOf (name ns group : Value) (m : Mapping) : Record :=
  ofNamed .bucketCreate (identity name ns group ++ all.filterMap (sent m))

/-- A switch is read as what is told of it. -/
theorem flag_mapping (m : Mapping) (key : Text) : flag (.mapping m) key =
    .ok (((settingIn m key).map fun v => .bool v.truthy).getD .null) := by
  show Except.ok (if ((Mapping.get m key).getD .null).isNull then _ else _) = _
  obtain ⟨h, hget⟩ | ⟨h, hget⟩ | ⟨v, h, hget, hnull⟩ := settingIn_cases m key
  · rw [h, hget]
    rfl
  · rw [h, hget]
    rfl
  · rw [h, hget, Option.getD_some, hnull]
    rfl

theorem told_headType (m : Mapping) :
    (headType.told m).getD .null = (Mapping.get m Settings.headType).getD .null := by
  rw [getD_told]
  obtain ⟨h, hget⟩ | ⟨h, hget⟩ | ⟨v, h, hget, _⟩ := settingIn_cases m Settings.headType
  all_goals
    rw [key, h, hget]
    rfl

theorem told_fileAccess (m : Mapping) : (fileAccess.told m).getD .null =
    .bool ((Mapping.get m Settings.fileAccessible).getD (.bool false)).truthy := by
  rw [getD_told]
  obtain ⟨h, hget⟩ | ⟨h, hget⟩ | ⟨v, h, hget, _⟩ := settingIn_cases m Settings.fileAccessible
  all_goals
    rw [key, h, hget]
    rfl

/-- **The record of a creation** is made setting by setting. -/
theorem bucketCreate_mapping (name ns group : Value) (m : Mapping) :
    bucketCreate name ns group (.mapping m) = .ok (creationOf name ns group m) := by
  have hsent : all.filterMap (sent m) = ([
        ("filesystem_enabled", (fileAccess.told m).getD .null),
        ("head_type", (headType.told m).getD .null),
        ("is_stale_allowed", (staleReads.told m).getD .null),
        ("is_encryption_enabled", (encryption.told m).getD .null),
        ("is_tso_read_only", (outageAccess.told m).getD .null)] : Record.Named) := rfl
  rw [creationOf, hsent, told_headType, told_fileAccess, getD_told, getD_told, getD_told]
  simp only [bucketCreate, flag_mapping]
  rfl

/-- **The body of the creation of a bucket.** -/
def creationBody (name ns group parameters : Value) : Except Malformed Value := do
  (← bucketCreate name ns group parameters).toData

/-- The body is the record as it is written. -/
theorem creationBody_mapping (name ns group : Value) (m : Mapping) :
    creationBody name ns group (.mapping m) = .ok (creationOf name ns group m).plainData := by
  have hkind : (creationOf name ns group m).kind ≠ .bucketAcl := by
    intro h
    cases h
  rw [creationBody, bucketCreate_mapping]
  exact toData_of_ne_bucketAcl hkind

/-! ## 3. What a body holds -/

section Body

variable (name ns group : Value) (m : Mapping)

/-- A body has, in the field of a setting, what is told of it. -/
theorem entry_setting {x : BucketSetting} {f : Text} (hf : x.field? = some f) :
    entry (creationOf name ns group m).plainData f = x.told m := by
  have hmem : f ∈ RecordKind.fields .bucketCreate := by
    cases x <;> cases hf <;> decide
  have hgiven : given (identity name ns group ++ all.filterMap (sent m)) f =
      (x.told m).getD .null := by
    cases x <;> cases hf <;> rfl
  rw [entry_plainData, creationOf, Record.field?, ofNamed, valueAt_map, if_pos hmem, hgiven,
    filter_told]

/-- **A body has nothing else**, but for what it says of the bucket. -/
theorem told_of_entry {f : Text} {v : Value}
    (h : entry (creationOf name ns group m).plainData f = some v) :
    (f, v) ∈ identity name ns group ∨
      ∃ x : BucketSetting, x.field? = some f ∧ x.told m = some v := by
  have hfield := h
  rw [entry_plainData, creationOf, Record.field?, ofNamed, valueAt_map,
    Option.filter_eq_some_iff] at hfield
  have hmem : f ∈ RecordKind.fields .bucketCreate := by
    by_contra hmem
    rw [if_neg hmem] at hfield
    cases hfield.1
  rw [if_pos hmem] at hfield
  have hidentity : ∀ w : Value, w = v → (f, w) ∈ identity name ns group →
      (f, v) ∈ identity name ns group ∨
        ∃ x : BucketSetting, x.field? = some f ∧ x.told m = some v := by
    rintro w rfl hw
    exact .inl hw
  have hset : ∀ x : BucketSetting, x.field? = some f → (f, v) ∈ identity name ns group ∨
      ∃ x : BucketSetting, x.field? = some f ∧ x.told m = some v :=
    fun x hx => .inr ⟨x, hx, (entry_setting name ns group m hx).symm.trans h⟩
  simp only [RecordKind.fields, List.mem_cons, List.not_mem_nil, or_false] at hmem
  rcases hmem with rfl | rfl | rfl | rfl | rfl | rfl | rfl | rfl
  · exact hidentity name (Option.some.inj hfield.1) (.head _)
  · exact hidentity ns (Option.some.inj hfield.1) (.tail _ (.head _))
  · exact hidentity group (Option.some.inj hfield.1) (.tail _ (.tail _ (.head _)))
  · exact hset fileAccess rfl
  · exact hset headType rfl
  · exact hset staleReads rfl
  · exact hset encryption rfl
  · exact hset outageAccess rfl

end Body

/-- A body is told by what is told of its settings. -/
theorem creationOf_inj (name ns group : Value) {m m' : Mapping} :
    (creationOf name ns group m').plainData = (creationOf name ns group m).plainData ↔
      ∀ x, x ≠ compliance → x.told m' = x.told m := by
  constructor
  · intro h x hx
    obtain ⟨f, hf⟩ := Option.ne_none_iff_exists'.1 (mt field?_eq_none_iff.1 hx)
    rw [← entry_setting name ns group m hf, ← entry_setting name ns group m' hf, h]
  · intro h
    have hsent : all.filterMap (sent m') = all.filterMap (sent m) := by
      refine List.filterMap_congr fun x _ => ?_
      by_cases hx : x = compliance
      · rw [hx]
        rfl
      · rw [sent, sent, h x hx]
    rw [creationOf, creationOf, hsent]

/-- **A body tells all settings of a bucket but its compliance.** It has each of the others in a
field of its own, and nothing else besides what it says of the bucket itself. Other parameters make
the same body exactly if the same is told of these settings, so not if one of them is turned over;
whatever is given as the compliance makes no difference. -/
theorem creation_body_tells_settings (name ns group : Value) (m : Mapping) :
    ∃ body, creationBody name ns group (.mapping m) = .ok body ∧
      (∀ (x : BucketSetting) f, x.field? = some f →
        entry body f = x.told m ∧ ∀ y : BucketSetting, y.field? = some f → y = x) ∧
      (∀ f v, entry body f = some v → (f, v) ∈ identity name ns group ∨
        ∃ x : BucketSetting, x.field? = some f ∧ x.told m = some v) ∧
      (∀ m', creationBody name ns group (.mapping m') = .ok body ↔
        ∀ x, x ≠ compliance → x.told m' = x.told m) ∧
      ∀ m' x, x.Flipped m m' → x ≠ compliance →
        creationBody name ns group (.mapping m') ≠ .ok body := by
  have hsame : ∀ m', creationBody name ns group (.mapping m') =
      .ok (creationOf name ns group m).plainData ↔ ∀ x, x ≠ compliance → x.told m' = x.told m := by
    intro m'
    rw [creationBody_mapping, Except.ok.injEq, creationOf_inj]
  refine ⟨_, creationBody_mapping name ns group m, ?_, ?_, hsame, ?_⟩
  · intro x f hf
    exact ⟨entry_setting name ns group m hf, fun y hy => field?_injective hy hf⟩
  · intro f v h
    exact told_of_entry name ns group m h
  · intro m' x hflipped hx h
    exact hflipped.told_ne ((hsame m').1 h x hx)

/-- A bucket that is to be compliant and one that is not are created with the same body, and nothing
in it is true. -/
theorem compliance_untold :
    let compliant (v : Bool) : Value := .mapping [(.text "compliance-enabled", .bool v)]
    let body (v : Bool) := creationBody (.text "b") (.text "ns") (.text "rg") (compliant v)
    body true = body false ∧
      ∃ data, body true = .ok data ∧ ∀ f, entry data f ≠ some (.bool true) := by
  intro compliant body
  have hbody : ∀ v, body v = .ok (.mapping (Mapping.ofNamed
      [("name", .text "b"), ("namespace", .text "ns"), ("vpool", .text "rg"),
        ("filesystem_enabled", .bool false)])) := by
    intro v
    have htold : ∀ x : BucketSetting, x ≠ compliance →
        x.told [(.text "compliance-enabled", .bool v)] = x.told [] := by
      intro x hx
      rw [told, settingIn, Mapping.get_cons, Mapping.text_equal_text]
      cases x <;> first | exact absurd rfl hx | rfl
    have hplain := (creationOf_inj (.text "b") (.text "ns") (.text "rg")).2 htold
    exact (creationBody_mapping _ _ _ _).trans (congrArg Except.ok hplain)
  refine ⟨(hbody true).trans (hbody false).symm, _, hbody true, ?_⟩
  intro f h
  rw [entry_ofNamed, Option.map_eq_some_iff] at h
  obtain ⟨e, he, hvalue⟩ := h
  have hmem := List.mem_of_find?_eq_some he
  simp only [List.mem_cons, List.not_mem_nil, or_false] at hmem
  rcases hmem with rfl | rfl | rfl | rfl
  all_goals cases hvalue

end Record

end StorageBroker
