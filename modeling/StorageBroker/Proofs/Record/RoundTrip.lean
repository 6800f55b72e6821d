import Mathlib.Data.List.Nodup
import StorageBroker.Proofs.Management.Access
import StorageBroker.Proofs.Value.Keys
/-!
# Records that are written and read again

A record is written as an object of those fields that are set, and it is read from an object by
picking its fields out. Each undoes the other: what was written is read as the same record, and what
was read is written as the object again, less the entries that are no fields and those that are
null. An entry of an access list has a list of permissions in any case, and an access list nests the
objects of its entries.

* `ofFields`, `kept` -- the record of an object, and the object that is left of it;
* `Formed`, `formed_of_make` -- records with all their values, and that they are made so;
* `ofData_mapping` -- every object is read as its record;
* `toData_ofFields` -- the record is written as what is left of the object;
* `ofData_toData` -- a record is read again from what it was written as;
* `records_survive_encoding` -- the three for all kinds of records.
-/

namespace StorageBroker

/-- A kind whose records are written as the object of their fields. -/
def RecordKind.IsPlain (kind : RecordKind) : Prop := kind ≠ .bucketAcl ∧ kind ≠ .bucketPolicy

instance (kind : RecordKind) : Decidable kind.IsPlain := inferInstanceAs (Decidable (_ ∧ _))

namespace Record

open Management (contains_of_mem_fieldEntries isObject_ofNamed itemsOrNone_list
  makePlain_fieldEntries makePlain_of_fields ofData_of_entries)

variable {kind : RecordKind} {d : Mapping} {r : Record}

/-! ## 1. Objects of records -/

/-- **The record of an object**: what it has for each field. -/
def ofFields (kind : RecordKind) (d : Mapping) : Record :=
  ⟨kind, kind.fields.map fun name => (Mapping.get d name).getD .null⟩

/-- Whether a key names a field. -/
def isField (kind : RecordKind) : Value → Bool
  | .text name => kind.fields.contains name
  | _ => false

/-- **What is left of an object**: the fields that are set. -/
def kept (kind : RecordKind) (d : Mapping) : Mapping :=
  d.filter fun e => isField kind e.1 && !e.2.isNull

/-- What counts as the permissions of an object. -/
def permissionOf (d : Mapping) : Value := (Mapping.get d "permission").getD .null

/-- **An object with its permissions**: for an entry of an access list no permissions are an empty
list of them. -/
def completed (kind : RecordKind) (d : Mapping) : Mapping :=
  if kind = .userAcl ∧ (permissionOf d).truthy = false then Mapping.set d "permission" (.list [])
  else d

/-- The permissions of an entry of an access list, if there are any, are a list. -/
def PermissionsListed (kind : RecordKind) (d : Mapping) : Prop :=
  kind = .userAcl → (permissionOf d).truthy → ∃ xs, permissionOf d = .list xs

/-- **A record with all its values**; the permissions of an entry of an access list are a list. -/
structure Formed (r : Record) : Prop where
  complete : r.values.length = r.kind.fields.length
  permissions : r.kind = .userAcl → ∃ xs, r.field "permission" = .list xs

/-! ## 2. Reading an object -/

theorem fieldEntries_cons_field {name : Text} {w : Value} (h : name ∈ kind.fields) :
    fieldEntries kind ((.text name, w) :: d) = (name, w) :: fieldEntries kind d := by
  rw [fieldEntries, List.filterMap_cons]
  simp only [List.contains_iff_mem.2 h, if_true]
  rfl

/-- **What is given for a field** is what the object has for it. -/
theorem given_fieldEntries {name : Text} (h : name ∈ kind.fields) (d : Mapping) :
    given (fieldEntries kind d) name = (Mapping.get d name).getD .null := by
  induction d with
  | nil => rfl
  | cons e d ih =>
    obtain ⟨k, w⟩ := e
    rw [Mapping.get_cons]
    by_cases hk : (Value.text name).equal k
    · obtain rfl := Value.equal_text_iff.1 hk
      rw [if_pos hk, fieldEntries_cons_field h, given, List.find?_cons_of_pos (by simp)]
      rfl
    · rw [if_neg hk, ← ih]
      have hskip : fieldEntries kind ((k, w) :: d) = fieldEntries kind d ∨
          ∃ n, n ≠ name ∧ fieldEntries kind ((k, w) :: d) = (n, w) :: fieldEntries kind d := by
        cases k with
        | text n =>
          by_cases hn : n ∈ kind.fields
          · refine .inr ⟨n, ?_, fieldEntries_cons_field hn⟩
            rintro rfl
            exact hk (Value.equal_text_iff.2 rfl)
          · have hcontains : kind.fields.contains n = false := by simpa using hn
            left
            rw [fieldEntries, List.filterMap_cons]
            simp only [hcontains, Bool.false_eq_true, if_false]
            rfl
        | _ => exact .inl rfl
      rcases hskip with hskip | ⟨n, hne, hskip⟩
      · rw [hskip]
      · rw [hskip, given, given, List.find?_cons_of_neg (by simpa using hne)]

theorem mem_fields_of_mem_fieldEntries {e : Text × Value} (h : e ∈ fieldEntries kind d) :
    e.1 ∈ kind.fields :=
  List.contains_iff_mem.1 (contains_of_mem_fieldEntries h)

/-- Nothing is given under a name that is no field. -/
theorem given_fieldEntries_of_not_mem {name : Text} (h : name ∉ kind.fields) :
    given (fieldEntries kind d) name = .null := by
  have hnone : (fieldEntries kind d).find? (fun e => e.1 == name) = none := by
    refine List.find?_eq_none.2 fun e he heq => h ?_
    rw [← eq_of_beq heq]
    exact mem_fields_of_mem_fieldEntries he
  rw [given, hnone]
  rfl

theorem ofNamed_fieldEntries (kind : RecordKind) (d : Mapping) :
    ofNamed kind (fieldEntries kind d) = ofFields kind d :=
  congrArg (Record.mk kind) (List.map_congr_left fun _ h => given_fieldEntries h d)

/-- A record depends on what is given for each name. -/
theorem ofNamed_congr {named named' : Named} (h : ∀ name, given named name = given named' name) :
    ofNamed kind named = ofNamed kind named' :=
  congrArg (Record.mk kind) (List.map_congr_left fun name _ => h name)

section Quota

variable {named : Named} {name : Text} {v : Value}

theorem mem_withDefault {e : Text × Value} (h : e ∈ withDefault named name v) :
    e ∈ named ∨ e = (name, v) := by
  unfold withDefault at h
  split at h
  · exact .inl h
  · exact (List.mem_append.1 h).imp_right List.mem_singleton.1

/-- To give nothing by default changes nothing. -/
theorem given_withDefault_null (named : Named) (name other : Text) :
    given (withDefault named name .null) other = given named other := by
  unfold withDefault
  split
  · rfl
  · rw [given, given, List.find?_append]
    cases named.find? fun e => e.1 == other with
    | some e => rfl
    | none =>
      rw [Option.none_or, List.find?_singleton]
      split
      · rfl
      · rfl

/-- Neither of the other names of a size is given by an object. -/
theorem makeQuota_fieldEntries (d : Mapping) :
    makeQuota (fieldEntries .namespaceQuota d) = .ok (ofFields .namespaceQuota d) := by
  have hown : (fieldEntries .namespaceQuota d).filter
      (fun e => !List.contains (["block_size", "notification_size"] : List Text) e.1) =
        fieldEntries .namespaceQuota d := by
    refine List.filter_eq_self.2 fun e he => ?_
    have hfields : ∀ name ∈ RecordKind.fields .namespaceQuota,
        (!List.contains (["block_size", "notification_size"] : List Text) name) = true := by decide
    exact hfields e.1 (mem_fields_of_mem_fieldEntries he)
  rw [makeQuota, hown, given_fieldEntries_of_not_mem (by decide),
    given_fieldEntries_of_not_mem (by decide), makePlain_of_fields, ← ofNamed_fieldEntries]
  · refine congrArg Except.ok (ofNamed_congr fun name => ?_)
    rw [given_withDefault_null, given_withDefault_null]
  · intro e he
    rcases mem_withDefault he with he | rfl
    · rcases mem_withDefault he with he | rfl
      · exact mem_fields_of_mem_fieldEntries he
      · decide
    · decide

end Quota

/-- **A record is made of the fields of an object**, unless it is an entry of an access list. -/
theorem make_fieldEntries (h : kind ≠ .userAcl) (d : Mapping) :
    make kind (fieldEntries kind d) = .ok (ofFields kind d) := by
  cases kind with
  | userAcl => exact absurd rfl h
  | namespaceQuota => exact makeQuota_fieldEntries d
  | _ =>
    rw [← ofNamed_fieldEntries]
    exact makePlain_fieldEntries _ d

/-- An entry of an access list is made of the user and the permissions of an object. -/
theorem make_userAcl_fieldEntries (d : Mapping) : make .userAcl (fieldEntries .userAcl d) =
    userAcl ((Mapping.get d "user").getD .null) (permissionOf d) := by
  have hnone : ((fieldEntries .userAcl d).map Prod.fst).filter
      (fun name => !(RecordKind.fields .userAcl).contains name) = [] := by
    refine List.filter_eq_nil_iff.2 fun name hname => ?_
    obtain ⟨e, he, rfl⟩ := List.mem_map.1 hname
    rw [contains_of_mem_fieldEntries he]
    exact Bool.false_ne_true
  rw [make, hnone]
  dsimp only
  rw [given_fieldEntries (by decide), given_fieldEntries (by decide)]
  rfl

theorem permissionOf_set (d : Mapping) (v : Value) :
    permissionOf (Mapping.set d "permission" v) = v := by
  rw [permissionOf, Mapping.get_set, if_pos rfl]
  rfl

/-- The two fields of an entry of an access list. -/
theorem ofFields_userAcl (d : Mapping) : ofFields .userAcl d =
    ⟨.userAcl, [(Mapping.get d "user").getD .null, permissionOf d]⟩ := rfl

/-- **Every object is read as its record.** -/
theorem ofData_mapping (hkind : kind ≠ .bucketAcl) (h : PermissionsListed kind d) :
    ofData kind (.mapping d) = .ok (ofFields kind (completed kind d)) := by
  have hplain : ofData kind (.mapping d) = make kind (fieldEntries kind d) := by
    cases kind with
    | bucketAcl => exact absurd rfl hkind
    | _ => rfl
  rw [hplain]
  by_cases huser : kind = .userAcl
  · subst huser
    rw [make_userAcl_fieldEntries, ofFields_userAcl, completed]
    cases htruthy : (permissionOf d).truthy with
    | true =>
      obtain ⟨xs, hxs⟩ := h rfl htruthy
      rw [if_neg (by simp), hxs, userAcl, itemsOrNone_list]
      rfl
    | false =>
      rw [if_pos ⟨rfl, rfl⟩, permissionOf_set, Mapping.get_set, if_neg (by decide), userAcl,
        itemsOrNone, htruthy]
      rfl
  · rw [make_fieldEntries huser, completed, if_neg fun h => huser h.1]

/-! ## 3. Writing a record -/

theorem toData_of_isPlain (h : r.kind.IsPlain) : r.toData = .ok r.plainData :=
  bodyOf_toValue rfl h.1 h.2

/-- **What is written of some fields**: those that are set. -/
theorem mem_setEntries {fs : List Text} {f : Text → Value} {e : Value × Value} :
    e ∈ setEntries fs (fs.map f) ↔
      ∃ name ∈ fs, (f name).isNull = false ∧ e = (.text name, f name) := by
  induction fs with
  | nil => simp [setEntries]
  | cons name fs ih =>
    rw [List.map_cons, setEntries]
    cases hnull : (f name).isNull with
    | true => simp [ih, hnull]
    | false => simp [ih, hnull]

theorem mem_keys_setEntries {fs : List Text} {vs : List Value} {k : Value}
    (h : k ∈ Mapping.keys (setEntries fs vs)) : ∃ f ∈ fs, k = .text f := by
  induction fs generalizing vs with
  | nil => cases h
  | cons f fs ih =>
    have hlater : ∀ {vs}, k ∈ Mapping.keys (setEntries fs vs) → ∃ f' ∈ f :: fs, k = .text f' := by
      intro vs hk
      obtain ⟨f', hf', rfl⟩ := ih hk
      exact ⟨f', List.mem_cons_of_mem _ hf', rfl⟩
    cases vs with
    | nil => cases h
    | cons v vs =>
      rw [setEntries] at h
      split at h
      · exact hlater h
      · rcases List.mem_cons.1 h with rfl | h
        · exact ⟨f, List.mem_cons_self, rfl⟩
        · exact hlater h

/-- No field is written twice. -/
theorem nodup_keys_setEntries {fs : List Text} (h : fs.Nodup) (vs : List Value) :
    (Mapping.keys (setEntries fs vs)).Nodup := by
  induction fs generalizing vs with
  | nil => exact List.nodup_nil
  | cons f fs ih =>
    obtain ⟨hout, hfs⟩ := List.nodup_cons.1 h
    cases vs with
    | nil => exact List.nodup_nil
    | cons v vs =>
      rw [setEntries]
      split
      · exact ih hfs vs
      · refine List.nodup_cons.2 ⟨fun hmem => ?_, ih hfs vs⟩
        obtain ⟨f', hf', heq⟩ := mem_keys_setEntries hmem
        cases heq
        exact hout hf'

theorem isField_iff {k : Value} : isField kind k ↔ ∃ name ∈ kind.fields, k = .text name := by
  cases k with
  | text name =>
    rw [isField, List.contains_iff_mem]
    constructor
    · intro h
      exact ⟨name, h, rfl⟩
    · rintro ⟨_, h, heq⟩
      cases heq
      exact h
  | _ =>
    constructor
    · intro h
      cases h
    · rintro ⟨_, _, h⟩
      cases h

theorem mem_kept {e : Value × Value} : e ∈ kept kind d ↔
    e ∈ d ∧ (∃ name ∈ kind.fields, e.1 = .text name) ∧ e.2.isNull = false := by
  rw [kept, List.mem_filter, Bool.and_eq_true, isField_iff, Bool.not_eq_true']

/-- **The record of an object is written as what is left of the object**, in the order of the
fields. -/
theorem toData_ofFields (hkind : kind.IsPlain) (hkeys : (Mapping.keys d).Nodup) :
    ∃ m, (ofFields kind d).toData = .ok (.mapping m) ∧ m.Perm (kept kind d) := by
  refine ⟨_, toData_of_isPlain hkind, ?_⟩
  have hwritten := nodup_keys_setEntries kind.fields_nodup (ofFields kind d).values
  have hkept : (kept kind d).Nodup := (List.Nodup.of_map Prod.fst hkeys).filter _
  -- Fields are written in the order of their kind, so the entries are compared one by one.
  refine (List.perm_ext_iff_of_nodup (List.Nodup.of_map Prod.fst hwritten) hkept).2 ?_
  rintro ⟨k, v⟩
  refine mem_setEntries.trans (Iff.trans ?_ mem_kept.symm)
  constructor
  · rintro ⟨name, hname, hnull, heq⟩
    cases heq
    cases hget : Mapping.get d name with
    | none =>
      rw [hget] at hnull
      cases hnull
    | some v =>
      rw [hget] at hnull
      exact ⟨Mapping.mem_of_get hget, ⟨name, hname, rfl⟩, hnull⟩
  · rintro ⟨hmem, ⟨name, hname, hk⟩, hnull⟩
    cases hk
    refine ⟨name, hname, ?_⟩
    rw [Mapping.get_of_mem hkeys hmem]
    exact ⟨hnull, rfl⟩

/-! ## 4. Reading what was written -/

/-- The values of fields, in their order. -/
theorem map_valueAt {fs : List Text} {vs : List Value} (hnodup : fs.Nodup)
    (h : vs.length = fs.length) :
    fs.map (fun name => (valueAt name fs vs).getD .null) = vs := by
  induction fs generalizing vs with
  | nil => rw [List.map_nil, List.eq_nil_of_length_eq_zero h]
  | cons f fs ih =>
    obtain ⟨hout, hfs⟩ := List.nodup_cons.1 hnodup
    cases vs with
    | nil => cases h
    | cons v vs =>
      have hlater : ∀ name ∈ fs, (valueAt name (f :: fs) (v :: vs)).getD .null =
          (valueAt name fs vs).getD .null := by
        intro name hname
        rw [valueAt, if_neg]
        rintro rfl
        exact hout hname
      rw [List.map_cons, valueAt, if_pos rfl, List.map_congr_left hlater,
        ih hfs (Nat.succ.inj h)]
      rfl

/-- **What is written of a record has its values**: those that are left out are null. -/
theorem ofFields_setEntries (h : r.values.length = r.kind.fields.length) :
    ofFields r.kind (setEntries r.kind.fields r.values) = r := by
  obtain ⟨kind, values⟩ := r
  have hvalue : ∀ name ∈ kind.fields,
      (Mapping.get (setEntries kind.fields values) name).getD .null =
        (valueAt name kind.fields values).getD .null := by
    intro name _
    rw [get_setEntries kind.fields_nodup]
    cases valueAt name kind.fields values with
    | none => rfl
    | some v =>
      rw [Option.filter_some]
      cases hnull : v.isNull with
      | false => rfl
      | true =>
        rw [Value.isNull_iff.1 hnull]
        rfl
  show Record.mk kind _ = _
  rw [List.map_congr_left hvalue, map_valueAt kind.fields_nodup h]

/-- Permissions that are listed are read as they are. -/
theorem ofFields_completed (h : kind = .userAcl → ∃ xs, permissionOf d = .list xs) :
    ofFields kind (completed kind d) = ofFields kind d := by
  unfold completed
  split
  next hempty =>
    obtain ⟨rfl, hfalse⟩ := hempty
    obtain ⟨xs, hxs⟩ := h rfl
    rw [hxs] at hfalse
    cases xs with
    | nil =>
      rw [ofFields_userAcl, ofFields_userAcl, permissionOf_set, hxs, Mapping.get_set,
        if_neg (by decide)]
    | cons x xs => cases hfalse
  next => rfl

/-- **A record is read again from what it was written as.** -/
theorem ofData_toData (hkind : r.kind.IsPlain) (h : r.Formed) :
    ∃ d, r.toData = .ok (.mapping d) ∧ ofData r.kind (.mapping d) = .ok r := by
  have hsame := ofFields_setEntries h.complete
  have hlisted : r.kind = .userAcl →
      ∃ xs, permissionOf (setEntries r.kind.fields r.values) = .list xs := by
    intro huser
    obtain ⟨xs, hxs⟩ := h.permissions huser
    refine ⟨xs, ?_⟩
    rw [← hsame] at hxs
    generalize setEntries r.kind.fields r.values = d at hxs
    rw [huser] at hxs
    exact hxs
  refine ⟨_, toData_of_isPlain hkind, ?_⟩
  rw [ofData_mapping hkind.1 fun huser _ => hlisted huser, ofFields_completed hlisted, hsame]

/-- **Every record that is made has all its values.** -/
theorem formed_of_make {named : Named} (h : make kind named = .ok r) : r.Formed := by
  have hplain : ∀ {kind : RecordKind} {named : Named}, kind ≠ .userAcl →
      makePlain kind named = .ok r → r.Formed := by
    intro kind named hkind h
    unfold makePlain at h
    split at h
    · cases h
      exact ⟨List.length_map _, fun huser => absurd huser hkind⟩
    · cases h
  cases kind with
  | userAcl =>
    unfold make at h
    dsimp only at h
    split at h
    · obtain ⟨xs, _, h⟩ := bind_eq_ok.1 h
      cases h
      exact ⟨rfl, fun _ => ⟨xs, rfl⟩⟩
    · cases h
  | _ => exact hplain (by decide) h

/-! ## 5. Access lists -/

/-- **An access list of a bucket**, with entries of users and of groups. -/
def accessList (bucket ns : Value) (us : List Record) (groups customGroups : List Value) : Record :=
  ⟨.bucketAcl, [bucket, ns, .list (us.map toValue), .list groups, .list customGroups]⟩

/-- **An access list is read again from what it was written as.** -/
theorem ofData_toData_accessList (bucket ns : Value) {us : List Record}
    (groups customGroups : List Value) (hus : ∀ u ∈ us, u.kind = .userAcl ∧ u.Formed) :
    ∃ data, (accessList bucket ns us groups customGroups).toData = .ok data ∧
      ofData .bucketAcl data = .ok (accessList bucket ns us groups customGroups) := by
  have hkinds : ∀ u ∈ us, u.kind ≠ .bucketAcl := by
    intro u hu huser
    rw [(hus u hu).1] at huser
    cases huser
  have hread : (us.map simpleData).mapM (ofPlainData .userAcl) = .ok us := by
    refine mapM_eq_ok_iff.2 (List.forall₂_map_left_iff.2 (List.forall₂_same.2 fun u hu => ?_))
    obtain ⟨huser, hformed⟩ := hus u hu
    obtain ⟨d, hdata, hofData⟩ := ofData_toData (r := u) (by rw [huser]; decide) hformed
    rw [toData_of_ne_bucketAcl (hkinds u hu)] at hdata
    rw [huser] at hofData
    rw [Except.ok.inj hdata]
    exact hofData
  refine ⟨_, ?_, ofData_of_entries (isObject_ofNamed _) (isObject_ofNamed _) hread⟩
  rw [accessList, toData_bucketAcl, allData_map_toValue hkinds]
  rfl

/-! ## 6. All kinds -/

/-- **Records survive being written and read.** A plain record is read again from what it was
written as. Any object is read as a record, and the record is written as what is left of the object;
an entry of an access list is written with a list of permissions in any case. And an access list is
read again from what it was written as. -/
theorem records_survive_encoding :
    (∀ r : Record, r.kind.IsPlain → r.Formed →
      ∃ data, r.toData = .ok data ∧ ofData r.kind data = .ok r) ∧
    (∀ (kind : RecordKind) (d : Mapping), kind.IsPlain → (Mapping.keys d).Nodup →
      PermissionsListed kind d → ∃ r m, ofData kind (.mapping d) = .ok r ∧
        r.toData = .ok (.mapping m) ∧ m.Perm (kept kind (completed kind d))) ∧
    ∀ (bucket ns : Value) (us : List Record) (groups customGroups : List Value),
      (∀ u ∈ us, u.kind = .userAcl ∧ u.Formed) →
      ∃ data, (accessList bucket ns us groups customGroups).toData = .ok data ∧
        ofData .bucketAcl data = .ok (accessList bucket ns us groups customGroups) := by
  refine ⟨fun r hkind h => ?_, fun kind d hkind hkeys hlisted => ?_,
    fun bucket ns us groups customGroups hus => ofData_toData_accessList bucket ns _ _ hus⟩
  · obtain ⟨d, hdata, hread⟩ := ofData_toData hkind h
    exact ⟨_, hdata, hread⟩
  · have hcompleted : (Mapping.keys (completed kind d)).Nodup := by
      unfold completed
      split
      · exact Mapping.nodup_keys_set hkeys
      · exact hkeys
    obtain ⟨m, hdata, hperm⟩ := toData_ofFields hkind hcompleted
    exact ⟨_, m, ofData_mapping hkind.1 hlisted, hdata, hperm⟩

/-- A quota with a size that is null, an entry of an access list without permissions, and an access
list with that entry. -/
theorem records_survive_encoding_unset :
    let quota : Mapping := [(.text "link", .text "x"), (.text "blockSize", .int 5),
      (.text "notificationSize", .null)]
    let entry : Record := ⟨.userAcl, [.text "u", .list []]⟩
    let list := accessList (.text "b") (.text "ns") [entry] [.text "g"] []
    (∃ r m, ofData .namespaceQuota (.mapping quota) = .ok r ∧ r.toData = .ok (.mapping m) ∧
      m.Perm [(.text "blockSize", .int 5)]) ∧
    (∃ r m, ofData .userAcl (.mapping [(.text "user", .text "u")]) = .ok r ∧
      r.toData = .ok (.mapping m) ∧
      m.Perm [(.text "user", .text "u"), (.text "permission", .list [])]) ∧
    (∃ data, entry.toData = .ok data ∧ ofData .userAcl data = .ok entry) ∧
    ∃ data, list.toData = .ok data ∧ ofData .bucketAcl data = .ok list := by
  intro quota entry list
  have hformed : entry.Formed := ⟨rfl, fun _ => ⟨[], rfl⟩⟩
  obtain ⟨hrecords, hobjects, hlists⟩ := records_survive_encoding
  refine ⟨?_, ?_, hrecords entry (by decide) hformed,
    hlists (.text "b") (.text "ns") [entry] [.text "g"] [] ?_⟩
  · exact hobjects .namespaceQuota quota (by decide) (by simp [quota, Mapping.keys]) nofun
  · have hnone : permissionOf [(.text "user", .text "u")] = .null := by
      simp [permissionOf, Mapping.get_cons, Mapping.get_nil, Mapping.text_equal_text]
    have hcompleted : completed .userAcl [(.text "user", .text "u")] =
        [(.text "user", .text "u"), (.text "permission", .list [])] := by
      rw [completed, hnone, if_pos ⟨rfl, rfl⟩]
      simp [Mapping.set, Mapping.insert, Mapping.text_equal_text]
    have hobject := hobjects .userAcl [(.text "user", .text "u")] (by decide)
      (by simp [Mapping.keys]) fun _ htruthy => by
        rw [hnone] at htruthy
        cases htruthy
    rw [hcompleted] at hobject
    exact hobject
  · intro u hu
    cases List.mem_singleton.1 hu
    exact ⟨rfl, hformed⟩

end Record

end StorageBroker
