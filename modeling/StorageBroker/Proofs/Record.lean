import StorageBroker.Management
import StorageBroker.Record.Parameters
/-!
# Bodies of records

The body that a record is written as holds those fields of the record that are set, and nothing
else.

* `entry` -- what a body holds under a name;
* `entry_ofNamed` -- for a body of named values;
* `entry_plainData` -- for the body of a record, the value of the field if it is set;
* `bodyOf_toValue` -- the body of a record without a layout of its own;
* `allData_map_toValue` -- the bodies of a row of records;
* `secretKey?_mapping` -- the keys in a listing.
-/

namespace StorageBroker.Record

/-- What a body holds under a name. -/
def entry (body : Value) (name : Text) : Option Value :=
  match body with
  | .mapping m => Mapping.get m name
  | _ => none

theorem entry_ofNamed {es : Named} {name : Text} :
    entry (.mapping (Mapping.ofNamed es)) name =
      (es.find? fun e => e.1 == name).map Prod.snd := by
  show Mapping.get (Mapping.ofNamed es) name = _
  induction es with
  | nil => rfl
  | cons e es ih =>
    rw [Mapping.ofNamed, List.map_cons, Mapping.get_cons, Mapping.text_equal_text]
    by_cases h : e.1 = name
    · rw [if_pos (by simpa using h.symm), List.find?_cons_of_pos (by simpa using h)]
      rfl
    · rw [if_neg (by simpa using Ne.symm h), List.find?_cons_of_neg (by simpa using h)]
      exact ih

theorem get_setEntries_of_not_mem {fs : List Text} {vs : List Value} {name : Text}
    (h : name ∉ fs) : Mapping.get (setEntries fs vs) name = none := by
  induction fs generalizing vs with
  | nil => rfl
  | cons f fs ih =>
    rw [List.mem_cons, not_or] at h
    cases vs with
    | nil => rfl
    | cons v vs =>
      rw [setEntries]
      split
      · exact ih h.2
      · rw [Mapping.get_cons, Mapping.text_equal_text, decide_eq_false h.1]
        exact ih h.2

theorem get_setEntries {fs : List Text} {vs : List Value} {name : Text} (hnodup : fs.Nodup) :
    Mapping.get (setEntries fs vs) name = (valueAt name fs vs).filter fun v => !v.isNull := by
  induction fs generalizing vs with
  | nil => rfl
  | cons f fs ih =>
    rw [List.nodup_cons] at hnodup
    cases vs with
    | nil => rfl
    | cons v vs =>
      rw [setEntries, valueAt]
      by_cases hf : f = name
      · subst hf
        rw [if_pos rfl]
        by_cases hv : v.isNull
        · rw [if_pos hv, get_setEntries_of_not_mem hnodup.1, Option.filter_some, hv]
          rfl
        · rw [if_neg hv, Mapping.get_cons, Mapping.text_equal_text, decide_eq_true rfl,
            Option.filter_some, Bool.eq_false_iff.2 hv]
          rfl
      · rw [if_neg hf]
        split
        · exact ih hnodup.2
        · rw [Mapping.get_cons, Mapping.text_equal_text, decide_eq_false (Ne.symm hf)]
          exact ih hnodup.2

/-- **The body of a record** holds the fields that are set. -/
theorem entry_plainData {r : Record} {name : Text} :
    entry r.plainData name = (r.field? name).filter fun v => !v.isNull :=
  get_setEntries (RecordKind.fields_nodup r.kind)

/-- A record without a layout of its own is sent as its fields. -/
theorem bodyOf_toValue {r : Record} {kind : RecordKind} (hr : r.kind = kind)
    (hacl : kind ≠ .bucketAcl) (hpolicy : kind ≠ .bucketPolicy) :
    Management.bodyOf r.toValue = .ok r.plainData := by
  subst hr
  show r.toData = .ok r.plainData
  rw [toData_of_ne_bucketAcl hacl, simpleData]
  split
  next h => exact absurd h hpolicy
  next => rfl

/-- Records without a layout that nests others are written one by one. -/
theorem allData_map_toValue {us : List Record} (h : ∀ u ∈ us, u.kind ≠ .bucketAcl) :
    allData (us.map toValue) = .ok (us.map simpleData) := by
  induction us with
  | nil => rfl
  | cons u us ih =>
    obtain ⟨hu, hus⟩ := List.forall_mem_cons.1 h
    have hfirst : dataOf u.toValue = .ok u.simpleData := toData_of_ne_bucketAcl hu
    rw [List.map_cons, allData, hfirst, ih hus]
    rfl

/-- A key in a listing is there if its secret is. -/
theorem secretKey?_mapping {m : Mapping} {number : Text} :
    ∃ since expiry, secretKey? (.mapping m) number =
      let secret := (Mapping.get m ("secret_key_" ++ number)).getD .null
      .ok (if secret.truthy then some (ofNamed .userSecretKey
        [("secret_key", secret), ("key_timestamp", since), ("key_expiry_timestamp", expiry)])
      else none) := by
  refine ⟨(Mapping.get m ("key_timestamp_" ++ number)).getD .null,
    (Mapping.get m ("key_expiry_timestamp_" ++ number)).getD .null, ?_⟩
  show (if _ then _ else _) = _
  dsimp only
  split <;> rfl

end StorageBroker.Record
