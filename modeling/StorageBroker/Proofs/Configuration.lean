import StorageBroker.Configuration
import StorageBroker.Proofs.Outcome
/-!
# Which configurations are accepted

A configuration gives values by name, in any order, and may give several for one setting, under
different spellings of its name. Every name has to be that of a setting; the last value that is
given for a setting counts, and where none is given its default does. What is refused is told by the
first name that is none of a setting, or else by all needed settings that are left without a value.

* `Spells`, `Known` -- the names of a setting;
* `effective` -- what a setting comes to;
* `setEach_of_known`, `setEach_of_unknown` -- what the entries come to, one after the other;
* `accepted_iff_known_and_complete` -- which configurations are accepted, with which values, and what
  the others are refused for.
-/

namespace StorageBroker.Configuration

variable {name : Text} {j k : Setting} {v : Value} {entries : List (Text × Value)}

/-! ## 1. Names -/

/-- **A name spells a setting**: with its dashes turned into underscores it is the name of the
setting. -/
def Spells (name : Text) (k : Setting) : Prop := canonicalName name = k.name

instance (name : Text) (k : Setting) : Decidable (Spells name k) :=
  inferInstanceAs (Decidable (_ = _))

/-- A name of some setting. -/
def Known (name : Text) : Prop := ∃ k, Spells name k

theorem ofName?_canonicalName : Setting.ofName? (canonicalName name) = some k ↔ Spells name k := by
  constructor
  · intro h
    have hname : k.name = canonicalName name := by simpa using List.find?_some h
    exact hname.symm
  · intro h
    rw [h, Setting.ofName?_name]

/-- A name spells one setting at most. -/
theorem Spells.unique (hj : Spells name j) (hk : Spells name k) : j = k := by
  rw [← ofName?_canonicalName] at hj hk
  exact Option.some.inj (hj.symm.trans hk)

instance (name : Text) : Decidable (Known name) :=
  decidable_of_iff ((Setting.ofName? (canonicalName name)).isSome) <| by
    rw [Option.isSome_iff_exists]
    simp only [ofName?_canonicalName, Known]

/-! ## 2. One entry -/

theorem setNamed_of_spells (c : Configuration) (h : Spells name k) (v : Value) :
    c.setNamed (name, v) = .ok (c.set k v) := by
  unfold setNamed
  simp only [ofName?_canonicalName.2 h]

theorem setNamed_of_unknown (c : Configuration) (h : ¬ Known name) (v : Value) :
    c.setNamed (name, v) =
      .error (.configuration ("Unknown broker setting: " ++ canonicalName name)) := by
  have hnone : Setting.ofName? (canonicalName name) = none := by
    rw [Option.eq_none_iff_forall_ne_some]
    exact fun k hk => h ⟨k, ofName?_canonicalName.1 hk⟩
  unfold setNamed
  simp only [hnone]

/-! ## 3. All entries -/

/-- The values that are given for a setting, in order. -/
def given (entries : List (Text × Value)) (k : Setting) : List Value :=
  (entries.filter fun e => Spells e.1 k).map Prod.snd

/-- **What a setting comes to**: the last value that is given for it, or else its default. -/
def effective (entries : List (Text × Value)) (k : Setting) : Value :=
  (given entries k).getLast?.getD k.default

/-- The needed settings that come to nothing that counts as true. -/
def lacking (entries : List (Text × Value)) : List Setting :=
  Setting.needed.filter fun k => !(effective entries k).truthy

theorem given_cons (h : Spells name j) :
    given ((name, v) :: entries) k =
      if k = j then v :: given entries k else given entries k := by
  unfold given
  by_cases hk : k = j
  · subst hk
    rw [if_pos rfl, List.filter_cons_of_pos (by simpa using h), List.map_cons]
  · have hother : ¬ Spells name k := fun hname => hk (hname.unique h)
    rw [if_neg hk, List.filter_cons_of_neg (by simpa using hother)]

/-- **Known names are all taken**, and the last value of each setting stays. A setting that is not
named keeps the value that it had before. -/
theorem setEach_of_known (h : ∀ e ∈ entries, Known e.1) (c : Configuration) :
    ∃ c', entries.foldlM setNamed c = .ok c' ∧
      ∀ k, c'.value k = (given entries k).getLast?.getD (c.value k) := by
  induction entries generalizing c with
  | nil => exact ⟨c, rfl, fun _ => rfl⟩
  | cons e entries ih =>
    obtain ⟨name, v⟩ := e
    obtain ⟨⟨j, hj⟩, hrest⟩ := List.forall_mem_cons.1 h
    obtain ⟨c', hc', hvalues⟩ := ih hrest (c.set j v)
    refine ⟨c', ?_, fun k => ?_⟩
    · rw [List.foldlM_cons, setNamed_of_spells c hj]
      exact hc'
    · rw [hvalues k, given_cons hj, value_set]
      by_cases hk : k = j
      · rw [if_pos hk, if_pos hk, List.getLast?_cons, Option.getD_some]
      · rw [if_neg hk, if_neg hk]

/-- **The first unknown name is refused**, whatever stands behind it. -/
theorem setEach_of_unknown {before after : List (Text × Value)}
    (hbefore : ∀ e ∈ before, Known e.1) (h : ¬ Known name) (c : Configuration) :
    (before ++ (name, v) :: after).foldlM setNamed c =
      .error (.configuration ("Unknown broker setting: " ++ canonicalName name)) := by
  obtain ⟨c', hc', _⟩ := setEach_of_known hbefore c
  rw [List.foldlM_append, hc']
  show ((name, v) :: after).foldlM setNamed c' = _
  rw [List.foldlM_cons, setNamed_of_unknown c' h]
  rfl

/-- Where a name is unknown, there is a first such name. -/
theorem exists_first_unknown (h : ¬ ∀ e ∈ entries, Known e.1) :
    ∃ before name v after, entries = before ++ (name, v) :: after ∧
      (∀ e ∈ before, Known e.1) ∧ ¬ Known name := by
  induction entries with
  | nil => exact absurd (fun e he => absurd he List.not_mem_nil) h
  | cons e entries ih =>
    obtain ⟨name, v⟩ := e
    by_cases hname : Known name
    · have hrest : ¬ ∀ e ∈ entries, Known e.1 :=
        fun hall => h (List.forall_mem_cons.2 ⟨hname, hall⟩)
      obtain ⟨before, name', v', after, rfl, hbefore, hunknown⟩ := ih hrest
      exact ⟨(name, v) :: before, name', v', after, rfl,
        List.forall_mem_cons.2 ⟨hname, hbefore⟩, hunknown⟩
    · exact ⟨[], name, v, entries, rfl, fun e he => absurd he List.not_mem_nil, hname⟩

/-! ## 4. Acceptance -/

theorem lacking_eq_nil_iff :
    lacking entries = [] ↔ ∀ k ∈ Setting.needed, (effective entries k).truthy := by
  unfold lacking
  simp only [List.filter_eq_nil_iff, Bool.not_eq_true', Bool.not_eq_false]

/-- What is missing behind the last entry is what is lacking in all of them. -/
theorem ofEntries_of_known (h : ∀ e ∈ entries, Known e.1) :
    ∃ c : Configuration, (∀ k, c.value k = effective entries k) ∧
      c.missing = lacking entries ∧ ofEntries entries = c.complete := by
  obtain ⟨c, hc, hvalues⟩ := setEach_of_known h defaults
  refine ⟨c, hvalues, ?_, ?_⟩
  · unfold missing lacking
    refine List.filter_congr fun k _ => ?_
    rw [hvalues k]
    rfl
  · rw [ofEntries_eq, hc]
    rfl

theorem ofEntries_of_complete (h : ∀ e ∈ entries, Known e.1) (hnil : lacking entries = []) :
    ∃ c, ofEntries entries = .ok c ∧ ∀ k, c.value k = effective entries k := by
  obtain ⟨c, hvalues, hmissing, hc⟩ := ofEntries_of_known h
  refine ⟨c, ?_, hvalues⟩
  rw [hc, complete, hmissing, hnil]

theorem ofEntries_of_lacking (h : ∀ e ∈ entries, Known e.1) (hsome : lacking entries ≠ []) :
    ofEntries entries = .error (.configuration
      ("Missing broker settings: " ++
        Text.intercalate ", " ((lacking entries).map Setting.name))) := by
  obtain ⟨c, _, hmissing, hc⟩ := ofEntries_of_known h
  rw [hc, complete, hmissing]
  split
  next hnil => exact absurd hnil hsome
  next => rfl

theorem ofEntries_of_unknown {before after : List (Text × Value)}
    (hbefore : ∀ e ∈ before, Known e.1) (h : ¬ Known name) :
    ofEntries (before ++ (name, v) :: after) =
      .error (.configuration ("Unknown broker setting: " ++ canonicalName name)) := by
  rw [ofEntries_eq, setEach_of_unknown hbefore h]
  rfl

/-- **What is accepted** has known names only and lacks nothing, since it would have been refused
otherwise. -/
theorem of_ofEntries_eq_ok {c : Configuration} (h : ofEntries entries = .ok c) :
    (∀ e ∈ entries, Known e.1) ∧ lacking entries = [] ∧ ∀ k, c.value k = effective entries k := by
  by_cases hknown : ∀ e ∈ entries, Known e.1
  · by_cases hnil : lacking entries = []
    · obtain ⟨c', hc', hvalues⟩ := ofEntries_of_complete hknown hnil
      cases h.symm.trans hc'
      exact ⟨hknown, hnil, hvalues⟩
    · cases h.symm.trans (ofEntries_of_lacking hknown hnil)
  · obtain ⟨before, name, v, after, rfl, hbefore, hname⟩ := exists_first_unknown hknown
    cases h.symm.trans (ofEntries_of_unknown hbefore hname)

/-- A mapping whose keys are names, none of them reserved, is read entry by entry. -/
theorem ofData_ofNamed (h : ∀ e ∈ entries, e.1 ≠ "self") :
    ofData (.mapping (Mapping.ofNamed entries)) = ofEntries entries := by
  have hnamed : namedEntries (Mapping.ofNamed entries) = .ok entries := by
    have hself : (entries.any fun e => e.1 == "self") = false := by
      rw [List.any_eq_false]
      intro e he
      simpa using h e he
    rw [namedEntries, Mapping.named_ofNamed]
    show (if (entries.any fun e => e.1 == "self") = true then _ else _) = _
    rw [hself]
    rfl
  have hdata : (Value.mapping (Mapping.ofNamed entries)).orElse (.mapping []) =
      .mapping (Mapping.ofNamed entries) := by
    cases entries <;> rfl
  rw [ofData, hdata]
  show (do ofEntries (← (liftM (namedEntries (Mapping.ofNamed entries)) : Except Fault _))) = _
  rw [hnamed]
  rfl

/-- **A configuration is accepted exactly if its names are known and nothing needed is lacking**, for
every mapping whose keys are texts other than the reserved name. Then every setting has the last
value that is given for it under any spelling, or else its default. Otherwise the first unknown name
is told, as far as there is one, or else the needed settings that come to nothing, in their order. -/
theorem accepted_iff_known_and_complete (entries : List (Text × Value))
    (hself : ∀ e ∈ entries, e.1 ≠ "self") :
    let r := ofData (.mapping (Mapping.ofNamed entries))
    ((∃ c, r = .ok c) ↔
      (∀ e ∈ entries, Known e.1) ∧ ∀ k ∈ Setting.needed, (effective entries k).truthy) ∧
    (∀ c, r = .ok c → ∀ k, c.value k = effective entries k) ∧
    (∀ before name v after, entries = before ++ (name, v) :: after →
      (∀ e ∈ before, Known e.1) → ¬ Known name →
      r = .error (.configuration ("Unknown broker setting: " ++ canonicalName name))) ∧
    ((∀ e ∈ entries, Known e.1) → lacking entries ≠ [] →
      r = .error (.configuration
        ("Missing broker settings: " ++
          Text.intercalate ", " ((lacking entries).map Setting.name)))) := by
  intro r
  have hr : r = ofEntries entries := ofData_ofNamed hself
  rw [hr]
  refine ⟨⟨?_, ?_⟩, fun c hc => (of_ofEntries_eq_ok hc).2.2, ?_, ofEntries_of_lacking⟩
  · rintro ⟨c, hc⟩
    obtain ⟨hknown, hnil, _⟩ := of_ofEntries_eq_ok hc
    exact ⟨hknown, lacking_eq_nil_iff.1 hnil⟩
  · rintro ⟨hknown, hcomplete⟩
    obtain ⟨c, hc, _⟩ := ofEntries_of_complete hknown (lacking_eq_nil_iff.2 hcomplete)
    exact ⟨c, hc⟩
  · rintro before name v after rfl hbefore hname
    exact ofEntries_of_unknown hbefore hname

/-- A second spelling takes back the replication group that the first one has given, and it alone is
reported. -/
theorem accepted_iff_known_and_complete_blanked :
    let entries : List (Text × Value) :=
      [("management-endpoint", .text "https://ecs:4443"), ("replication-group", .text "rg1"),
        ("namespace", .text "ns1"), ("replication_group", .text "")]
    (∀ e ∈ entries, e.1 ≠ "self") ∧ (∀ e ∈ entries, Known e.1) ∧
      ofData (.mapping (Mapping.ofNamed entries)) =
        .error (.configuration "Missing broker settings: replication_group") := by
  intro entries
  have hself : ∀ e ∈ entries, e.1 ≠ "self" := by decide
  have hknown : ∀ e ∈ entries, Known e.1 := by decide
  have hlacking : lacking entries = [.replicationGroup] := by decide
  obtain ⟨_, _, _, hmissing⟩ := accepted_iff_known_and_complete entries hself
  refine ⟨hself, hknown, ?_⟩
  have hrefused := hmissing hknown (by rw [hlacking]; exact List.cons_ne_nil _ _)
  rw [hlacking] at hrefused
  exact hrefused

end StorageBroker.Configuration
