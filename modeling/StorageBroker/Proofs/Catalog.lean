import Mathlib.Data.List.Induction
import StorageBroker.Catalog
import StorageBroker.Proofs.Outcome
import StorageBroker.Proofs.Value.Keys
/-!
# Looking services up

Definitions may repeat an id. A later one then takes the place of the earlier one, so the catalog
keeps for every id the place where it appears first and the definition that is given for it last.
The definition that an id finds and the one for the repository of the broker are both read off the
same row, so one that has been replaced is neither found nor chosen.

* `find?_addTo`, `find?_foldl` -- what an id finds once one definition has been added, and once a
  row has been;
* `foldl_addTo` -- the row that is left of definitions;
* `distinct_foldl` -- no two of it have the same id;
* `repeated_ids_resolved` -- row, look-up and repository service of every list of definitions;
* `unkeyed_ids_refused` -- an id that is no key is neither kept nor looked for.
-/

namespace StorageBroker.Catalog

open Value (equal_symm equal_trans)
open Mapping (equal_congr)

variable {l ss : List ServiceDefinition} {s t : ServiceDefinition} {q : Value}

/-! ## 1. Adding one definition -/

/-- Definitions all of whose ids can be keys. -/
def Keyed (ss : List ServiceDefinition) : Prop := ∀ s ∈ ss, s.id.isKey

instance (ss : List ServiceDefinition) : Decidable (Keyed ss) :=
  inferInstanceAs (Decidable (∀ s ∈ ss, s.id.isKey))

/-- Definitions no two of which have the same id. -/
def Distinct (ss : List ServiceDefinition) : Prop :=
  ss.Pairwise fun s later => ¬ later.id.equal s.id

theorem mem_addTo (h : t ∈ addTo l s) : t = s ∨ t ∈ l := by
  induction l with
  | nil => exact .inl (List.mem_singleton.1 h)
  | cons u l ih =>
    rw [addTo] at h
    split at h
    · exact (List.mem_cons.1 h).imp_right (List.mem_cons_of_mem u)
    · obtain rfl | h := List.mem_cons.1 h
      · exact .inr List.mem_cons_self
      · exact (ih h).imp_right (List.mem_cons_of_mem u)

theorem keyed_addTo (hl : Keyed l) (hs : s.id.isKey) : Keyed (addTo l s) := by
  intro t ht
  obtain rfl | ht := mem_addTo ht
  · exact hs
  · exact hl t ht

/-- **What an id finds once a definition has been added**: the ids equal to that of the definition
find it, and all others what they have found before. -/
theorem find?_addTo (l : List ServiceDefinition) (hs : s.id.isKey) (hq : q.isKey) :
    (addTo l s).find? (fun t => q.equal t.id) =
      if q.equal s.id then some s else l.find? fun t => q.equal t.id := by
  induction l with
  | nil => simp [addTo]
  | cons u l ih =>
    rw [addTo]
    by_cases h : s.id.equal u.id
    · have hsame := equal_congr hq hs h
      rw [if_pos h]
      by_cases hqs : q.equal s.id
      · rw [if_pos hqs, List.find?_cons_of_pos (by exact hqs)]
      · rw [if_neg hqs, List.find?_cons_of_neg (by exact hqs),
          List.find?_cons_of_neg (by rwa [hsame])]
    · rw [if_neg h]
      by_cases hqu : q.equal u.id
      · -- An id cannot be equal both to that of the definition and to one that is not equal to it.
        have hqs : ¬ q.equal s.id := fun hqs => h (equal_trans hs (equal_symm hq hqs) hqu)
        rw [if_neg hqs, List.find?_cons_of_pos (by exact hqu),
          List.find?_cons_of_pos (by exact hqu)]
      · rw [List.find?_cons_of_neg (by exact hqu), List.find?_cons_of_neg (by exact hqu), ih]

/-- A definition with a new id is put at the end. -/
theorem addTo_of_new (h : ∀ t ∈ l, ¬ s.id.equal t.id) : addTo l s = l ++ [s] := by
  induction l with
  | nil => rfl
  | cons u l ih =>
    obtain ⟨hu, hl⟩ := List.forall_mem_cons.1 h
    rw [addTo, if_neg hu, ih hl, List.cons_append]

/-- **A definition takes the place of the one that has its id.** -/
theorem addTo_of_known (hs : s.id.isKey) (hl : Keyed l) (hdistinct : Distinct l)
    (h : ∃ t ∈ l, s.id.equal t.id) :
    addTo l s = l.map fun t => if s.id.equal t.id then s else t := by
  induction l with
  | nil =>
    obtain ⟨t, ht, _⟩ := h
    cases ht
  | cons u l ih =>
    obtain ⟨hlater, hdistinct⟩ := List.pairwise_cons.1 hdistinct
    obtain ⟨hu, hl⟩ := List.forall_mem_cons.1 hl
    rw [addTo, List.map_cons]
    by_cases hsu : s.id.equal u.id
    · have hrest : l.map (fun t => if s.id.equal t.id then s else t) = l := by
        refine (List.map_congr_left fun t ht => if_neg ?_).trans (List.map_id l)
        intro hst
        exact hlater t ht (equal_trans (hl t ht) (equal_symm hs hst) hsu)
      rw [if_pos hsu, if_pos hsu, hrest]
    · obtain ⟨t, ht, hst⟩ := h
      obtain rfl | ht := List.mem_cons.1 ht
      · exact absurd hst hsu
      · rw [if_neg hsu, if_neg hsu, ih hl hdistinct ⟨t, ht, hst⟩]

theorem distinct_addTo (hs : s.id.isKey) (hl : Keyed l) (hdistinct : Distinct l) :
    Distinct (addTo l s) := by
  induction l with
  | nil => exact List.pairwise_singleton _ _
  | cons u l ih =>
    obtain ⟨hlater, hdistinct⟩ := List.pairwise_cons.1 hdistinct
    obtain ⟨hu, hl⟩ := List.forall_mem_cons.1 hl
    rw [addTo]
    by_cases hsu : s.id.equal u.id
    · rw [if_pos hsu]
      refine List.pairwise_cons.2 ⟨fun t ht hts => ?_, hdistinct⟩
      exact hlater t ht (equal_trans (hl t ht) hts hsu)
    · rw [if_neg hsu]
      refine List.pairwise_cons.2 ⟨fun t ht => ?_, ih hl hdistinct⟩
      obtain rfl | ht := mem_addTo ht
      · exact hsu
      · exact hlater t ht

/-! ## 2. Adding a row of definitions -/

/-- The last definition of an id. -/
def last? (ss : List ServiceDefinition) (q : Value) : Option ServiceDefinition :=
  (ss.filter fun s => q.equal s.id).getLast?

/-- Definitions, each where its id appears first. -/
def firsts (ss : List ServiceDefinition) : List ServiceDefinition :=
  ss.eraseDupsBy fun s t => s.id.equal t.id

/-- **The last definition that is given for the id of one.** An id that is not even equal to itself
is that of one definition only. -/
def latest (ss : List ServiceDefinition) (s : ServiceDefinition) : ServiceDefinition :=
  (last? ss s.id).getD s

theorem last?_cons (s : ServiceDefinition) (ss : List ServiceDefinition) (q : Value) :
    last? (s :: ss) q = (last? ss q).or (if q.equal s.id then some s else none) := by
  unfold last?
  by_cases h : q.equal s.id
  · rw [if_pos h, List.filter_cons_of_pos (by exact h), List.getLast?_cons, Option.or_some]
  · rw [if_neg h, List.filter_cons_of_neg (by exact h), Option.or_none]

/-- Equal ids have the same last definition. -/
theorem last?_congr {r : Value} (hq : q.isKey) (hr : r.isKey) (h : q.equal r) :
    last? ss q = last? ss r := by
  have hsame : ∀ s ∈ ss, q.equal s.id = r.equal s.id := by
    intro s _
    by_cases hrs : r.equal s.id
    · rw [hrs, equal_trans hq h hrs]
    · have hqs : ¬ q.equal s.id := fun hqs => hrs (equal_trans hr (equal_symm hq h) hqs)
      rw [Bool.eq_false_iff.2 hrs, Bool.eq_false_iff.2 hqs]
  rw [last?, List.filter_congr hsame, last?]

theorem latest_cons_of_known (ht : t.id.isKey) (hs : s.id.isKey) (h : t.id.equal s.id) :
    latest (s :: ss) t = latest ss s := by
  rw [latest, last?_cons, if_pos h, last?_congr ht hs h, latest]
  cases last? ss s.id <;> rfl

theorem latest_cons_of_other (h : ¬ t.id.equal s.id) : latest (s :: ss) t = latest ss t := by
  rw [latest, last?_cons, if_neg h, Option.or_none, latest]

theorem latest_cons_self : latest (s :: ss) s = latest ss s := by
  rw [latest, last?_cons, latest]
  cases last? ss s.id with
  | none => split <;> rfl
  | some t => rfl

theorem firsts_cons (s : ServiceDefinition) (ss : List ServiceDefinition) :
    firsts (s :: ss) = s :: firsts (ss.filter fun t => t.id.equal s.id = false) :=
  List.eraseDupsBy_cons

theorem mem_of_mem_firsts {ss : List ServiceDefinition} (h : t ∈ firsts ss) : t ∈ ss := by
  match ss with
  | [] => exact h
  | s :: ss =>
    rw [firsts_cons] at h
    obtain rfl | h := List.mem_cons.1 h
    · exact List.mem_cons_self
    · exact List.mem_cons_of_mem s (List.mem_of_mem_filter (mem_of_mem_firsts h))
termination_by ss.length
decreasing_by exact Nat.lt_succ_of_le (List.length_filter_le _ _)

/-- The definitions of a row whose ids find nothing in another one. -/
def newTo (l ss : List ServiceDefinition) : List ServiceDefinition :=
  ss.filter fun s => (l.find? fun t => s.id.equal t.id).isNone

theorem newTo_addTo (l : List ServiceDefinition) (hs : s.id.isKey) (hss : Keyed ss) :
    newTo (addTo l s) ss = (newTo l ss).filter fun u => u.id.equal s.id = false := by
  rw [newTo, newTo, List.filter_filter]
  refine List.filter_congr fun u hu => ?_
  rw [find?_addTo l hs (hss u hu)]
  cases u.id.equal s.id <;> rfl

/-- **The row that is left of definitions** which are added to one: each keeps its place and comes
to be the last one given for its id, and behind them are the new ids, each where it appears
first. -/
def left (l ss : List ServiceDefinition) : List ServiceDefinition :=
  l.map (latest ss) ++ (firsts (newTo l ss)).map (latest ss)

theorem map_latest_cons (h : ∀ t ∈ l, ¬ t.id.equal s.id) :
    l.map (latest (s :: ss)) = l.map (latest ss) :=
  List.map_congr_left fun t ht => latest_cons_of_other (h t ht)

theorem left_addTo_of_new (hs : s.id.isKey) (hss : Keyed ss) (hl : Keyed l)
    (h : (l.find? fun t => s.id.equal t.id) = none) : left (addTo l s) ss = left l (s :: ss) := by
  have hnone := List.find?_eq_none.1 h
  have hother : ∀ t ∈ l, ¬ t.id.equal s.id := fun t ht hts => hnone t ht (equal_symm (hl t ht) hts)
  have hnew : newTo l (s :: ss) = s :: newTo l ss := List.filter_cons_of_pos (by rw [h]; rfl)
  have hbehind : ∀ u ∈ firsts ((newTo l ss).filter fun u => u.id.equal s.id = false),
      ¬ u.id.equal s.id := by
    intro u hu
    exact Bool.eq_false_iff.1 (of_decide_eq_true (List.mem_filter.1 (mem_of_mem_firsts hu)).2)
  rw [left, left, newTo_addTo l hs hss, hnew, firsts_cons, addTo_of_new hnone, List.map_append,
    List.map_singleton, List.map_cons, map_latest_cons hother, map_latest_cons hbehind,
    latest_cons_self, List.append_assoc]
  rfl

theorem left_addTo_of_known (hs : s.id.isKey) (hss : Keyed ss) (hl : Keyed l)
    (hdistinct : Distinct l) (h : (l.find? fun t => s.id.equal t.id) = some t) :
    left (addTo l s) ss = left l (s :: ss) := by
  have ht : t ∈ l := List.mem_of_find?_eq_some h
  have hst : s.id.equal t.id := by simpa using List.find?_some h
  have hnew : newTo l (s :: ss) = newTo l ss :=
    List.filter_cons_of_neg (by rw [h]; exact Bool.false_ne_true)
  -- What is new to the row has not the id of the definition, which is there already.
  have hother : ∀ u ∈ newTo l ss, ¬ u.id.equal s.id := by
    intro u hu hus
    obtain ⟨hu, hnone⟩ := List.mem_filter.1 hu
    exact List.find?_eq_none.1 (Option.isNone_iff_eq_none.1 hnone) t ht
      (equal_trans (hss u hu) hus hst)
  have hsame : (newTo l ss).filter (fun u => u.id.equal s.id = false) = newTo l ss :=
    List.filter_eq_self.2 fun u hu => decide_eq_true (Bool.eq_false_iff.2 (hother u hu))
  have hplaces : (addTo l s).map (latest ss) = l.map (latest (s :: ss)) := by
    rw [addTo_of_known hs hl hdistinct ⟨t, ht, hst⟩, List.map_map]
    refine List.map_congr_left fun u hu => ?_
    show latest ss (if s.id.equal u.id then s else u) = _
    split
    next hsu => exact (latest_cons_of_known (hl u hu) hs (equal_symm hs hsu)).symm
    next hsu => exact (latest_cons_of_other fun hus => hsu (equal_symm (hl u hu) hus)).symm
  rw [left, left, newTo_addTo l hs hss, hnew, hsame, hplaces,
    map_latest_cons fun u hu => hother u (mem_of_mem_firsts hu)]

theorem foldl_addTo (hss : Keyed ss) (hl : Keyed l) (hdistinct : Distinct l) :
    ss.foldl addTo l = left l ss := by
  induction ss generalizing l with
  | nil => exact ((List.append_nil _).trans (List.map_id l)).symm
  | cons s ss ih =>
    obtain ⟨hs, hss⟩ := List.forall_mem_cons.1 hss
    rw [List.foldl_cons, ih hss (keyed_addTo hl hs) (distinct_addTo hs hl hdistinct)]
    cases h : l.find? fun t => s.id.equal t.id with
    | none => exact left_addTo_of_new hs hss hl h
    | some t => exact left_addTo_of_known hs hss hl hdistinct h

/-- **The row of definitions by themselves.** -/
theorem foldl_addTo_nil (hss : Keyed ss) : ss.foldl addTo [] = (firsts ss).map (latest ss) := by
  have hnew : newTo [] ss = ss := List.filter_eq_self.2 fun _ _ => rfl
  rw [foldl_addTo hss (List.forall_mem_nil _) List.Pairwise.nil, left, hnew, List.map_nil,
    List.nil_append]

theorem distinct_foldl (hss : Keyed ss) (hl : Keyed l) (hdistinct : Distinct l) :
    Distinct (ss.foldl addTo l) := by
  induction ss generalizing l with
  | nil => exact hdistinct
  | cons s ss ih =>
    obtain ⟨hs, hss⟩ := List.forall_mem_cons.1 hss
    exact ih hss (keyed_addTo hl hs) (distinct_addTo hs hl hdistinct)

theorem keyed_foldl (hss : Keyed ss) (hl : Keyed l) : Keyed (ss.foldl addTo l) := by
  induction ss generalizing l with
  | nil => exact hl
  | cons s ss ih =>
    obtain ⟨hs, hss⟩ := List.forall_mem_cons.1 hss
    exact ih hss (keyed_addTo hl hs)

/-- **What an id finds once a row of definitions has been added**: the last one of the row that has
it, or else what it has found before. -/
theorem find?_foldl (l : List ServiceDefinition) (hss : Keyed ss) (hq : q.isKey) :
    (ss.foldl addTo l).find? (fun t => q.equal t.id) =
      (last? ss q).or (l.find? fun t => q.equal t.id) := by
  induction ss generalizing l with
  | nil => rfl
  | cons s ss ih =>
    obtain ⟨hs, hss⟩ := List.forall_mem_cons.1 hss
    rw [List.foldl_cons, ih (addTo l s) hss, find?_addTo l hs hq, last?_cons, Option.or_assoc]
    split
    · rw [Option.some_or]
    · rw [Option.none_or]

/-! ## 3. Looking up -/

/-- **In a row without repeated ids** an id finds the one definition that has it. -/
theorem find?_eq_some_iff (hl : Keyed l) (hdistinct : Distinct l) (hq : q.isKey) :
    (l.find? fun t => q.equal t.id) = some s ↔ s ∈ l ∧ q.equal s.id := by
  constructor
  · intro h
    exact ⟨List.mem_of_find?_eq_some h, by simpa using List.find?_some h⟩
  · rintro ⟨hs, hqs⟩
    obtain ⟨before, after, rfl⟩ := List.append_of_mem hs
    obtain ⟨_, _, hbefore⟩ := List.pairwise_append.1 hdistinct
    refine List.find?_eq_some_iff_append.2 ⟨hqs, before, after, rfl, fun t ht => ?_⟩
    rw [Bool.not_eq_true', Bool.eq_false_iff]
    intro hqt
    exact hbefore t ht s List.mem_cons_self (equal_trans (hl s hs) (equal_symm hq hqs) hqt)

/-- **The last definition of its id**: behind it there is none that has the same one. -/
def IsLast (ss : List ServiceDefinition) (s : ServiceDefinition) : Prop :=
  ∃ before after, ss = before ++ s :: after ∧ ∀ t ∈ after, ¬ s.id.equal t.id

theorem IsLast.concat (h : IsLast ss t) (hts : ¬ t.id.equal s.id) : IsLast (ss ++ [s]) t := by
  obtain ⟨before, after, rfl, hafter⟩ := h
  refine ⟨before, after ++ [s], by rw [List.append_assoc, List.cons_append], fun u hu => ?_⟩
  obtain hu | hu := List.mem_append.1 hu
  · exact hafter u hu
  · rwa [List.mem_singleton.1 hu]

/-- **A definition that has been replaced is not kept.** -/
theorem isLast_of_mem_foldl (hss : Keyed ss) (ht : t ∈ ss.foldl addTo []) : IsLast ss t := by
  induction ss using List.reverseRecOn with
  | nil => cases ht
  | append_singleton ss s ih =>
    obtain ⟨hss, hs⟩ := List.forall_mem_append.1 hss
    replace hs := List.forall_mem_singleton.1 hs
    have hkeyed := keyed_foldl hss (List.forall_mem_nil _)
    have hdistinct := distinct_foldl hss (List.forall_mem_nil _) List.Pairwise.nil
    rw [List.foldl_concat] at ht
    obtain rfl | hold := mem_addTo ht
    · exact ⟨ss, [], rfl, List.forall_mem_nil _⟩
    by_cases hts : t.id.equal s.id
    · have htkey := hkeyed t hold
      have hself := equal_trans htkey hts (equal_symm htkey hts)
      have hfind := (find?_eq_some_iff (keyed_addTo hkeyed hs) (distinct_addTo hs hkeyed hdistinct)
        htkey).2 ⟨ht, hself⟩
      rw [find?_addTo _ hs htkey, if_pos hts] at hfind
      cases hfind
      exact ⟨ss, [], rfl, List.forall_mem_nil _⟩
    · exact (ih hss hold).concat hts

/-! ## 4. Catalogs -/

variable {c : Catalog}

theorem foldlM_add (c : Catalog) (hss : Keyed ss) :
    ss.foldlM add c = .ok ⟨ss.foldl addTo c.services⟩ := by
  induction ss generalizing c with
  | nil => rfl
  | cons s ss ih =>
    obtain ⟨hs, hss⟩ := List.forall_mem_cons.1 hss
    rw [List.foldlM_cons, add, if_pos hs]
    exact ih _ hss

/-- **The first id that is no key is reported**, and there is no catalog. -/
theorem ofDefinitions_of_unkeyed {before after : List ServiceDefinition} (hbefore : Keyed before)
    (hs : ¬ s.id.isKey) :
    ofDefinitions (before ++ s :: after) = .error (.malformed (.noKey s.id)) := by
  have hstep : add ⟨before.foldl addTo []⟩ s = .error (.malformed (.noKey s.id)) := if_neg hs
  rw [ofDefinitions, List.foldlM_append, foldlM_add empty hbefore]
  show List.foldlM add ⟨before.foldl addTo []⟩ (s :: after) = _
  rw [List.foldlM_cons, hstep]
  rfl

/-- **The catalog in data is that of the definitions in it.** -/
theorem ofData_of_read {data : Value} {entries : List Value}
    (hentries : (data.orElse (.list [])).items = .ok entries)
    (hread : entries.mapM ServiceDefinition.ofData = .ok ss) : ofData data = ofDefinitions ss := by
  have hadd : ∀ c : Catalog, entries.foldlM (fun c entry => do
      c.add (← ServiceDefinition.ofData entry)) c = ss.foldlM add c := by
    have hboth := mapM_eq_ok_iff.1 hread
    clear hread hentries
    induction hboth with
    | nil => exact fun _ => rfl
    | cons h _ ih =>
      intro c
      rw [List.foldlM_cons, List.foldlM_cons, h]
      exact congrArg (c.add _ >>= ·) (funext ih)
  rw [ofData, hentries]
  exact hadd empty

theorem repositoryService_eq_ok : c.repositoryService = .ok s ↔
    ∃ before after, c.services = before ++ s :: after ∧ s.repository ∧
      ∀ t ∈ before, ¬ t.repository := by
  have hfound : c.repositoryService = .ok s ↔
      c.services.find? ServiceDefinition.repository = some s := by
    rw [repositoryService]
    cases c.services.find? ServiceDefinition.repository <;> simp
  rw [hfound, List.find?_eq_some_iff_append]
  simp only [Bool.not_eq_true', Bool.not_eq_true]
  constructor
  · rintro ⟨hs, before, after, hservices, hbefore⟩
    exact ⟨before, after, hservices, hs, hbefore⟩
  · rintro ⟨before, after, hservices, hs, hbefore⟩
    exact ⟨hs, before, after, hservices, hbefore⟩

theorem repositoryService_eq_error {f : Fault} : c.repositoryService = .error f ↔
    f = .configuration "No repository service configured" ∧ ∀ s ∈ c.services, ¬ s.repository := by
  rw [repositoryService, ← List.find?_eq_none]
  cases c.services.find? ServiceDefinition.repository with
  | none =>
    constructor
    · intro h
      cases h
      exact ⟨rfl, rfl⟩
    · rintro ⟨rfl, _⟩
      rfl
  | some s =>
    constructor
    · intro h
      cases h
    · rintro ⟨_, h⟩
      cases h

/-- **A repeated id has one place and one definition.** For every list of definitions whose ids can
be keys there is a catalog: it holds each id once, where it appears first and with the definition
that is given for it last; an id that is looked for finds the last definition that has it, which is
the one definition of the catalog with that id, and none if there is none; and the service for the
repository is the first one of the catalog that is for it, so never one that has been replaced, and
is missing exactly if there is none. An id that can be no key is refused, in the list as well as in
a look-up. The catalog in data is that of the definitions in it. -/
theorem repeated_ids_resolved (ss : List ServiceDefinition) :
    (∀ before s after, ss = before ++ s :: after → Keyed before → ¬ s.id.isKey →
      ofDefinitions ss = .error (.malformed (.noKey s.id))) ∧
    (Keyed ss → ∃ c, ofDefinitions ss = .ok c ∧
      (c.services = (firsts ss).map (latest ss) ∧ Distinct c.services ∧
        ∀ s ∈ c.services, IsLast ss s) ∧
      (∀ q : Value, c.find? q = if q.isKey then .ok (last? ss q) else .error (.noKey q)) ∧
      (∀ q : Value, q.isKey → ∀ s, last? ss q = some s ↔ s ∈ c.services ∧ q.equal s.id) ∧
      (∀ s, c.repositoryService = .ok s ↔ ∃ before after, c.services = before ++ s :: after ∧
        s.repository ∧ ∀ t ∈ before, ¬ t.repository) ∧
      (∀ f, c.repositoryService = .error f ↔
        f = .configuration "No repository service configured" ∧
          ∀ s ∈ c.services, ¬ s.repository)) ∧
    ∀ data entries, (data.orElse (.list [])).items = .ok entries →
      entries.mapM ServiceDefinition.ofData = .ok ss → ofData data = ofDefinitions ss := by
  refine ⟨?_, fun hss => ?_, fun data entries => ofData_of_read⟩
  · rintro before s after rfl hbefore hs
    exact ofDefinitions_of_unkeyed hbefore hs
  · have hkeyed := keyed_foldl hss (List.forall_mem_nil _)
    have hdistinct := distinct_foldl hss (List.forall_mem_nil _) List.Pairwise.nil
    have hfind : ∀ q : Value, q.isKey →
        ((ss.foldl addTo []).find? fun t => q.equal t.id) = last? ss q := by
      intro q hq
      rw [find?_foldl [] hss hq, List.find?_nil, Option.or_none]
    refine ⟨_, foldlM_add empty hss, ⟨foldl_addTo_nil hss, hdistinct,
      fun s hs => isLast_of_mem_foldl hss hs⟩, fun q => ?_, fun q hq s => ?_,
      fun s => repositoryService_eq_ok, fun f => repositoryService_eq_error⟩
    · by_cases hq : q.isKey
      · rw [Catalog.find?, if_pos hq, if_pos hq]
        exact congrArg Except.ok (hfind q hq)
      · rw [Catalog.find?, if_neg hq, if_neg hq]
    · rw [← hfind q hq]
      exact find?_eq_some_iff hkeyed hdistinct hq

/-- A bucket service with its id for a name. -/
def named (id : Value) (repository : Bool) : ServiceDefinition :=
  ⟨id, id, "bucket", .null, [], repository, []⟩

/-- A service for the repository that is replaced by one that is not for it keeps its place, and the
next one is chosen. -/
theorem repeated_ids_resolved_replaced :
    let ss := [named "a" true, named "b" true, named "a" false]
    Keyed ss ∧ ∃ c, ofDefinitions ss = .ok c ∧
      c.services = [named "a" false, named "b" true] ∧
      c.find? "a" = .ok (some (named "a" false)) ∧ c.repositoryService = .ok (named "b" true) := by
  intro ss
  have hss : Keyed ss := by decide
  obtain ⟨c, hc, ⟨hservices, _⟩, hfind, _, hchosen, _⟩ := (repeated_ids_resolved ss).2.1 hss
  have hrow : c.services = [named "a" false, named "b" true] := by
    rw [hservices]
    simp [ss, firsts, List.eraseDupsBy_cons, latest, last?, named, Mapping.text_equal_text]
  have hlast : last? ss "a" = some (named "a" false) := by
    simp [ss, last?, named, Mapping.text_equal_text]
  refine ⟨hss, c, hc, hrow, ?_, (hchosen _).2 ⟨[named "a" false], [], hrow, rfl, ?_⟩⟩
  · exact (hfind "a").trans ((if_pos rfl).trans (congrArg Except.ok hlast))
  · exact List.forall_mem_singleton.2 Bool.false_ne_true

/-- **An id that is no key has no place**: a list is neither taken for the id of a service nor found
not to be one. -/
theorem unkeyed_ids_refused :
    let listed := named (.list [.int 1]) false
    let plain := named "a" false
    ofDefinitions [listed] = .error (.malformed (.noKey listed.id)) ∧
      ∃ c, ofDefinitions [plain] = .ok c ∧ last? [plain] (.list []) = none ∧
        c.find? (.list []) = .error (.noKey (.list [])) :=
  ⟨rfl, _, rfl, by simp [last?, named, Value.equal], rfl⟩

end StorageBroker.Catalog
