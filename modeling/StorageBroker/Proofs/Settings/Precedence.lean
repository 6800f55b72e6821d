import StorageBroker.Proofs.Broker.Forced
/-!
# Which of several settings prevails

Groups of settings are forced on parameters one after the other. Value and place of a key follow
opposite rules: the last group that has the key gives its value, and gives it as a whole, while its
place is the one where it has appeared first.

* `find?_update_row`, `keys_update_row` -- the entries and the keys once a row of entries has been
  set, one after the other;
* `merge_of_given`, `merge_append` -- what merging comes to, and merging in two steps;
* `last_settings_prevail` -- what is found under every key, and the order of the keys; the service
  prevails over the plan, and the plan over the request.
-/

namespace StorageBroker

/-! ## 1. Setting a row of entries -/

namespace Mapping

open Value (equal_symm equal_trans)

variable {m : Mapping} {ms : List Mapping} {es : List (Value × Value)} {k q v : Value}

/-- **What every mapping has**: its keys can be keys, and no two of them are equal. -/
structure WellFormed (m : Mapping) : Prop where
  keyed : Keyed m
  distinct : m.Pairwise fun e later => ¬ e.1.equal later.1

instance (m : Mapping) : Decidable m.WellFormed :=
  decidable_of_iff ((∀ e ∈ m, e.1.isKey) ∧ m.Pairwise fun e later => ¬ e.1.equal later.1)
    ⟨fun h => ⟨h.1, h.2⟩, fun h => ⟨h.keyed, h.distinct⟩⟩

/-- The value that a row of entries gives for a key last. -/
def lastIn (es : List (Value × Value)) (q : Value) : Option Value :=
  ((es.filter fun e => q.equal e.1).map Prod.snd).getLast?

theorem lastIn_cons (e : Value × Value) (es : List (Value × Value)) (q : Value) :
    lastIn (e :: es) q = (lastIn es q).or (if q.equal e.1 then some e.2 else none) := by
  unfold lastIn
  by_cases h : q.equal e.1
  · rw [if_pos h, List.filter_cons_of_pos (by exact h), List.map_cons, List.getLast?_cons,
      Option.or_some]
  · rw [if_neg h, List.filter_cons_of_neg (by exact h), Option.or_none]

theorem lastIn_append (es fs : List (Value × Value)) (q : Value) :
    lastIn (es ++ fs) q = (lastIn fs q).or (lastIn es q) := by
  unfold lastIn
  rw [List.filter_append, List.map_append, List.getLast?_append]

/-- In a mapping a key has one value only. -/
theorem WellFormed.lastIn_eq (h : WellFormed m) (hq : q.isKey) : lastIn m q = find? m q := by
  induction m with
  | nil => rfl
  | cons e m ih =>
    obtain ⟨he, hkeyed⟩ := List.forall_mem_cons.1 h.keyed
    obtain ⟨hout, hdistinct⟩ := List.pairwise_cons.1 h.distinct
    rw [lastIn_cons, ih ⟨hkeyed, hdistinct⟩, find?_cons]
    by_cases hqe : q.equal e.1
    · have hnone : find? m q = none := find?_eq_none fun later hlater hql =>
        hout later hlater (equal_trans he (equal_symm hq hqe) hql)
      rw [if_pos hqe, if_pos hqe, hnone, Option.none_or]
    · rw [if_neg hqe, if_neg hqe, Option.or_none]

/-- **What is found once a row of entries has been set**: what the row gives last, or else what has
been there before. -/
theorem find?_update_row (hkeyed : Keyed es) (hq : q.isKey) :
    find? (update m es) q = (lastIn es q).or (find? m q) := by
  induction es generalizing m with
  | nil => rfl
  | cons e es ih =>
    obtain ⟨he, hrest⟩ := List.forall_mem_cons.1 hkeyed
    have hstep : find? (update m (e :: es)) q =
        (lastIn es q).or (find? (insert m e.1 e.2) q) := ih hrest
    rw [hstep, find?_insert m e.2 he hq, lastIn_cons, Option.or_assoc]
    by_cases hqe : q.equal e.1
    · rw [if_pos hqe, if_pos hqe, Option.some_or]
    · rw [if_neg hqe, if_neg hqe, Option.none_or]

/-- What several mappings in a row give for a key last is what the last of them that has the key
gives for it. -/
theorem lastIn_flatten (h : ∀ s ∈ ms, WellFormed s) (hq : q.isKey) :
    lastIn ms.flatten q = (ms.filterMap fun s => find? s q).getLast? := by
  induction ms with
  | nil => rfl
  | cons s ms ih =>
    obtain ⟨hs, hrest⟩ := List.forall_mem_cons.1 h
    rw [List.flatten_cons, lastIn_append, ih hrest, hs.lastIn_eq hq, List.filterMap_cons]
    cases find? s q with
    | none => exact Option.or_none
    | some v => rw [List.getLast?_cons, Option.or_some]

/-- Keys, each where it appears first. -/
def firstAppearances (ks : List Value) : List Value := ks.eraseDupsBy Value.equal

/-- Setting a key adds it at the end, unless it is there. -/
theorem keys_insert (m : Mapping) (k v : Value) :
    keys (insert m k v) = if (keys m).any k.equal then keys m else keys m ++ [k] := by
  induction m with
  | nil => rfl
  | cons e m ih =>
    obtain ⟨k', w⟩ := e
    rw [insert]
    by_cases h : k.equal k'
    · have hany : (keys ((k', w) :: m)).any k.equal := by simp [keys, h]
      rw [if_pos h, if_pos hany]
      rfl
    · have hany : (keys ((k', w) :: m)).any k.equal = (keys m).any k.equal := by simp [keys, h]
      rw [if_neg h, hany]
      show k' :: keys (insert m k v) = _
      rw [ih]
      split
      · rfl
      · rfl

/-- **The keys once a row of entries has been set**: those that have been there, in their order, and
behind them the new ones, each where the row has it first. -/
theorem keys_update_row (m : Mapping) (es : List (Value × Value)) :
    keys (update m es) =
      keys m ++ firstAppearances ((keys es).filter fun k => !(keys m).any k.equal) := by
  induction es generalizing m with
  | nil => exact (List.append_nil _).symm
  | cons e es ih =>
    have hstep : keys (update m (e :: es)) = keys (insert m e.1 e.2) ++ firstAppearances
        ((keys es).filter fun k => !(keys (insert m e.1 e.2)).any k.equal) := ih _
    have hkeys : keys (e :: es) = e.1 :: keys es := rfl
    rw [hstep, keys_insert, hkeys]
    by_cases hany : (keys m).any e.1.equal
    · rw [if_pos hany, List.filter_cons_of_neg (by rw [hany]; exact Bool.false_ne_true)]
    · have hnew : (!(keys m).any e.1.equal) = true := by rw [Bool.eq_false_iff.2 hany]; rfl
      rw [if_neg hany, List.filter_cons_of_pos (by exact hnew), firstAppearances, firstAppearances,
        List.eraseDupsBy_cons, List.filter_filter, List.append_assoc, List.singleton_append]
      -- What is neither there before nor equal to the new key is not there behind it.
      have hbehind : ((keys es).filter fun k => !(keys m ++ [e.1]).any k.equal) =
          (keys es).filter fun k =>
            decide (k.equal e.1 = false) && !(keys m).any k.equal := by
        refine List.filter_congr fun k _ => ?_
        rw [List.any_append, List.any_cons, List.any_nil, Bool.or_false, Bool.not_or, Bool.and_comm]
        cases k.equal e.1 <;> rfl
      rw [hbehind]

/-- Updating with several mappings sets all their entries in a row. -/
theorem foldl_update (m : Mapping) (ms : List Mapping) :
    ms.foldl update m = update m ms.flatten := List.foldl_flatten.symm

theorem keys_flatten (ms : List Mapping) : keys ms.flatten = ms.flatMap keys := by
  rw [keys, List.map_flatten, List.flatMap_def]
  rfl

end Mapping

/-! ## 2. Merging -/

namespace Settings

open Broker (Given)
open Mapping (find? keys firstAppearances)

variable {parameters v w : Value} {m : Mapping} {settings : List Value} {ms : List Mapping}

theorem start_of_given (h : Given parameters m) : start parameters = .mapping m := by
  cases h <;> rfl

theorem apply_of_given {s : Mapping} (h : Given v s) (m : Mapping) :
    apply (.mapping m) v = .ok (.mapping (Mapping.update m s)) := by
  cases h with
  | nothing => rfl
  | mapping s => cases s <;> rfl

/-- **Merging updates the parameters with each group of settings in turn.** -/
theorem merge_of_given (hm : Given parameters m) (hs : List.Forall₂ Given settings ms) :
    merge parameters settings = .ok (.mapping (ms.foldl Mapping.update m)) := by
  rw [merge, start_of_given hm]
  clear hm
  induction hs generalizing m with
  | nil => rfl
  | cons h _ ih =>
    rw [List.foldlM_cons, apply_of_given h]
    exact ih

theorem isNull_start (parameters : Value) : (start parameters).isNull = false := by
  cases parameters <;> rfl

theorem isNull_of_apply (h : apply v w = .ok parameters) (hv : v.isNull = false) :
    parameters.isNull = false := by
  unfold apply at h
  split at h
  · obtain ⟨_, _, h⟩ := bind_eq_ok.1 h
    obtain ⟨_, _, h⟩ := bind_eq_ok.1 h
    obtain rfl := pure_eq_ok.1 h
    rfl
  · cases h
    exact hv

/-- Merged parameters are there, even if nothing has been given. -/
theorem isNull_of_foldl (h : settings.foldlM apply v = .ok w) (hv : v.isNull = false) :
    w.isNull = false := by
  induction settings generalizing v with
  | nil =>
    cases h
    exact hv
  | cons s settings ih =>
    rw [List.foldlM_cons] at h
    obtain ⟨v', hstep, hrest⟩ := bind_eq_ok.1 h
    exact ih hrest (isNull_of_apply hstep hv)

/-- **Merging can be done in two steps**, whatever is merged. -/
theorem merge_append (parameters : Value) (before after : List Value) :
    merge parameters (before ++ after) =
      (merge parameters before >>= fun merged => merge merged after) := by
  rw [merge, List.foldlM_append]
  show (merge parameters before >>= _) = _
  cases hmerged : merge parameters before with
  | error e => rfl
  | ok merged =>
    have hnull := isNull_of_foldl hmerged (isNull_start parameters)
    show List.foldlM apply merged after = merge merged after
    rw [merge, start_of_ne_null hnull]

/-- What merging groups of settings comes to, key by key. -/
theorem merge_key_by_key (hm : Given parameters m) (hs : List.Forall₂ Given settings ms)
    (hwell : ∀ s ∈ ms, s.WellFormed) :
    ∃ n, merge parameters settings = .ok (.mapping n) ∧
      (∀ q : Value, q.isKey →
        find? n q = (ms.filterMap fun s => find? s q).getLast?.or (find? m q)) ∧
      keys n = keys m ++
        firstAppearances ((ms.flatMap keys).filter fun k => !(keys m).any k.equal) := by
  refine ⟨_, merge_of_given hm hs, fun q hq => ?_, ?_⟩
  · have hkeyed : Mapping.Keyed ms.flatten := by
      intro e he
      obtain ⟨s, hsm, hes⟩ := List.mem_flatten.1 he
      exact (hwell s hsm).keyed e hes
    rw [Mapping.foldl_update, Mapping.find?_update_row hkeyed hq, Mapping.lastIn_flatten hwell hq]
  · rw [Mapping.foldl_update, Mapping.keys_update_row, Mapping.keys_flatten]

/-- **Forced settings prevail key by key.** For all parameters that are given as a mapping or not at
all, and every row of settings each of which is a mapping or nothing: under every key there is the
whole value that the last settings with the key have for it, or else what the parameters have; the
keys are those of the parameters in their order and behind them the new ones, each where it appears
first; and settings may as well be merged in two steps. So the settings of the service prevail over
those of the plan, and these over the request. -/
theorem last_settings_prevail (hm : Given parameters m) (hs : List.Forall₂ Given settings ms)
    (hwell : ∀ s ∈ ms, s.WellFormed) (plan : Plan) (service : ServiceDefinition)
    (hplan : plan.serviceSettings.WellFormed) (hservice : service.serviceSettings.WellFormed) :
    (∃ n, merge parameters settings = .ok (.mapping n) ∧
      (∀ q : Value, q.isKey →
        find? n q = (ms.filterMap fun s => find? s q).getLast?.or (find? m q)) ∧
      keys n = keys m ++
        firstAppearances ((ms.flatMap keys).filter fun k => !(keys m).any k.equal)) ∧
    (∀ before after, settings = before ++ after → merge parameters settings =
      (merge parameters before >>= fun merged => merge merged after)) ∧
    ∃ n, mergeFor parameters plan service = .ok (.mapping n) ∧ ∀ q : Value, q.isKey →
      find? n q = (find? service.serviceSettings q).or
        ((find? plan.serviceSettings q).or (find? m q)) := by
  refine ⟨merge_key_by_key hm hs hwell, ?_, ?_⟩
  · rintro before after rfl
    exact merge_append parameters before after
  · have hboth : List.Forall₂ Given
        [.mapping plan.serviceSettings, .mapping service.serviceSettings]
        [plan.serviceSettings, service.serviceSettings] :=
      .cons (.mapping _) (.cons (.mapping _) .nil)
    have hwellBoth : ∀ s ∈ [plan.serviceSettings, service.serviceSettings],
        Mapping.WellFormed s := by
      intro s hsm
      rcases List.mem_pair.1 hsm with rfl | rfl
      · exact hplan
      · exact hservice
    obtain ⟨n, hn, hfound, _⟩ := merge_key_by_key hm hboth hwellBoth
    refine ⟨n, hn, fun q hq => ?_⟩
    rw [hfound q hq, List.filterMap_cons, List.filterMap_cons, List.filterMap_nil]
    cases find? service.serviceSettings q <;> cases find? plan.serviceSettings q <;> rfl

/-- Two groups of settings with nothing between them: the quota is that of the second one, at the
place where the request had it. -/
theorem last_settings_prevail_quota :
    let asked : Mapping := [(.text "quota", .int 1), (.text "head-type", .text "s3")]
    let first : Mapping := [(.text "encrypted", .bool true), (.text "quota", .int 2)]
    let second : Mapping := [(.text "quota", .int 3)]
    Given (.mapping asked) asked ∧
      List.Forall₂ Given [.mapping first, .null, .mapping second] [first, [], second] ∧
      (∀ s ∈ [first, [], second], Mapping.WellFormed s) ∧
      Broker.limited.serviceSettings.WellFormed ∧ Broker.unlimited.serviceSettings.WellFormed ∧
      ∃ n, merge (.mapping asked) [.mapping first, .null, .mapping second] = .ok (.mapping n) ∧
        (keys n).map Value.plain = (["quota", "head-type", "encrypted"] : List Text) ∧
        find? n (.text "quota") = some (.int 3) := by
  intro asked first second
  have hs : List.Forall₂ Given [.mapping first, .null, .mapping second] [first, [], second] :=
    .cons (.mapping _) (.cons .nothing (.cons (.mapping _) .nil))
  have hwell : ∀ s ∈ [first, [], second], Mapping.WellFormed s := by decide +kernel
  have hplan : Broker.limited.serviceSettings.WellFormed := by decide +kernel
  have hservice : Broker.unlimited.serviceSettings.WellFormed := by decide +kernel
  obtain ⟨⟨n, hn, hfound, hkeys⟩, _⟩ := last_settings_prevail (.mapping asked) hs hwell
    Broker.limited Broker.unlimited hplan hservice
  refine ⟨.mapping asked, hs, hwell, hplan, hservice, n, hn, ?_, ?_⟩
  · rw [hkeys]
    decide +kernel
  · have hfirst : find? first (.text "quota") = some (.int 2) := by
      simp [first, find?, Mapping.text_equal_text]
    have hsecond : find? second (.text "quota") = some (.int 3) := by
      simp [second, find?, Mapping.text_equal_text]
    rw [hfound _ rfl]
    simp only [List.filterMap_cons, hfirst, hsecond]
    rfl

end Settings

end StorageBroker
