import StorageBroker.Proofs.Broker.Forced
import StorageBroker.Proofs.Broker.Reporting
import StorageBroker.Proofs.Settings.Refusal
/-!
# What the check of a policy finds

A request may ask for a reclaim policy under one name and restrict the choice under another, with
values of any kind. The check always comes to an outcome, and which one it is can be told from the
two values alone: from whether the first one names a policy, whether the second one lists policies,
and whether the one is among the others.

* `Names`, `Lists` -- the values that name a policy, and those that list policies;
* `Asks`, `Allows` -- the policy that parameters ask for, and those that they allow;
* `parse_eq_ok_iff`, `requested_eq_ok_iff`, `allowed_eq_ok_iff` -- these are what is read;
* `Finding` -- the four outcomes of a check, each with its reason;
* `finding_of_mapping`, `Finding.classified` -- every check has one of them, and the reasons exclude
  each other.
-/

namespace StorageBroker

/-! ## 1. Items of a text -/

namespace Text

/-- Whether there is anything but blanks in a text. -/
def hasContent (cs : List Character) : Bool := cs.any fun c => !isBlankIn c

/-- **The items of a text**: what stands between its commas, without the blanks around it, unless it
is blank. -/
def itemsOf (s : Text) : List Text :=
  ((s.toList.splitOn (.scalar ',')).filter hasContent).map fun part => ofList (strip part)

/-- Something is left of a text without the blanks around it if it has content. -/
theorem isEmpty_strip (cs : List Character) : (!(strip cs).isEmpty) = hasContent cs := by
  have hempty : (strip cs).isEmpty = cs.all isBlankIn := by
    rw [Bool.eq_iff_iff, List.isEmpty_iff, strip_eq_nil_iff, List.all_eq_true]
  rw [hempty, hasContent, List.not_all_eq_any_not]

end Text

namespace ReclaimPolicy

open Settings (settingIn settingIn_cases)
open Text (itemsOf)

variable {m : Mapping} {v : Value} {p default : ReclaimPolicy} {ps : List ReclaimPolicy}
  {t : Text}

theorem namesIn_eq (s : Text) : (namesIn s.toList).map Text.ofList = itemsOf s := by
  have hcontent : (fun name : List Character => !name.isEmpty) ∘ Text.strip = Text.hasContent :=
    funext Text.isEmpty_strip
  rw [namesIn, Text.splitOn_eq_splitOn, List.filter_map, hcontent, List.map_map]
  rfl

/-! ## 2. Values that name policies -/

/-- **A value names a policy** if it is that policy or the name of it. -/
inductive Names : Value → ReclaimPolicy → Prop where
  | member (p : ReclaimPolicy) : Names (.policy p) p
  | name (p : ReclaimPolicy) : Names (.text p.name) p

theorem names_text_iff : Names (.text t) p ↔ t = p.name := by
  constructor
  · intro h
    cases h
    rfl
  · rintro rfl
    exact .name p

/-- **What is read as a policy names it.** -/
theorem parse_eq_ok_iff : parse v = .ok p ↔ Names v p := by
  constructor
  · intro h
    unfold parse at h
    split at h
    next q =>
      cases h
      exact .member p
    next s =>
      split at h
      next q hq =>
        cases h
        rw [names_text_iff]
        exact (ofName?_eq_some_iff.1 hq).symm
      next => cases h
    next => cases h
  · intro h
    cases h with
    | member => exact parse_policy p
    | name => exact parse_name p

/-- **A value lists policies** if it is a text whose items are their names, or anything else that
has items, all of which name them. -/
inductive Lists : Value → List ReclaimPolicy → Prop where
  | names {s : Text} {ps : List ReclaimPolicy} (h : itemsOf s = ps.map name) :
      Lists (.text s) ps
  | items {v : Value} {xs : List Value} {ps : List ReclaimPolicy} (hv : ∀ s, v ≠ .text s)
      (hxs : v.items = .ok xs) (h : List.Forall₂ Names xs ps) : Lists v ps

/-- A list of values is read as policies that they name. -/
theorem mapM_parse_eq_ok_iff {xs : List Value} :
    xs.mapM parse = .ok ps ↔ List.Forall₂ Names xs ps := by
  rw [mapM_eq_ok_iff]
  simp only [parse_eq_ok_iff]

/-- Texts are read as the policies whose names they are. -/
theorem mapM_parse_text_iff {names : List Text} :
    (names.map Value.text).mapM parse = .ok ps ↔ names = ps.map name := by
  rw [mapM_parse_eq_ok_iff, List.forall₂_map_left_iff]
  simp only [names_text_iff]
  rw [← List.forall₂_map_right_iff (R := Eq), List.forall₂_eq_eq_eq]

/-- **What is read as a list of policies lists them.** -/
theorem lists_iff : (allowedItems v >>= fun xs => xs.mapM parse) = .ok ps ↔ Lists v ps := by
  -- A text is read by its items; anything else that has items is read by them as they are.
  by_cases htext : ∃ s, v = .text s
  · obtain ⟨s, rfl⟩ := htext
    have hitems : allowedItems (.text s) = .ok ((itemsOf s).map Value.text) := by
      rw [allowedItems, ← namesIn_eq, List.map_map]
      rfl
    rw [hitems]
    refine mapM_parse_text_iff.trans ⟨.names, fun h => ?_⟩
    cases h with
    | names h => exact h
    | items hv => exact absurd rfl (hv s)
  · have hv : ∀ s, v ≠ .text s := fun s hs => htext ⟨s, hs⟩
    have hitems : allowedItems v = v.items := by
      cases v with
      | text s => exact absurd rfl (hv s)
      | _ => rfl
    rw [hitems, bind_eq_ok]
    constructor
    · rintro ⟨xs, hxs, h⟩
      exact .items hv hxs (mapM_parse_eq_ok_iff.1 h)
    · intro h
      cases h with
      | names => exact absurd rfl (hv _)
      | items _ hxs h => exact ⟨_, hxs, mapM_parse_eq_ok_iff.2 h⟩

/-! ## 3. Parameters -/

/-- **The policy that parameters ask for**: the one that is named, and the default where none is. -/
def Asks (m : Mapping) (default p : ReclaimPolicy) : Prop :=
  match settingIn m Settings.reclaimPolicy with
  | none => p = default
  | some v => Names v p

/-- **The policies that parameters allow**: those that are listed, and all where none are. -/
def Allows (m : Mapping) (ps : List ReclaimPolicy) : Prop :=
  match settingIn m Settings.allowedReclaimPolicies with
  | none => ps = all
  | some v => Lists v ps

/-- What is asked for is no policy. -/
def AsksMalformed (m : Mapping) : Prop :=
  ∃ v, settingIn m Settings.reclaimPolicy = some v ∧ ∀ p, ¬ Names v p

/-- What is allowed is no list of policies. -/
def AllowsMalformed (m : Mapping) : Prop :=
  ∃ v, settingIn m Settings.allowedReclaimPolicies = some v ∧ ∀ ps, ¬ Lists v ps

theorem requested_eq_ok_iff :
    requested (.mapping m) (.policy default) = .ok v ↔ ∃ p, Asks m default p ∧ v = .policy p := by
  have hdefault : (.ok (.policy default) : Except Malformed Value) = .ok v ↔
      ∃ p, p = default ∧ v = .policy p := by
    rw [exists_eq_left, Except.ok.injEq, eq_comm]
  rw [requested, settingOf_mapping]
  unfold Asks
  obtain ⟨hsetting, hget⟩ | ⟨hsetting, hget⟩ | ⟨w, hsetting, hget, hnull⟩ :=
    settingIn_cases m Settings.reclaimPolicy
  · rw [hsetting, hget]
    exact hdefault
  · rw [hsetting, hget]
    exact hdefault
  · rw [hsetting, hget]
    show (if w.isNull then _ else parse w >>= fun p => pure (Value.policy p)) = .ok v ↔ _
    rw [hnull, if_neg Bool.false_ne_true, bind_eq_ok]
    simp only [parse_eq_ok_iff, pure_eq_ok]

theorem allowed_eq_ok_iff : allowed (.mapping m) = .ok ps ↔ Allows m ps := by
  rw [allowed, settingOf_mapping]
  unfold Allows
  obtain ⟨hsetting, hget⟩ | ⟨hsetting, hget⟩ | ⟨w, hsetting, hget, hnull⟩ :=
    settingIn_cases m Settings.allowedReclaimPolicies
  · rw [hsetting, hget]
    exact pure_eq_ok
  · rw [hsetting, hget]
    exact pure_eq_ok
  · rw [hsetting, hget]
    show (if w.isNull then _ else allowedItems w >>= fun xs => xs.mapM parse) = .ok ps ↔ _
    rw [hnull, if_neg Bool.false_ne_true]
    exact lists_iff

theorem Asks.unique {q : ReclaimPolicy} (hp : Asks m default p) (hq : Asks m default q) :
    p = q := by
  have hread := requested_eq_ok_iff.2 ⟨p, hp, rfl⟩
  rw [requested_eq_ok_iff.2 ⟨q, hq, rfl⟩] at hread
  exact (Value.policy.inj (Except.ok.inj hread)).symm

theorem Allows.unique {qs : List ReclaimPolicy} (hps : Allows m ps) (hqs : Allows m qs) :
    ps = qs := by
  have hread := allowed_eq_ok_iff.2 hps
  rw [allowed_eq_ok_iff.2 hqs] at hread
  exact (Except.ok.inj hread).symm

/-- Parameters ask for a policy, or for what is none. -/
theorem asksMalformed_iff (default : ReclaimPolicy) :
    AsksMalformed m ↔ ∀ p, ¬ Asks m default p := by
  unfold AsksMalformed Asks
  cases settingIn m Settings.reclaimPolicy with
  | none => exact ⟨nofun, fun h => absurd rfl (h default)⟩
  | some v =>
    refine ⟨?_, fun h => ⟨v, rfl, h⟩⟩
    rintro ⟨_, hv, h⟩
    cases hv
    exact h

/-- Parameters allow policies, or what does not list any. -/
theorem allowsMalformed_iff : AllowsMalformed m ↔ ∀ ps, ¬ Allows m ps := by
  unfold AllowsMalformed Allows
  cases settingIn m Settings.allowedReclaimPolicies with
  | none => exact ⟨nofun, fun h => absurd rfl (h all)⟩
  | some v =>
    refine ⟨?_, fun h => ⟨v, rfl, h⟩⟩
    rintro ⟨_, hv, h⟩
    cases hv
    exact h

/-! ## 4. Outcomes -/

/-- **The outcomes of a check**, each with its reason. -/
inductive Finding (m : Mapping) (default : ReclaimPolicy) (shown : Value) : Check → Prop where
  | malformedPolicy (h : AsksMalformed m) :
      Finding m default shown ⟨.null, none, some .malformedPolicy, shown⟩
  | malformedAllowed {p : ReclaimPolicy} (hp : Asks m default p) (h : AllowsMalformed m) :
      Finding m default shown ⟨.policy p, none, some .malformedAllowed, shown⟩
  | rejected {p : ReclaimPolicy} {ps : List ReclaimPolicy} (hp : Asks m default p)
      (hps : Allows m ps) (h : p ∉ ps) :
      Finding m default shown ⟨.policy p, some ps, some .rejected, shown⟩
  | passed {p : ReclaimPolicy} {ps : List ReclaimPolicy} (hp : Asks m default p)
      (hps : Allows m ps) (h : p ∈ ps) :
      Finding m default shown ⟨.policy p, some ps, none, shown⟩

/-- The value that a check shows: what was asked for, by name. -/
def shownOf (m : Mapping) (default : ReclaimPolicy) : Value :=
  Check.named ((Mapping.get m Settings.reclaimPolicy).getD (.policy default))

theorem isAmong_iff : Check.isAmong (.policy p) ps ↔ p ∈ ps := by
  rw [Check.isAmong, List.any_eq_true]
  simp only [Value.equal_policy_iff, Value.policy.injEq]
  exact exists_eq_right

/-- **Every check comes to one of the outcomes.** -/
theorem finding_of_mapping (m : Mapping) (default : ReclaimPolicy) :
    ∃ c, Check.ofParameters (.mapping m) (.policy default) = .ok c ∧
      Finding m default (shownOf m default) c := by
  rw [Check.ofParameters, settingOf_mapping]
  dsimp only [bind, Except.bind]
  cases hrequested : requested (.mapping m) (.policy default) with
  | error e =>
    obtain ⟨d, rfl⟩ := content_of_requested hrequested
    have hmalformed : AsksMalformed m := by
      refine (asksMalformed_iff default).2 fun p hp => ?_
      cases hrequested.symm.trans (requested_eq_ok_iff.2 ⟨p, hp, rfl⟩)
    exact ⟨_, rfl, .malformedPolicy hmalformed⟩
  | ok policy =>
    obtain ⟨p, hp, rfl⟩ := requested_eq_ok_iff.1 hrequested
    dsimp only
    cases hallowed : allowed (.mapping m) with
    | error e =>
      have hmalformed : AllowsMalformed m := by
        refine allowsMalformed_iff.2 fun ps hps => ?_
        cases hallowed.symm.trans (allowed_eq_ok_iff.2 hps)
      obtain ⟨d, rfl⟩ | ⟨d, rfl⟩ := told_of_allowed hallowed
      · exact ⟨_, rfl, .malformedAllowed hp hmalformed⟩
      · exact ⟨_, rfl, .malformedAllowed hp hmalformed⟩
    | ok ps =>
      have hps := allowed_eq_ok_iff.1 hallowed
      refine ⟨_, rfl, ?_⟩
      by_cases hmem : p ∈ ps
      · rw [if_pos (isAmong_iff.2 hmem)]
        exact .passed hp hps hmem
      · rw [if_neg (mt isAmong_iff.1 hmem)]
        exact .rejected hp hps hmem

/-- **What a check finds**, told by the parameters alone. -/
structure Classified (m : Mapping) (default : ReclaimPolicy) (c : Check) : Prop where
  malformedPolicy : c.failure = some .malformedPolicy ↔ AsksMalformed m
  malformedAllowed : c.failure = some .malformedAllowed ↔ ¬ AsksMalformed m ∧ AllowsMalformed m
  rejected : c.failure = some .rejected ↔ ∃ p ps, Asks m default p ∧ Allows m ps ∧ p ∉ ps
  passed : c.failure = none ↔ ∃ p ps, Asks m default p ∧ Allows m ps ∧ p ∈ ps
  policy : ∀ p, Asks m default p → c.policy = .policy p
  allowed : ∀ p ps, Asks m default p → Allows m ps → c.allowed = some ps
  value : c.value = shownOf m default

/-- **The reasons of the outcomes exclude each other.** -/
theorem Finding.classified {c : Check} (h : Finding m default (shownOf m default) c) :
    Classified m default c := by
  cases h with
  | malformedPolicy hmalformed =>
    have hno : ∀ p, ¬ Asks m default p := (asksMalformed_iff default).1 hmalformed
    exact {
      malformedPolicy := ⟨fun _ => hmalformed, fun _ => rfl⟩
      malformedAllowed := ⟨nofun, fun h => absurd hmalformed h.1⟩
      rejected := ⟨nofun, fun ⟨p, _, hp, _⟩ => absurd hp (hno p)⟩
      passed := ⟨nofun, fun ⟨p, _, hp, _⟩ => absurd hp (hno p)⟩
      policy := fun p hp => absurd hp (hno p)
      allowed := fun p _ hp => absurd hp (hno p)
      value := rfl }
  | @malformedAllowed p hp hmalformed =>
    have hasks : ¬ AsksMalformed m := fun h => (asksMalformed_iff default).1 h p hp
    have hno : ∀ ps, ¬ Allows m ps := allowsMalformed_iff.1 hmalformed
    exact {
      malformedPolicy := ⟨nofun, fun h => absurd h hasks⟩
      malformedAllowed := ⟨fun _ => ⟨hasks, hmalformed⟩, fun _ => rfl⟩
      rejected := ⟨nofun, fun ⟨_, ps, _, hps, _⟩ => absurd hps (hno ps)⟩
      passed := ⟨nofun, fun ⟨_, ps, _, hps, _⟩ => absurd hps (hno ps)⟩
      policy := fun q hq => by rw [hp.unique hq]
      allowed := fun _ ps _ hps => absurd hps (hno ps)
      value := rfl }
  | @rejected p ps hp hps hmem =>
    have hasks : ¬ AsksMalformed m := fun h => (asksMalformed_iff default).1 h p hp
    have hallows : ¬ AllowsMalformed m := fun h => allowsMalformed_iff.1 h ps hps
    exact {
      malformedPolicy := ⟨nofun, fun h => absurd h hasks⟩
      malformedAllowed := ⟨nofun, fun h => absurd h.2 hallows⟩
      rejected := ⟨fun _ => ⟨p, ps, hp, hps, hmem⟩, fun _ => rfl⟩
      passed := ⟨nofun, fun ⟨q, qs, hq, hqs, h⟩ => by
        rw [← hp.unique hq, ← hps.unique hqs] at h
        exact absurd h hmem⟩
      policy := fun q hq => by rw [hp.unique hq]
      allowed := fun _ qs _ hqs => by rw [hps.unique hqs]
      value := rfl }
  | @passed p ps hp hps hmem =>
    have hasks : ¬ AsksMalformed m := fun h => (asksMalformed_iff default).1 h p hp
    have hallows : ¬ AllowsMalformed m := fun h => allowsMalformed_iff.1 h ps hps
    exact {
      malformedPolicy := ⟨nofun, fun h => absurd h hasks⟩
      malformedAllowed := ⟨nofun, fun h => absurd h.2 hallows⟩
      rejected := ⟨nofun, fun ⟨q, qs, hq, hqs, h⟩ => by
        rw [← hp.unique hq, ← hps.unique hqs] at h
        exact absurd hmem h⟩
      passed := ⟨fun _ => ⟨p, ps, hp, hps, hmem⟩, fun _ => rfl⟩
      policy := fun q hq => by rw [hp.unique hq]
      allowed := fun _ qs _ hqs => by rw [hps.unique hqs]
      value := rfl }

end ReclaimPolicy

end StorageBroker
