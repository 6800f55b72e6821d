import StorageBroker.Proofs.Course
import StorageBroker.Proofs.Outcome
import StorageBroker.Wipe
/-!
# What a wipe tells

A wipe records what went wrong and never fails itself, so its record has to tell whether the bucket
is empty. It does: the record stays empty exactly if the listing came to its end and every deletion
was answered without an error, whatever the pages hold and wherever a failure comes up.

* `Clean`, `Emptied` -- a deletion, and a whole wipe, that left nothing behind;
* `Tells` -- a step whose record tells whether it went well;
* `Tells.bind` -- kept by steps in a row;
* `errors_wipe_eq_nil_iff` -- the record of a wipe is empty exactly if the bucket was emptied.
-/

namespace StorageBroker.Wipe

/-- Events of a wipe. -/
abbrev Events := List (Dialogue.Event Remote)

/-- The listing of a bucket with its pages. -/
def listed (bucket start : Value) (pages : List (Except Fault Value)) : Dialogue.Event Remote :=
  ⟨.storage (.list bucket start), pages⟩

/-- The deletion of some keys with its answer. -/
def deleted (bucket : Value) (keys : List Value) (a : Except Fault Value) :
    Dialogue.Event Remote := ⟨.storage (.delete bucket keys), a⟩

theorem deleted_injective {bucket bucket' : Value} {keys keys' : List Value}
    {a a' : Except Fault Value} (h : deleted bucket keys a = deleted bucket' keys' a') :
    a = a' := by
  unfold deleted at h
  cases h
  rfl

theorem course_storage {q : Storage.Question} {p p' : Progress} {es : Events}
    {r : Except Fault q.Answer} :
    (Action.perform (Remote.askStorage q) : Step q.Answer).Course p es r p' ↔
      ∃ a, es = [⟨.storage q, a⟩] ∧ r = .ok a ∧ p' = p := by
  rw [Action.course_perform]
  constructor
  · rintro ⟨a, h, rfl, rfl⟩
    exact ⟨a, Remote.course_askStorage.1 h, rfl, rfl⟩
  · rintro ⟨a, rfl, rfl, rfl⟩
    exact ⟨a, Remote.course_askStorage.2 rfl, rfl, rfl⟩

/-! ## 1. Deletions that leave nothing behind -/

/-- **An answer that names no error**: a mapping without errors, or with an empty sequence of
them. -/
inductive Clean : Except Fault Value → Prop where
  | silent {m : Mapping} (h : Mapping.get m "Errors" = none) : Clean (.ok (.mapping m))
  | empty {m : Mapping} {v : Value} (h : Mapping.get m "Errors" = some v) (hv : v.items = .ok []) :
      Clean (.ok (.mapping m))

/-- The errors that an answer names. -/
def failedIn (answer : Value) : Except Malformed (List Value) := do
  (← answer.getD "Errors" (.list [])).items

theorem failedIn_mapping {m : Mapping} :
    failedIn (.mapping m) = ((Mapping.get m "Errors").getD (.list [])).items := rfl

theorem failedIn_eq_nil_iff {answer : Value} :
    failedIn answer = .ok [] ↔ Clean (.ok answer) := by
  constructor
  · intro h
    cases answer with
    | mapping m =>
      rw [failedIn_mapping] at h
      cases herrors : Mapping.get m "Errors" with
      | none => exact .silent herrors
      | some v =>
        rw [herrors, Option.getD_some] at h
        exact .empty herrors h
    | _ => cases h
  · intro h
    generalize ha : (Except.ok answer : Except Fault Value) = a at h
    cases h with
    | silent h =>
      cases ha
      rw [failedIn_mapping, h]
      rfl
    | empty h hv =>
      cases ha
      rw [failedIn_mapping, h]
      exact hv

theorem not_clean_error {f : Fault} : ¬ Clean (.error f) := by
  intro h
  cases h

/-- An event of a wipe that is no deletion with an error. -/
def IsClean (e : Dialogue.Event Remote) : Prop :=
  ∀ bucket keys a, e = deleted bucket keys a → Clean a

theorem isClean_deleted {bucket : Value} {keys : List Value} {a : Except Fault Value} :
    IsClean (deleted bucket keys a) ↔ Clean a := by
  constructor
  · intro h
    exact h bucket keys a rfl
  · intro h bucket' keys' a' heq
    rw [← deleted_injective heq]
    exact h

/-- A page of a listing that gives keys. -/
def Holds (page : Except Fault Value) (keys : List Value) : Prop :=
  ∃ v, page = .ok v ∧ keysOf v = .ok keys

/-- The deletions of batches of keys. -/
def deletions (bucket : Value) (bs : List (List Value)) : List Remote.Question :=
  bs.map fun keys => .storage (.delete bucket keys)

theorem deletions_append {bucket : Value} {bs bs' : List (List Value)} :
    deletions bucket (bs ++ bs') = deletions bucket bs ++ deletions bucket bs' := List.map_append

/-- **A wipe that left nothing behind**: its listing came to an end, the keys of every page were
deleted in batches, and every deletion was answered without an error. -/
def Emptied (bucket start : Value) (es : Events) : Prop :=
  ∃ pages lists ds, es = listed bucket start pages :: ds ∧ List.Forall₂ Holds pages lists ∧
    ds.map Dialogue.Event.question = deletions bucket (lists.flatMap (batches batchLimit)) ∧
    ∀ e ∈ ds, IsClean e

/-! ## 2. Steps whose record tells -/

/-- The count of deleted objects is an integer. -/
def Counts (p : Progress) : Prop := ∃ n, p.deleted = .int n

theorem Counts.of_eq {p p' : Progress} (hp : Counts p) (h : p'.deleted = p.deleted) :
    Counts p' := by
  obtain ⟨n, hn⟩ := hp
  exact ⟨n, h.trans hn⟩

/-- The record of a progress, continued. -/
def Extends (p p' : Progress) : Prop := ∃ new, p'.errors = p.errors ++ new

/-- **A step whose record tells whether it went well**: it does nothing but delete, and it succeeds
and records nothing exactly if what it needs is given and all its deletions are clean. -/
def Tells (bucket : Value) (G : Prop) (x : Step Unit) : Prop :=
  ∀ p es r p', Counts p → x.Course p es r p' → Counts p' ∧ Extends p p' ∧
    (∀ e ∈ es, ∃ keys a, e = deleted bucket keys a) ∧
    ((r = .ok () ∧ p'.errors = p.errors) ↔ G ∧ ∀ e ∈ es, IsClean e)

variable {bucket : Value} {G G' : Prop} {x y : Step Unit} {β : Type}

theorem Tells.congr (h : Tells bucket G x) (hG : G ↔ G') : Tells bucket G' x := by
  intro p es r p' hp hcourse
  obtain ⟨hcounts, hextends, hdeleted, hiff⟩ := h _ _ _ _ hp hcourse
  exact ⟨hcounts, hextends, hdeleted, by rw [hiff, hG]⟩

theorem extends_refl (p : Progress) : Extends p p := ⟨[], (List.append_nil _).symm⟩

theorem tells_pure : Tells bucket True (pure () : Step Unit) := by
  intro p es r p' hp h
  obtain ⟨rfl, rfl, rfl⟩ := Action.course_pure.1 h
  exact ⟨hp, extends_refl p', by simp, by simp⟩

/-- **Two steps in a row tell whether both went well.** What the first one has recorded stays. -/
theorem Tells.bind (hx : Tells bucket G x) (hy : Tells bucket G' y) :
    Tells bucket (G ∧ G') (x >>= fun _ => y) := by
  intro p es r p' hp h
  rw [Action.course_bind] at h
  obtain ⟨f, hfirst, rfl⟩ | ⟨es₁, ⟨⟩, p₁, es₂, hfirst, hsecond, rfl⟩ := h
  · obtain ⟨hcounts, hextends, hdeleted, hiff⟩ := hx _ _ _ _ hp hfirst
    refine ⟨hcounts, hextends, hdeleted, fun h => absurd h.1 (by simp), fun ⟨hG, hclean⟩ => ?_⟩
    exact absurd (hiff.2 ⟨hG.1, hclean⟩).1 (by simp)
  · obtain ⟨hcounts₁, ⟨new₁, hnew₁⟩, hdeleted₁, hiff₁⟩ := hx _ _ _ _ hp hfirst
    obtain ⟨hcounts₂, ⟨new₂, hnew₂⟩, hdeleted₂, hiff₂⟩ := hy _ _ _ _ hcounts₁ hsecond
    refine ⟨hcounts₂, ⟨new₁ ++ new₂, by rw [hnew₂, hnew₁, List.append_assoc]⟩,
      fun e he => (List.mem_append.1 he).elim (hdeleted₁ e) (hdeleted₂ e), ?_, ?_⟩
    · rintro ⟨rfl, hsame⟩
      rw [hnew₂, hnew₁, List.append_assoc, List.append_right_eq_self,
        List.append_eq_nil_iff] at hsame
      obtain ⟨rfl, rfl⟩ := hsame
      rw [List.append_nil] at hnew₁ hnew₂
      obtain ⟨hG, hclean₁⟩ := hiff₁.1 ⟨rfl, hnew₁⟩
      obtain ⟨hG', hclean₂⟩ := hiff₂.1 ⟨rfl, hnew₂⟩
      exact ⟨⟨hG, hG'⟩, fun e he => (List.mem_append.1 he).elim (hclean₁ e) (hclean₂ e)⟩
    · rintro ⟨⟨hG, hG'⟩, hclean⟩
      have h₁ := hiff₁.2 ⟨hG, fun e he => hclean e (List.mem_append_left _ he)⟩
      have h₂ := hiff₂.2 ⟨hG', fun e he => hclean e (List.mem_append_right _ he)⟩
      exact ⟨h₂.1, h₂.2.trans h₁.2⟩

theorem Tells.lift_bind {v : Except Malformed β} {f : β → Step Unit} {P : β → Prop}
    (hf : ∀ b, v = .ok b → Tells bucket (P b) (f b)) :
    Tells bucket (∃ b, v = .ok b ∧ P b) (liftM v >>= f) := by
  intro p es r p' hp h
  rw [Action.course_lift_malformed_bind] at h
  obtain ⟨m, rfl, rfl, rfl, rfl⟩ | ⟨b, rfl, h⟩ := h
  · refine ⟨hp, extends_refl p', by simp, fun h => absurd h.1 (by simp), ?_⟩
    rintro ⟨⟨b, hb, _⟩, _⟩
    cases hb
  · refine (Tells.congr (hf b rfl) ?_) _ _ _ _ hp h
    constructor
    · intro hb
      exact ⟨b, rfl, hb⟩
    · rintro ⟨b', hb', h⟩
      cases hb'
      exact h

/-! ## 3. One batch -/

/-- The errors of an answer are recorded in order, up to one that cannot be read. -/
theorem course_recordReported {failed : List Value} {p p' : Progress} {es : Events}
    {r : Except Fault Unit} (h : (recordReported failed).Course p es r p') :
    es = [] ∧ p'.deleted = p.deleted ∧ ∃ new, p'.errors = p.errors ++ new ∧
      (r = .ok () → new.length = failed.length) := by
  induction failed generalizing p es with
  | nil =>
    obtain ⟨rfl, rfl, rfl⟩ := Action.course_pure.1 h
    exact ⟨rfl, rfl, [], (List.append_nil _).symm, fun _ => rfl⟩
  | cons error rest ih =>
    rw [recordReported, Action.course_lift_malformed_bind] at h
    obtain ⟨m, _, rfl, rfl, rfl⟩ | ⟨message, _, h⟩ := h
    · exact ⟨rfl, rfl, [], (List.append_nil _).symm, fun h => by cases h⟩
    · rw [record, Action.course_modify_bind] at h
      obtain ⟨rfl, hcount, new, hnew, hlength⟩ := ih h
      refine ⟨rfl, hcount, .text message :: new, ?_, fun hr => ?_⟩
      · rw [hnew, Progress.errors_addError, List.append_assoc, List.singleton_append]
      · rw [List.length_cons, List.length_cons, hlength hr]

theorem takeAnswer_eq {keys : List Value} {answer : Value} :
    takeAnswer keys answer = (liftM (failedIn answer) >>= fun failed => do
      recordReported failed
      let p ← get
      set (← p.addDeleted (.int (keys.length - failed.length)))) := by
  unfold takeAnswer failedIn
  cases answer.getD "Errors" (.list []) <;> rfl

theorem course_takeAnswer {keys : List Value} {answer : Value} {p p' : Progress} {es : Events}
    {r : Except Fault Unit} (hp : Counts p) (h : (takeAnswer keys answer).Course p es r p') :
    es = [] ∧ Counts p' ∧ ((r = .ok () ∧ p'.errors = p.errors ∧ failedIn answer = .ok []) ∨
      (failedIn answer ≠ .ok [] ∧ Extends p p' ∧
        (r ≠ .ok () ∨ ∃ e new, p'.errors = p.errors ++ e :: new))) := by
  rw [takeAnswer_eq, Action.course_lift_malformed_bind] at h
  obtain ⟨m, hm, rfl, rfl, rfl⟩ | ⟨failed, hfailed, h⟩ := h
  · exact ⟨rfl, hp, .inr ⟨by simp [hm], extends_refl p', .inl (by simp)⟩⟩
  rw [Action.course_bind] at h
  obtain ⟨f, hrecord, rfl⟩ | ⟨es₁, ⟨⟩, p₁, es₂, hrecord, h, rfl⟩ := h
  · obtain ⟨rfl, hcount, new, hnew, _⟩ := course_recordReported hrecord
    refine ⟨rfl, hp.of_eq hcount, .inr ⟨?_, ⟨new, hnew⟩, .inl (by simp)⟩⟩
    intro hnil
    rw [hfailed] at hnil
    cases hnil
    obtain ⟨_, hr, _⟩ := Action.course_pure.1 hrecord
    cases hr
  · obtain ⟨rfl, hcount, new, hnew, hlength⟩ := course_recordReported hrecord
    obtain ⟨n, hn⟩ := hp
    rw [Action.course_get_bind, Progress.addDeleted_int (hcount.trans hn)] at h
    obtain ⟨rfl, rfl, rfl⟩ := Action.course_set.1 h
    refine ⟨rfl, ⟨_, rfl⟩, ?_⟩
    cases failed with
    | nil =>
      have hnew' : new = [] := List.eq_nil_of_length_eq_zero (hlength rfl)
      exact .inl ⟨rfl, by rw [hnew, hnew', List.append_nil], hfailed⟩
    | cons e rest =>
      cases new with
      | nil => cases hlength rfl
      | cons e' new =>
        exact .inr ⟨by simp [hfailed], ⟨_, hnew⟩, .inr ⟨e', new, hnew⟩⟩

theorem foldl_addError_eq {text : Value → Value} (keys : List Value) (p : Progress) :
    keys.foldl (fun p k => p.addError (text k)) p =
      { p with errors := p.errors ++ keys.map text } := by
  induction keys generalizing p with
  | nil => rw [List.foldl_nil, List.map_nil, List.append_nil]
  | cons k keys ih =>
    rw [List.foldl_cons, ih, List.map_cons, Progress.addError, List.append_assoc,
      List.singleton_append]

theorem foldl_addError {text : Value → Value} (keys : List Value) (p : Progress) :
    (keys.foldl (fun p k => p.addError (text k)) p).errors = p.errors ++ keys.map text ∧
      (keys.foldl (fun p k => p.addError (text k)) p).deleted = p.deleted := by
  rw [foldl_addError_eq]
  exact ⟨rfl, rfl⟩

/-- **A batch of at least one key** is one deletion, of which the record tells whether it was clean:
a failure of the storage is recorded for each key, any other one ends the wipe. -/
theorem course_deleteBatch {keys : List Value} {p p' : Progress} {es : Events}
    {r : Except Fault Unit} (hkeys : keys ≠ []) (hp : Counts p)
    (h : (deleteBatch bucket keys).Course p es r p') :
    ∃ a, es = [deleted bucket keys a] ∧ Counts p' ∧ Extends p p' ∧
      ((r = .ok () ∧ p'.errors = p.errors) ↔ Clean a) := by
  rw [deleteBatch, Action.course_bind] at h
  obtain ⟨f, hask, _⟩ | ⟨_, a, p₁, es₂, hask, h, rfl⟩ := h
  · obtain ⟨_, _, hf, _⟩ := course_storage.1 hask
    cases hf
  obtain ⟨a', rfl, ha, hp₁⟩ := course_storage.1 hask
  cases ha
  obtain rfl := hp₁.symm
  change Except Fault Value at a
  cases a with
  | ok answer =>
    obtain ⟨rfl, hcounts, ⟨rfl, hsame, hclean⟩ | ⟨hclean, hextends, hbad⟩⟩ := course_takeAnswer hp h
    · refine ⟨.ok answer, rfl, hcounts, ⟨[], by rw [hsame, List.append_nil]⟩, ?_⟩
      rw [← failedIn_eq_nil_iff]
      exact ⟨fun _ => hclean, fun _ => ⟨rfl, hsame⟩⟩
    · refine ⟨.ok answer, rfl, hcounts, hextends, ?_⟩
      rw [← failedIn_eq_nil_iff]
      refine ⟨fun hgood => ?_, fun hgood => absurd hgood hclean⟩
      obtain hr | ⟨e, new, hnew⟩ := hbad
      · exact absurd hgood.1 hr
      · rw [hnew, List.append_right_eq_self] at hgood
        cases hgood.2
  | error f =>
    dsimp only at h
    split at h
    · obtain ⟨rfl, rfl, rfl⟩ := Action.course_modify.1 h
      obtain ⟨herrors, hdeleted⟩ :=
        @foldl_addError (fun k => .text (k.plain ++ ": " ++ f.text)) keys p
      refine ⟨.error f, rfl, hp.of_eq hdeleted, ⟨_, herrors⟩, fun hgood => ?_,
        fun hgood => absurd hgood not_clean_error⟩
      rw [herrors, List.append_right_eq_self, List.map_eq_nil_iff] at hgood
      exact absurd hgood.2 hkeys
    · obtain ⟨rfl, rfl, rfl⟩ := Action.course_throw.1 h
      exact ⟨.error f, rfl, hp, extends_refl p', fun hgood => absurd hgood.1 (by simp),
        fun hgood => absurd hgood not_clean_error⟩

theorem tells_deleteBatch {keys : List Value} (hkeys : keys ≠ []) :
    Tells bucket True (deleteBatch bucket keys) := by
  intro p es r p' hp h
  obtain ⟨a, rfl, hcounts, hextends, hiff⟩ := course_deleteBatch hkeys hp h
  refine ⟨hcounts, hextends, ?_, ?_⟩
  · simp only [List.mem_singleton, forall_eq]
    exact ⟨keys, a, rfl⟩
  · rw [hiff, List.forall_mem_singleton, isClean_deleted, true_and]

/-! ## 4. The whole listing -/

theorem tells_deleteBatches (bs : List (List Value)) (hbs : ∀ keys ∈ bs, keys ≠ []) :
    Tells bucket True (deleteBatches bucket bs) := by
  induction bs with
  | nil => exact tells_pure
  | cons keys rest ih =>
    have hrest := ih fun keys hkeys => hbs keys (List.mem_cons_of_mem _ hkeys)
    exact ((tells_deleteBatch (hbs keys List.mem_cons_self)).bind hrest).congr (and_self_iff)

theorem batch_ne_nil {limit : Nat} {keys b : List Value} (h : b ∈ batches limit keys) : b ≠ [] := by
  rintro rfl
  exact absurd (length_le_of_mem_batches h).1 (Nat.lt_irrefl 0)

theorem deletePage_eq {limit : Nat} {page : Value} : deletePage (.ok limit) bucket page =
    (liftM (keysOf page) >>= fun keys => deleteBatches bucket (batches limit keys)) := rfl

theorem deletePages_cons_ok {limit : Nat} {page : Value} {rest : List (Except Fault Value)} :
    deletePages (.ok limit) bucket (.ok page :: rest) =
      (deletePage (.ok limit) bucket page >>= fun _ => deletePages (.ok limit) bucket rest) := rfl

theorem tells_deletePage {limit : Nat} {page : Value} :
    Tells bucket (∃ keys, keysOf page = .ok keys) (deletePage (.ok limit) bucket page) := by
  rw [deletePage_eq]
  refine (Tells.lift_bind (P := fun _ => True) fun keys _ => ?_).congr (by simp)
  exact tells_deleteBatches _ fun b hb => batch_ne_nil hb

theorem tells_deletePages {limit : Nat} (pages : List (Except Fault Value)) :
    Tells bucket (∀ page ∈ pages, ∃ keys, Holds page keys)
      (deletePages (.ok limit) bucket pages) := by
  induction pages with
  | nil => exact tells_pure.congr (by simp)
  | cons page rest ih =>
    rw [List.forall_mem_cons]
    cases page with
    | ok v =>
      rw [deletePages_cons_ok]
      refine (tells_deletePage.bind ih).congr (and_congr_left' ?_)
      constructor
      · rintro ⟨keys, hkeys⟩
        exact ⟨keys, v, rfl, hkeys⟩
      · rintro ⟨keys, v', hv, hkeys⟩
        cases hv
        exact ⟨keys, hkeys⟩
    | error f =>
      intro p es r p' hp h
      obtain ⟨rfl, rfl, rfl⟩ := Action.course_throw.1 h
      refine ⟨hp, extends_refl p', by simp, fun hgood => absurd hgood.1 (by simp), ?_⟩
      rintro ⟨⟨⟨keys, v, hv, _⟩, _⟩, _⟩
      cases hv

/-! ## 5. The whole wipe -/

/-- Batches that are gone through to the end are all deleted, in order. -/
theorem questions_deleteBatches {bs : List (List Value)} (hbs : ∀ keys ∈ bs, keys ≠ [])
    {p p' : Progress} {es : Events} (hp : Counts p)
    (h : (deleteBatches bucket bs).Course p es (.ok ()) p') :
    es.map Dialogue.Event.question = deletions bucket bs := by
  induction bs generalizing p es with
  | nil =>
    obtain ⟨rfl, _, _⟩ := Action.course_pure.1 h
    rfl
  | cons keys rest ih =>
    rw [deleteBatches, Action.course_bind] at h
    obtain ⟨_, _, hf⟩ | ⟨es₁, ⟨⟩, p₁, es₂, hfirst, hrest, rfl⟩ := h
    · cases hf
    obtain ⟨a, rfl, hcounts, _⟩ := course_deleteBatch (hbs keys List.mem_cons_self) hp hfirst
    have hrest := ih (fun keys hkeys => hbs keys (List.mem_cons_of_mem _ hkeys)) hcounts hrest
    rw [List.map_append, hrest]
    rfl

/-- A listing that is gone through to its end gives the keys of each page, and they are all deleted
in batches. -/
theorem questions_deletePages {limit : Nat} {pages : List (Except Fault Value)} {p p' : Progress}
    {es : Events} (hp : Counts p)
    (h : (deletePages (.ok limit) bucket pages).Course p es (.ok ()) p') :
    ∃ lists, List.Forall₂ Holds pages lists ∧
      es.map Dialogue.Event.question = deletions bucket (lists.flatMap (batches limit)) := by
  induction pages generalizing p es with
  | nil =>
    obtain ⟨rfl, _, _⟩ := Action.course_pure.1 h
    exact ⟨[], .nil, rfl⟩
  | cons page rest ih =>
    cases page with
    | error f =>
      obtain ⟨_, hf, _⟩ := Action.course_throw.1 h
      cases hf
    | ok v =>
      rw [deletePages_cons_ok, Action.course_bind] at h
      obtain ⟨_, _, hf⟩ | ⟨es₁, ⟨⟩, p₁, es₂, hpage, hrest, rfl⟩ := h
      · cases hf
      have hcounts := (tells_deletePage _ _ _ _ hp hpage).1
      obtain ⟨lists, hlists, hquestions⟩ := ih hcounts hrest
      rw [deletePage_eq, Action.course_lift_malformed_bind] at hpage
      obtain ⟨m, _, _, hm, _⟩ | ⟨keys, hkeys, hpage⟩ := hpage
      · cases hm
      have hfirst := questions_deleteBatches (fun b hb => batch_ne_nil hb) hp hpage
      refine ⟨keys :: lists, .cons ⟨v, rfl, hkeys⟩ hlists, ?_⟩
      rw [List.map_append, hfirst, hquestions, List.flatMap_cons, deletions_append]
      rfl

/-- A wipe begins with the listing, and goes on with the deletions for its pages. -/
theorem course_deleteAll {limit : Nat} {start : Value} {p p' : Progress} {es : Events}
    {r : Except Fault Unit} (h : (deleteAll (.ok limit) bucket start).Course p es r p') :
    ∃ pages ds, es = listed bucket start pages :: ds ∧
      (deletePages (.ok limit) bucket pages).Course p ds r p' := by
  rw [deleteAll, Action.course_bind] at h
  obtain ⟨f, hlist, _⟩ | ⟨_, pages, p₂, ds, hlist, hpages, rfl⟩ := h
  · obtain ⟨_, _, hf, _⟩ := course_storage.1 hlist
    cases hf
  obtain ⟨pages', rfl, hpages', hp₂⟩ := course_storage.1 hlist
  cases hpages'
  obtain rfl := hp₂.symm
  exact ⟨pages, ds, rfl, hpages⟩

/-- What a wipe leaves behind its deletions: what ended them early is recorded, and it is
completed. -/
def closed (r : Except Fault Unit) (p : Progress) : Progress :=
  match r with
  | .ok _ => p.complete
  | .error f => (p.addError (.text f.text)).complete

/-- A wipe is its listing with its deletions, and never fails. -/
theorem course_deleteAll_of_wipe {limit : Except Malformed Nat} {start : Value} {p p' : Progress}
    {es : Events} {r : Except Fault Unit} (h : (wipe limit bucket start).Course p es r p') :
    r = .ok () ∧ ∃ r₁ p₁, (deleteAll limit bucket start).Course p es r₁ p₁ ∧ p' = closed r₁ p₁ := by
  rw [wipe, Action.course_bind] at h
  obtain ⟨f, hall, _⟩ | ⟨es₁, r₁, p₁, es₂, hall, h, rfl⟩ := h
  · obtain ⟨_, _, hf⟩ := Action.course_attempt.1 hall
    cases hf
  obtain ⟨r₁, hall, hr⟩ := Action.course_attempt.1 hall
  cases hr
  cases r₁ with
  | ok u =>
    obtain ⟨rfl, rfl, rfl⟩ := Action.course_modify.1 (Action.course_pure_bind.1 h)
    exact ⟨rfl, _, _, by rwa [List.append_nil], rfl⟩
  | error f =>
    dsimp only at h
    rw [record, Action.course_modify_bind] at h
    obtain ⟨rfl, rfl, rfl⟩ := Action.course_modify.1 h
    exact ⟨rfl, _, _, by rwa [List.append_nil], rfl⟩

/-- **A wipe never fails, and its record is empty exactly if the bucket was emptied.** -/
theorem course_wipe {start : Value} {p p' : Progress} {es : Events} {r : Except Fault Unit}
    (hp : Counts p) (h : (wipe (.ok batchLimit) bucket start).Course p es r p') :
    r = .ok () ∧ (∀ e ∈ es, ∃ q a, e = ⟨.storage q, a⟩) ∧ Extends p p' ∧
      (p'.errors = p.errors ↔ Emptied bucket start es) := by
  obtain ⟨rfl, r₁, p₁, hall, rfl⟩ := course_deleteAll_of_wipe h
  obtain ⟨pages, ds, rfl, hpages⟩ := course_deleteAll hall
  obtain ⟨_, ⟨new, hnew⟩, hdeleted, hiff⟩ := tells_deletePages pages _ _ _ _ hp hpages
  have hstorage : ∀ e ∈ listed bucket start pages :: ds, ∃ q a, e = ⟨.storage q, a⟩ := by
    rw [List.forall_mem_cons]
    refine ⟨⟨.list bucket start, pages, rfl⟩, fun e he => ?_⟩
    obtain ⟨keys, a, rfl⟩ := hdeleted e he
    exact ⟨.delete bucket keys, a, rfl⟩
  have hemptied : Emptied bucket start (listed bucket start pages :: ds) →
      r₁ = .ok () ∧ p₁.errors = p.errors := by
    rintro ⟨pages', lists, ds', heq, hlists, _, hclean⟩
    cases heq
    refine hiff.2 ⟨fun page hpage => ?_, hclean⟩
    obtain ⟨keys, _, hkeys⟩ := exists_right_of_forall₂ hlists page hpage
    exact ⟨keys, hkeys⟩
  cases r₁ with
  | ok u =>
    refine ⟨rfl, hstorage, ⟨new, hnew⟩, fun hsame => ?_, fun h => (hemptied h).2⟩
    obtain ⟨lists, hlists, hquestions⟩ := questions_deletePages hp hpages
    exact ⟨pages, lists, ds, rfl, hlists, hquestions, (hiff.1 ⟨rfl, hsame⟩).2⟩
  | error f =>
    have hrecorded : (closed (.error f) p₁).errors = p.errors ++ (new ++ [.text f.text]) := by
      show p₁.errors ++ [Value.text f.text] = _
      rw [hnew, List.append_assoc]
    refine ⟨rfl, hstorage, ⟨_, hrecorded⟩, fun hsame => ?_, fun h => ?_⟩
    · rw [hrecorded, List.append_right_eq_self] at hsame
      simp at hsame
    · cases (hemptied h).1

/-- **A wipe asks for nothing but its bucket**: for the listing of it, and for deletions in it. -/
theorem names_of_wipe {start : Value} {p p' : Progress} {es : Events} {r : Except Fault Unit}
    (hp : Counts p) (h : (wipe (.ok batchLimit) bucket start).Course p es r p') :
    ∀ e ∈ es, (∃ pages, e = listed bucket start pages) ∨ ∃ keys a, e = deleted bucket keys a := by
  obtain ⟨_, r₁, p₁, hall, _⟩ := course_deleteAll_of_wipe h
  obtain ⟨pages, ds, rfl, hpages⟩ := course_deleteAll hall
  obtain ⟨_, _, hdeleted, _⟩ := tells_deletePages pages _ _ _ _ hp hpages
  rw [List.forall_mem_cons]
  exact ⟨.inl ⟨pages, rfl⟩, fun e he => .inr (hdeleted e he)⟩

/-- **The record of a wipe from its start is empty exactly if the bucket was emptied.** -/
theorem errors_wipe_eq_nil_iff {start : Value} {p : Progress} {es : Events} {r : Except Fault Unit}
    (h : (wipe (.ok batchLimit) bucket start).Course .start es r p) :
    p.errors = [] ↔ Emptied bucket start es :=
  (course_wipe ⟨0, rfl⟩ h).2.2.2

end StorageBroker.Wipe
