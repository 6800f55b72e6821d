import Mathlib.Algebra.Order.Floor.Div
import StorageBroker.Proofs.Wipe
import StorageBroker.Rehearsal.Script
/-!
# What a wipe submits for deletion

Every key of a listing is submitted for deletion exactly once, in the order of the listing, and no
deletion names none, too many, or keys of two pages. What the storage refuses to delete changes
nothing of that: only a failure that is not one of the storage keeps later keys from being
submitted, and then none of them is.

* `Listing` -- the pages of a listing, up to its end or to its failure, with their keys;
* `Submission` -- batches with the deletions that are made for them;
* `length_batches` -- as few batches as there can be;
* `keys_submitted_once` -- the deletions of a wipe, page by page and as a whole.
-/

namespace StorageBroker.Wipe

variable {bucket start : Value}

/-! ## 1. How many batches -/

theorem length_pieces {α : Type} (size left : Nat) (xs : List α) (h : xs.length ≤ left) :
    (pieces size left xs).length = xs.length ⌈/⌉ (size + 1) := by
  induction left generalizing xs with
  | zero => simp [pieces, List.eq_nil_of_length_eq_zero (Nat.le_zero.1 h)]
  | succ left ih =>
    cases xs with
    | nil => simp [pieces]
    | cons x xs =>
      have hlength : (xs.drop size).length = xs.length - size := List.length_drop
      have hd : (xs.drop size).length ≤ left := by
        simp only [List.length_cons] at h
        omega
      -- The first piece takes what one division by its size takes, or is the only one.
      have hcount : (xs.length - size) ⌈/⌉ (size + 1) + 1 = (xs.length + 1) ⌈/⌉ (size + 1) := by
        simp only [Nat.ceilDiv_eq_add_pred_div]
        have hsum : xs.length + 1 + (size + 1) - 1 = xs.length + (size + 1) := by omega
        rw [hsum, Nat.add_div_right _ (Nat.succ_pos size)]
        rcases Nat.lt_or_ge xs.length size with hlt | hge
        · rw [Nat.div_eq_of_lt (by omega), Nat.div_eq_of_lt (by omega)]
        · rw [show xs.length - size + (size + 1) - 1 = xs.length by omega]
      rw [pieces, List.length_cons, List.length_cons, ih _ hd, hlength, hcount]

/-- **A page takes as few batches as it can.** -/
theorem length_batches {α : Type} {limit : Nat} (h : 0 < limit) (keys : List α) :
    (batches limit keys).length = keys.length ⌈/⌉ limit := by
  cases limit with
  | zero => omega
  | succ size => exact length_pieces size keys.length keys (Nat.le_refl _)

/-! ## 2. Pages -/

/-- An object on a page, with its key. -/
def IsEntry (object key : Value) : Prop :=
  ∃ m, object = .mapping m ∧ Mapping.get m "Key" = some key

/-- A page of a listing with the keys on it, in order. -/
inductive IsPage : Value → List Value → Prop where
  | bare {m : Mapping} (h : Mapping.get m "Contents" = none) : IsPage (.mapping m) []
  | full {m : Mapping} {objects keys : List Value}
      (h : Mapping.get m "Contents" = some (.list objects))
      (hkeys : List.Forall₂ IsEntry objects keys) : IsPage (.mapping m) keys

/-- **A listing with the keys on each of its pages**, up to the end or to the failure of it. -/
inductive Listing : List (Except Fault Value) → List (List Value) → Prop where
  | ended : Listing [] []
  | failed {f : Fault} {rest : List (Except Fault Value)} : Listing (.error f :: rest) []
  | page {v : Value} {keys : List Value} {pages : List (Except Fault Value)}
      {lists : List (List Value)} (h : IsPage v keys) (hrest : Listing pages lists) :
      Listing (.ok v :: pages) (keys :: lists)

theorem IsPage.keysOf {page : Value} {keys : List Value} (h : IsPage page keys) :
    keysOf page = .ok keys := by
  cases h with
  | bare h =>
    simp [Wipe.keysOf, Value.getD, Value.entriesFor, h, Value.items, pure, Except.pure, bind,
      Except.bind]
  | @full m objects _ h hkeys =>
    have hcontents : (Value.mapping m).getD "Contents" (.list []) = .ok (.list objects) := by
      simp [Value.getD, Value.entriesFor, h, pure, Except.pure, bind, Except.bind]
    have hrequired :
        List.Forall₂ (fun object key => object.required "Key" = .ok key) objects keys :=
      hkeys.imp fun object key hentry => by
        obtain ⟨n, rfl, hkey⟩ := hentry
        rw [Value.required, hkey]
    rw [Wipe.keysOf, hcontents]
    exact mapM_eq_ok_iff.2 hrequired

/-! ## 3. Answers to deletions -/

/-- **An answer behind which a wipe goes on**: a mapping in which errors are listed or not, or a
failure of the storage. -/
inductive Taken : Except Fault Value → Prop where
  | silent {m : Mapping} (h : Mapping.get m "Errors" = none) : Taken (.ok (.mapping m))
  | named {m : Mapping} {errors : List Value} (h : Mapping.get m "Errors" = some (.list errors))
      (herrors : ∀ e ∈ errors, ∃ n, e = .mapping n) : Taken (.ok (.mapping m))
  | refused {f : Fault} (h : f.isStorage) : Taken (.error f)

/-- A failure that is not one of the storage. -/
def IsForeign (a : Except Fault Value) : Prop := ∃ f, a = .error f ∧ f.isStorage = false

theorem Taken.not_isForeign {a : Except Fault Value} (h : Taken a) : ¬ IsForeign a := by
  rintro ⟨f, rfl, hf⟩
  cases h with
  | refused h => rw [h] at hf; cases hf

/-- The errors that an answer lists. -/
def namedIn : Value → List Value
  | .mapping m => match Mapping.get m "Errors" with
    | some (.list errors) => errors
    | _ => []
  | _ => []

/-- What an error says under a name. -/
def said (error : Value) (name : Text) : Value :=
  match error with
  | .mapping m => (Mapping.get m name).getD .null
  | _ => .null

/-- The report of an error that an answer lists. -/
def reportOf (error : Value) : Value :=
  .text ((said error "Key").plain ++ ": " ++ (said error "Message").plain)

theorem Taken.failedIn {answer : Value} (h : Taken (.ok answer)) :
    Wipe.failedIn answer = .ok (namedIn answer) ∧ ∀ e ∈ namedIn answer, ∃ m, e = .mapping m := by
  cases h with
  | silent h => simp [failedIn_mapping, namedIn, h, Value.items]
  | named h herrors =>
    rw [failedIn_mapping, namedIn, h]
    exact ⟨rfl, herrors⟩

/-- Errors that are mappings are recorded one by one, in order. -/
theorem course_recordReported_ok {failed : List Value} (hfailed : ∀ e ∈ failed, ∃ m, e = .mapping m)
    {p p' : Progress} {es : Events} {r : Except Fault Unit}
    (h : (recordReported failed).Course p es r p') :
    es = [] ∧ r = .ok () ∧ p' = { p with errors := p.errors ++ failed.map reportOf } := by
  induction failed generalizing p es with
  | nil =>
    obtain ⟨rfl, rfl, rfl⟩ := Action.course_pure.1 h
    exact ⟨rfl, rfl, by rw [List.map_nil, List.append_nil]⟩
  | cons error rest ih =>
    rw [List.forall_mem_cons] at hfailed
    obtain ⟨⟨m, rfl⟩, hrest⟩ := hfailed
    rw [recordReported, Action.course_lift_malformed_bind] at h
    obtain ⟨_, hm, _⟩ | ⟨message, hmessage, h⟩ := h
    · cases hm
    · have htext : Value.text message = reportOf (.mapping m) := by
        cases hmessage
        rfl
      rw [record, Action.course_modify_bind] at h
      obtain ⟨rfl, rfl, rfl⟩ := ih hrest h
      refine ⟨rfl, rfl, ?_⟩
      rw [htext, List.map_cons, Progress.addError, List.append_assoc, List.singleton_append]

/-- **An answer that lists errors or not**: each of them is recorded, and the rest of the batch is
counted. -/
theorem course_takeAnswer_ok {keys : List Value} {answer : Value} (hanswer : Taken (.ok answer))
    {p p' : Progress} {es : Events} {r : Except Fault Unit} {n : Int} (hn : p.deleted = .int n)
    (h : (takeAnswer keys answer).Course p es r p') :
    es = [] ∧ r = .ok () ∧ p' =
      { p with
        deleted := .int (n + ((keys.length : Int) - (namedIn answer).length))
        errors := p.errors ++ (namedIn answer).map reportOf } := by
  obtain ⟨hfailed, hmappings⟩ := hanswer.failedIn
  rw [takeAnswer_eq, hfailed, Action.course_lift_malformed_bind] at h
  obtain ⟨_, hm, _⟩ | ⟨failed, hsome, h⟩ := h
  · cases hm
  cases hsome
  rw [Action.course_bind] at h
  obtain ⟨f, hrecord, _⟩ | ⟨es₁, _, p₁, es₂, hrecord, h, rfl⟩ := h
  · cases (course_recordReported_ok hmappings hrecord).2.1
  obtain ⟨rfl, _, rfl⟩ := course_recordReported_ok hmappings hrecord
  have hcount : ∀ errors : List Value,
      ({ p with errors := errors } : Progress).deleted = .int n := fun _ => hn
  rw [Action.course_get_bind, Progress.addDeleted_int (hcount _)] at h
  obtain ⟨rfl, rfl, rfl⟩ := Action.course_set.1 h
  exact ⟨rfl, rfl, rfl⟩

/-! ## 4. Deletions -/

/-- The keys that a deletion names, and its answer. -/
structure Deletion where
  keys : List Value
  answer : Except Fault Value

def Deletion.event (bucket : Value) (d : Deletion) : Dialogue.Event Remote :=
  deleted bucket d.keys d.answer

/-- **Batches with the deletions that are made for them**: one for each, in order, up to a failure
that is not one of the storage. -/
inductive Submission : List (List Value) → List Deletion → Except Fault Unit → Prop where
  | done : Submission [] [] (.ok ())
  | taken {keys : List Value} {bs : List (List Value)} {a : Except Fault Value}
      {ds : List Deletion} {r : Except Fault Unit} (ha : Taken a) (hrest : Submission bs ds r) :
      Submission (keys :: bs) (⟨keys, a⟩ :: ds) r
  | broken {keys : List Value} {bs : List (List Value)} {f : Fault} (hf : f.isStorage = false) :
      Submission (keys :: bs) [⟨keys, .error f⟩] (.error f)

namespace Submission

variable {bs bs' : List (List Value)} {ds ds' : List Deletion} {r : Except Fault Unit}

theorem append (h : Submission bs ds (.ok ())) (h' : Submission bs' ds' r) :
    Submission (bs ++ bs') (ds ++ ds') r := by
  generalize hr : Except.ok () = r₀ at h
  induction h with
  | done => exact h'
  | taken ha _ ih => exact .taken ha (ih hr)
  | broken => cases hr

/-- Behind a failure that is not one of the storage nothing is deleted any more. -/
theorem cut {f : Fault} (h : Submission bs ds (.error f)) :
    Submission (bs ++ bs') ds (.error f) := by
  generalize hr : Except.error f = r₀ at h
  induction h with
  | done => cases hr
  | taken ha _ ih => exact .taken ha (ih hr)
  | broken hf => exact .broken hf

theorem keys_prefix (h : Submission bs ds r) : ds.map Deletion.keys <+: bs := by
  induction h with
  | done => exact List.nil_prefix
  | taken _ _ ih => exact (List.prefix_cons_inj _).2 ih
  | broken => exact (List.prefix_cons_inj _).2 List.nil_prefix

theorem keys_eq (h : Submission bs ds r) (htaken : ∀ d ∈ ds, Taken d.answer) :
    ds.map Deletion.keys = bs := by
  induction h with
  | done => rfl
  | taken _ _ ih =>
    rw [List.map_cons, ih fun d hd => htaken d (List.mem_cons_of_mem _ hd)]
  | broken hf =>
    exact absurd ⟨_, rfl, hf⟩ (htaken _ List.mem_cons_self).not_isForeign

/-- The deletion that ends in a failure which is not one of the storage is the last one. -/
theorem last_of_isForeign (h : Submission bs ds r) {before after : List Deletion} {d : Deletion}
    (hds : ds = before ++ d :: after) (hd : IsForeign d.answer) : after = [] := by
  induction h generalizing before with
  | done => simp at hds
  | taken ha _ ih =>
    cases before with
    | nil =>
      cases hds
      exact absurd hd ha.not_isForeign
    | cons e before => exact ih (List.cons.inj hds).2
  | broken =>
    have hlength := congrArg List.length hds
    simp only [List.length_append, List.length_cons, List.length_nil] at hlength
    exact List.eq_nil_of_length_eq_zero (by omega)

end Submission

/-- The answers to the deletions among some events let a wipe go on or are failures. -/
def Answers (bucket : Value) (es : Events) : Prop :=
  ∀ keys a, deleted bucket keys a ∈ es → Taken a ∨ IsForeign a

/-- **One batch**: it is submitted, and only a failure that is not one of the storage ends the
wipe. -/
theorem submission_deleteBatch {keys : List Value} {p p' : Progress} {es : Events}
    {r : Except Fault Unit} (hkeys : keys ≠ []) (hp : Counts p)
    (h : (deleteBatch bucket keys).Course p es r p') (hanswers : Answers bucket es) :
    ∃ ds, es = ds.map (Deletion.event bucket) ∧ Counts p' ∧ Submission [keys] ds r := by
  obtain ⟨a, rfl, hcounts, _⟩ := course_deleteBatch hkeys hp h
  refine ⟨[⟨keys, a⟩], rfl, hcounts, ?_⟩
  have hanswer := hanswers keys a List.mem_cons_self
  rw [deleteBatch, Action.course_bind] at h
  obtain ⟨f, hask, _⟩ | ⟨_, a', p₁, es₂, hask, h, hes⟩ := h
  · obtain ⟨_, _, hf, _⟩ := course_storage.1 hask
    cases hf
  obtain ⟨a'', rfl, ha, hp₁⟩ := course_storage.1 hask
  cases ha
  obtain rfl := hp₁.symm
  obtain rfl := deleted_injective (List.cons.inj hes).1
  cases a with
  | ok answer =>
    obtain htaken | ⟨f, hf, _⟩ := hanswer
    · obtain ⟨n, hn⟩ := hp
      obtain ⟨_, rfl, _⟩ := course_takeAnswer_ok htaken hn h
      exact .taken htaken .done
    · cases hf
  | error f =>
    dsimp only at h
    split at h
    · next hf =>
      obtain ⟨_, rfl, _⟩ := Action.course_modify.1 h
      exact .taken (.refused hf) .done
    · next hf =>
      obtain ⟨_, rfl, _⟩ := Action.course_throw.1 h
      exact .broken (Bool.eq_false_iff.2 hf)

theorem submission_deleteBatches {bs : List (List Value)} (hbs : ∀ keys ∈ bs, keys ≠ [])
    {p p' : Progress} {es : Events} {r : Except Fault Unit} (hp : Counts p)
    (h : (deleteBatches bucket bs).Course p es r p') (hanswers : Answers bucket es) :
    ∃ ds, es = ds.map (Deletion.event bucket) ∧ Counts p' ∧ Submission bs ds r := by
  induction bs generalizing p es with
  | nil =>
    obtain ⟨rfl, rfl, rfl⟩ := Action.course_pure.1 h
    exact ⟨[], rfl, hp, .done⟩
  | cons keys rest ih =>
    rw [List.forall_mem_cons] at hbs
    rw [deleteBatches, Action.course_bind] at h
    obtain ⟨f, hfirst, rfl⟩ | ⟨es₁, ⟨⟩, p₁, es₂, hfirst, hrest, rfl⟩ := h
    · obtain ⟨ds, hes, hcounts, hds⟩ := submission_deleteBatch hbs.1 hp hfirst hanswers
      exact ⟨ds, hes, hcounts, hds.cut⟩
    · obtain ⟨ds₁, rfl, hcounts, hds₁⟩ := submission_deleteBatch hbs.1 hp hfirst
        fun keys a ha => hanswers keys a (List.mem_append_left _ ha)
      obtain ⟨ds₂, rfl, hcounts, hds₂⟩ := ih hbs.2 hcounts hrest
        fun keys a ha => hanswers keys a (List.mem_append_right _ ha)
      exact ⟨ds₁ ++ ds₂, List.map_append.symm, hcounts, hds₁.append hds₂⟩

/-- **All pages**: the batches of each are submitted behind those of the pages before it. -/
theorem submission_deletePages {pages : List (Except Fault Value)} {lists : List (List Value)}
    (hpages : Listing pages lists) {limit : Nat} {p p' : Progress} {es : Events}
    {r : Except Fault Unit} (hp : Counts p)
    (h : (deletePages (.ok limit) bucket pages).Course p es r p') (hanswers : Answers bucket es) :
    ∃ ds r', es = ds.map (Deletion.event bucket) ∧
      Submission (lists.flatMap (batches limit)) ds r' := by
  induction hpages generalizing p es with
  | ended =>
    obtain ⟨rfl, _, _⟩ := Action.course_pure.1 h
    exact ⟨[], .ok (), rfl, .done⟩
  | failed =>
    obtain ⟨rfl, _, _⟩ := Action.course_throw.1 h
    exact ⟨[], .ok (), rfl, .done⟩
  | @page v keys pages lists hpage _ ih =>
    have hbatches : ∀ b ∈ batches limit keys, b ≠ [] := fun b hb => batch_ne_nil hb
    have hfirst : deletePage (.ok limit) bucket v = deleteBatches bucket (batches limit keys) := by
      rw [deletePage_eq, hpage.keysOf]
      rfl
    rw [deletePages_cons_ok, hfirst, Action.course_bind] at h
    rw [List.flatMap_cons]
    obtain ⟨f, hcourse, rfl⟩ | ⟨es₁, ⟨⟩, p₁, es₂, hcourse, hrest, rfl⟩ := h
    · obtain ⟨ds, hes, _, hds⟩ := submission_deleteBatches hbatches hp hcourse hanswers
      exact ⟨ds, .error f, hes, hds.cut⟩
    · obtain ⟨ds₁, rfl, hcounts, hds₁⟩ := submission_deleteBatches hbatches hp hcourse
        fun keys a ha => hanswers keys a (List.mem_append_left _ ha)
      obtain ⟨ds₂, r', rfl, hds₂⟩ := ih hcounts hrest
        fun keys a ha => hanswers keys a (List.mem_append_right _ ha)
      exact ⟨ds₁ ++ ds₂, r', List.map_append.symm, hds₁.append hds₂⟩

/-! ## 5. The whole wipe -/

/-- The keys of a page in legal batches: all of them, in order, and as few batches as can be. -/
structure Portioned (keys : List Value) (bs : List (List Value)) : Prop where
  flatten : bs.flatten = keys
  sizes : ∀ b ∈ bs, 1 ≤ b.length ∧ b.length ≤ 1000
  count : bs.length = keys.length ⌈/⌉ 1000

theorem portioned_batches (keys : List Value) : Portioned keys (batches batchLimit keys) where
  flatten := batches_flatten (by decide) keys
  sizes _ hb := length_le_of_mem_batches hb
  count := length_batches (by decide) keys

/-- **Every listed key is submitted for deletion exactly once, in legal batches.** The deletions of
a wipe are those of the batches of each page, page after page, and so name the listed keys in the
order of the listing. A failure of the listing ends them behind the pages before it, and a deletion
that fails with what is no failure of the storage is the last one. -/
theorem keys_submitted_once {σ : Type} (w : Dialogue.World Remote σ) (st : σ) {p : Progress}
    (hp : Counts p) {pages : List (Except Fault Value)} {lists : List (List Value)}
    (hpages : pages = (w.answer (.storage (.list bucket start)) st).1)
    (hlists : Listing pages lists) :
    let o := Dialogue.run w ((wipe (.ok batchLimit) bucket start).run p) st
    Answers bucket o.events →
      o.result.1 = .ok () ∧ ∃ (ds : List Deletion) (portions : List (List (List Value))),
        o.events = listed bucket start pages :: ds.map (Deletion.event bucket) ∧
        List.Forall₂ Portioned lists portions ∧
        ds.map Deletion.keys <+: portions.flatten ∧ ds.flatMap Deletion.keys <+: lists.flatten ∧
        ((∀ d ∈ ds, Taken d.answer) →
          ds.map Deletion.keys = portions.flatten ∧ ds.flatMap Deletion.keys = lists.flatten) ∧
        ∀ before d after, ds = before ++ d :: after → IsForeign d.answer → after = [] := by
  intro o hanswers
  have hcourse := Action.course_iff.1
    (Dialogue.course_run w ((wipe (.ok batchLimit) bucket start).run p) st)
  obtain ⟨hok, r, p₁, hall, _⟩ := course_deleteAll_of_wipe hcourse
  obtain ⟨pages', es, hevents, hdeletions⟩ := course_deleteAll hall
  -- The first answer of the run is that of the world.
  have hfirst : pages' = pages := by
    have hhead : o.events.head? = some (listed bucket start pages) := by rw [hpages]; rfl
    have hevents' : o.events.head? = some (listed bucket start pages') := by
      rw [show o.events = _ from hevents]
      rfl
    rw [hhead] at hevents'
    have hlisted : listed bucket start pages = listed bucket start pages' :=
      Option.some.inj hevents'
    unfold listed at hlisted
    cases hlisted
    rfl
  rw [hfirst] at hevents hdeletions
  have hes : Answers bucket es := by
    intro keys a ha
    refine hanswers keys a ?_
    rw [show o.events = _ from hevents]
    exact List.mem_cons_of_mem _ ha
  obtain ⟨ds, r', rfl, hsubmission⟩ := submission_deletePages hlists hp hdeletions hes
  have hbatches : lists.flatMap (batches batchLimit) = (lists.map (batches batchLimit)).flatten :=
    List.flatMap_def
  have hflatten : (lists.flatMap (batches batchLimit)).flatten = lists.flatten := by
    rw [List.flatMap_def, List.flatten_flatten, List.map_map]
    congr 1
    refine (List.map_congr_left fun keys _ => ?_).trans (List.map_id _)
    exact (portioned_batches keys).flatten
  have hkeys : ds.flatMap Deletion.keys = (ds.map Deletion.keys).flatten := List.flatMap_def
  refine ⟨hok, ds, lists.map (batches batchLimit), hevents, ?_, ?_, ?_, fun htaken => ?_, ?_⟩
  · rw [List.forall₂_map_right_iff, List.forall₂_same]
    exact fun keys _ => portioned_batches keys
  · rw [← hbatches]
    exact hsubmission.keys_prefix
  · obtain ⟨rest, hrest⟩ := hsubmission.keys_prefix
    rw [hkeys, ← hflatten, ← hrest, List.flatten_append]
    exact List.prefix_append _ _
  · have hall := hsubmission.keys_eq htaken
    rw [hkeys, hall]
    exact ⟨hbatches, hflatten⟩
  · exact fun before d after hds hd => hsubmission.last_of_isForeign hds hd

/-- A world in which a listing has one page and every deletion succeeds. -/
def depot (keys : List Value) : Dialogue.World Remote Unit where
  answer
    | .call _, st => (.error (.management "there is no management API"), st)
    | .storage (.connect ..), st => (.ok (), st)
    | .storage (.list ..), st => ([.ok (Rehearsal.Script.pageOf keys)], st)
    | .storage (.delete ..), st => (.ok (.mapping []), st)

theorem isPage_pageOf (keys : List Value) : IsPage (Rehearsal.Script.pageOf keys) keys := by
  have hkeys : List.Forall₂ IsEntry (keys.map fun k => .mapping [(.text "Key", k)]) keys := by
    rw [List.forall₂_map_left_iff, List.forall₂_same]
    intro k _
    exact ⟨_, rfl, by simp [Mapping.get_cons, Mapping.text_equal_text]⟩
  exact .full (by simp [Mapping.get_cons, Mapping.text_equal_text]) hkeys

/-- A page of 2001 objects takes three deletions. -/
theorem keys_submitted_once_page :
    let keys := Rehearsal.Script.numbered "object-" 0 2001
    let o := Dialogue.run (depot keys) ((wipe (.ok batchLimit) "bucket" "").run .start) ()
    Counts .start ∧ Listing [.ok (Rehearsal.Script.pageOf keys)] [keys] ∧
      Answers "bucket" o.events ∧ ∃ ds : List Deletion, ds.length = 3 ∧
        o.events = listed "bucket" "" [.ok (Rehearsal.Script.pageOf keys)] ::
          ds.map (Deletion.event "bucket") ∧ ds.flatMap Deletion.keys = keys := by
  intro keys
  have hcount : keys.length = 2001 := by simp [keys, Rehearsal.Script.numbered]
  clear_value keys
  intro o
  have hcounts : Counts .start := ⟨0, rfl⟩
  have hlists : Listing [.ok (Rehearsal.Script.pageOf keys)] [keys] :=
    .page (isPage_pageOf keys) .ended
  have hdeleted : ∀ named a, deleted "bucket" named a ∈ o.events → Taken a := by
    intro named a ha
    obtain ⟨_, hanswer⟩ := Dialogue.answer_of_mem_run ha
    rw [show a = .ok (.mapping []) from hanswer]
    exact .silent rfl
  have hanswers : Answers "bucket" o.events := fun named a ha => .inl (hdeleted named a ha)
  obtain ⟨_, ds, portions, hevents, hportions, _, _, hall, _⟩ :=
    keys_submitted_once (depot keys) () hcounts rfl hlists hanswers
  have htaken : ∀ d ∈ ds, Taken d.answer := by
    intro d hd
    refine hdeleted d.keys d.answer ?_
    rw [show o.events = _ from hevents]
    exact List.mem_cons_of_mem _ (List.mem_map_of_mem hd)
  obtain ⟨hnamed, hkeys⟩ := hall htaken
  cases hportions with
  | @cons _ portion _ _ hportion hrest =>
    cases hrest
    have hlength : ds.length = portion.length := by
      simpa using congrArg List.length hnamed
    refine ⟨hcounts, hlists, hanswers, ds, ?_, hevents, by simpa using hkeys⟩
    rw [hlength, hportion.count, hcount]
    decide

end StorageBroker.Wipe
