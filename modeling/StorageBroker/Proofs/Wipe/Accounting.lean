import StorageBroker.Proofs.Wipe.Coverage
/-!
# The books of a wipe

Every listed key ends up in one place of the result: it is counted as deleted, or an error stands
for it in the record. So the count and the number of errors add up to the number of listed keys,
however the deletions went, and if the listing broke off they add up to one more, which stands last.

* `Deletion.gone`, `Deletion.reports` -- what one deletion adds to the count and to the record;
* `Books` -- a step that adds to a progress what its deletions add to it, and nothing else;
* `Books.bind` -- kept by steps in a row;
* `accounts_balance` -- the result of a wipe from its start, on all answers that let it go on.
-/

namespace StorageBroker.Wipe

variable {bucket start : Value}

/-! ## 1. What one deletion adds -/

namespace Deletion

/-- **What a deletion adds to the record**: a report of each error that its answer lists, or one of
each key of the batch if the call failed. -/
def reports (d : Deletion) : List Value :=
  match d.answer with
  | .ok answer => (namedIn answer).map reportOf
  | .error f => d.keys.map fun k => .text (k.plain ++ ": " ++ f.text)

/-- **What a deletion adds to the count**: the size of its batch less the errors that its answer
lists, and nothing if the call failed. -/
def gone (d : Deletion) : Int :=
  match d.answer with
  | .ok answer => d.keys.length - (namedIn answer).length
  | .error _ => 0

theorem gone_add_reports (d : Deletion) : d.gone + d.reports.length = d.keys.length := by
  cases d with
  | mk keys answer =>
    cases answer with
    | ok answer => simp [gone, reports]
    | error f => simp [gone, reports]

theorem gone_nonneg {d : Deletion} (h : d.reports.length ≤ d.keys.length) : 0 ≤ d.gone := by
  have hsum := d.gone_add_reports
  omega

end Deletion

/-- What deletions add to the count. -/
def counted (ds : List Deletion) : Int := (ds.map Deletion.gone).sum

/-- What deletions add to the record, in order. -/
def recorded (ds : List Deletion) : List Value := ds.flatMap Deletion.reports

theorem counted_append (ds ds' : List Deletion) :
    counted (ds ++ ds') = counted ds + counted ds' := by
  unfold counted
  rw [List.map_append, List.sum_append]

/-- **Each key of a batch is counted, or an error stands for it.** -/
theorem counted_add_recorded (ds : List Deletion) :
    counted ds + (recorded ds).length = (ds.flatMap Deletion.keys).length := by
  induction ds with
  | nil => rfl
  | cons d ds ih =>
    have hd := d.gone_add_reports
    have hcounted : counted (d :: ds) = d.gone + counted ds := List.sum_cons
    simp only [recorded, List.flatMap_cons, List.length_append, Nat.cast_add] at ih ⊢
    omega

theorem counted_nonneg {ds : List Deletion}
    (h : ∀ d ∈ ds, d.reports.length ≤ d.keys.length) : 0 ≤ counted ds := by
  induction ds with
  | nil => exact Int.le_refl 0
  | cons d ds ih =>
    rw [List.forall_mem_cons] at h
    have hd := Deletion.gone_nonneg h.1
    have hrest := ih h.2
    have hcounted : counted (d :: ds) = d.gone + counted ds := List.sum_cons
    omega

/-! ## 2. Steps that keep the books -/

/-- A progress with the count `n`, to which deletions have been added. -/
def Progress.entered (p : Progress) (n : Int) (ds : List Deletion) : Progress :=
  { p with deleted := .int (n + counted ds), errors := p.errors ++ recorded ds }

theorem entered_nil {p : Progress} {n : Int} (h : p.deleted = .int n) : p.entered n [] = p := by
  cases p with
  | mk count errors done =>
    obtain rfl : count = .int n := h
    simp [Progress.entered, counted, recorded]

theorem entered_append (p : Progress) (n : Int) (ds ds' : List Deletion) :
    (p.entered n ds).entered (n + counted ds) ds' = p.entered n (ds ++ ds') := by
  simp [Progress.entered, counted_append, recorded, Int.add_assoc]

/-- **A step that keeps the books**: if its deletions let it go on, it makes one for each of its
batches, adds to the progress what they add to it, and ends in `r`. -/
def Books (bucket : Value) (bs : List (List Value)) (r : Except Fault Unit) (x : Step Unit) :
    Prop :=
  ∀ n p es r' p', p.deleted = .int n → x.Course p es r' p' →
    (∀ keys a, deleted bucket keys a ∈ es → Taken a) →
    r' = r ∧ ∃ ds, es = ds.map (Deletion.event bucket) ∧ ds.map Deletion.keys = bs ∧
      p' = p.entered n ds

variable {bs bs' : List (List Value)} {r : Except Fault Unit} {x y : Step Unit}

theorem books_pure : Books bucket [] (.ok ()) (pure () : Step Unit) := by
  intro n p es r' p' hn h _
  obtain ⟨rfl, rfl, rfl⟩ := Action.course_pure.1 h
  exact ⟨rfl, [], rfl, rfl, (entered_nil hn).symm⟩

theorem books_throw {f : Fault} : Books bucket [] (.error f) (throw f : Step Unit) := by
  intro n p es r' p' hn h _
  obtain ⟨rfl, rfl, rfl⟩ := Action.course_throw.1 h
  exact ⟨rfl, [], rfl, rfl, (entered_nil hn).symm⟩

/-- **Two steps in a row keep the books of the batches of both.** -/
theorem Books.bind (hx : Books bucket bs (.ok ()) x) (hy : Books bucket bs' r y) :
    Books bucket (bs ++ bs') r (x >>= fun _ => y) := by
  intro n p es r' p' hn h htaken
  rw [Action.course_bind] at h
  rcases h with ⟨f, hfirst, _⟩ | ⟨es₁, ⟨⟩, p₁, es₂, hfirst, hsecond, rfl⟩
  · cases (hx _ _ _ _ _ hn hfirst htaken).1
  · obtain ⟨_, ds₁, rfl, hkeys₁, rfl⟩ := hx _ _ _ _ _ hn hfirst
      fun keys a ha => htaken keys a (List.mem_append_left _ ha)
    obtain ⟨hr, ds₂, rfl, hkeys₂, rfl⟩ := hy _ _ _ _ _ rfl hsecond
      fun keys a ha => htaken keys a (List.mem_append_right _ ha)
    refine ⟨hr, ds₁ ++ ds₂, List.map_append.symm, ?_, entered_append p n ds₁ ds₂⟩
    rw [List.map_append, hkeys₁, hkeys₂]

/-! ## 3. One batch -/

/-- **One batch keeps the books**: what the answer lists is recorded and the rest of the batch is
counted; a failure of the storage is recorded for each key, and none is counted. -/
theorem books_deleteBatch (keys : List Value) :
    Books bucket [keys] (.ok ()) (deleteBatch bucket keys) := by
  intro n p es r p' hn h htaken
  rw [deleteBatch, Action.course_bind] at h
  rcases h with ⟨f, hask, _⟩ | ⟨_, a, p₁, es₂, hask, h, rfl⟩
  · obtain ⟨_, _, hf, _⟩ := course_storage.1 hask
    cases hf
  obtain ⟨a', rfl, ha, hp₁⟩ := course_storage.1 hask
  cases ha
  obtain rfl := hp₁.symm
  have hanswer : Taken a := htaken keys a (List.mem_append_left _ List.mem_cons_self)
  change Except Fault Value at a
  cases a with
  | ok answer =>
    obtain ⟨rfl, rfl, rfl⟩ := course_takeAnswer_ok hanswer hn h
    refine ⟨rfl, [⟨keys, .ok answer⟩], rfl, rfl, ?_⟩
    simp [Progress.entered, counted, recorded, Deletion.gone, Deletion.reports]
  | error f =>
    have hf : f.isStorage := by
      cases hanswer with
      | refused h => exact h
    dsimp only at h
    rw [if_pos hf] at h
    obtain ⟨rfl, rfl, rfl⟩ := Action.course_modify.1 h
    refine ⟨rfl, [⟨keys, .error f⟩], rfl, rfl, ?_⟩
    simp [foldl_addError_eq, Progress.entered, counted, recorded, Deletion.gone, Deletion.reports,
      hn]

theorem books_deleteBatches (bs : List (List Value)) :
    Books bucket bs (.ok ()) (deleteBatches bucket bs) := by
  induction bs with
  | nil => exact books_pure
  | cons keys rest ih => exact (books_deleteBatch keys).bind ih

/-! ## 4. All pages -/

/-- How a listing ends. -/
def ending : List (Except Fault Value) → Except Fault Unit
  | [] => .ok ()
  | .ok _ :: rest => ending rest
  | .error f :: _ => .error f

/-- **All pages keep the books** of their batches, up to the end or to the failure of the
listing. -/
theorem books_deletePages {pages : List (Except Fault Value)} {lists : List (List Value)}
    (hpages : Listing pages lists) (limit : Nat) :
    Books bucket (lists.flatMap (batches limit)) (ending pages)
      (deletePages (.ok limit) bucket pages) := by
  induction hpages with
  | ended => exact books_pure
  | failed => exact books_throw
  | page hpage _ ih =>
    rw [deletePages_cons_ok, deletePage_eq, hpage.keysOf]
    exact (books_deleteBatches _).bind ih

/-! ## 5. The whole wipe -/

/-- What the end of a listing adds to the record. -/
def broken (r : Except Fault Unit) : List Value :=
  match r with
  | .ok _ => []
  | .error f => [.text f.text]

/-- **The balance of a wipe** whose listing gave `total` keys and came to the end `r`. -/
structure Balance (ds : List Deletion) (total : Nat) (r : Except Fault Unit) (p : Progress) :
    Prop where
  /-- The errors stand in the order of the deletions, the one of the listing behind them. -/
  record : p.errors = recorded ds ++ broken r
  count : p.deleted = .int (counted ds)
  conserved : counted ds + p.errors.length = total + (broken r).length
  /-- No deletion left an error exactly if every key is counted. -/
  faultless : p.errors = broken r ↔ counted ds = total
  /-- The count is not negative behind any of the deletions. -/
  nonneg : (∀ d ∈ ds, d.reports.length ≤ d.keys.length) →
    ∀ before, before <+: ds → 0 ≤ counted before

theorem balance_closed {ds : List Deletion} {total : Nat}
    (htotal : (ds.flatMap Deletion.keys).length = total) (r : Except Fault Unit) :
    Balance ds total r (closed r (Progress.start.entered 0 ds)) := by
  have hrecord : (closed r (Progress.start.entered 0 ds)).errors = recorded ds ++ broken r := by
    cases r <;> simp [closed, broken, Progress.entered, Progress.start, Progress.addError,
      Progress.complete]
  have hcount : (closed r (Progress.start.entered 0 ds)).deleted = .int (counted ds) := by
    cases r <;> simp [closed, Progress.entered, Progress.start, Progress.addError,
      Progress.complete]
  have hsum := counted_add_recorded ds
  rw [htotal] at hsum
  refine ⟨hrecord, hcount, ?_, ?_, fun hreports before hbefore => ?_⟩
  · rw [hrecord, List.length_append]
    omega
  · rw [hrecord, List.append_left_eq_self, ← List.length_eq_zero_iff]
    omega
  · exact counted_nonneg fun d hd => hreports d (hbefore.subset hd)

theorem listed_injective {pages pages' : List (Except Fault Value)}
    (h : listed bucket start pages = listed bucket start pages') : pages = pages' := by
  unfold listed at h
  cases h
  rfl

/-- The first event in the run of a wipe is the listing, as the world answers it. -/
theorem events_run_wipe {σ : Type} (w : Dialogue.World Remote σ) (st : σ) (p : Progress)
    (limit : Except Malformed Nat) :
    ∃ rest, (Dialogue.run w ((wipe limit bucket start).run p) st).events =
      listed bucket start (w.answer (.storage (.list bucket start)) st).1 :: rest :=
  ⟨_, rfl⟩

/-- **The books of a wipe balance.** Its deletions are those of the batches of each page, and the
errors of its record are the ones they report, batch by batch. Together with the count they make up
the number of listed keys, so that no error is recorded exactly if all of them are counted. A
listing that breaks off adds one error, the last, and changes nothing else for the pages before. -/
theorem accounts_balance {σ : Type} (w : Dialogue.World Remote σ) (st : σ)
    {pages : List (Except Fault Value)} {lists : List (List Value)}
    (hpages : pages = (w.answer (.storage (.list bucket start)) st).1)
    (hlists : Listing pages lists) :
    let o := Dialogue.run w ((wipe (.ok batchLimit) bucket start).run .start) st
    (∀ keys a, deleted bucket keys a ∈ o.events → Taken a) →
      o.result.1 = .ok () ∧ o.result.2.done = true ∧ ∃ ds : List Deletion,
        o.events = listed bucket start pages :: ds.map (Deletion.event bucket) ∧
        ds.map Deletion.keys = lists.flatMap (batches batchLimit) ∧
        Balance ds lists.flatten.length (ending pages) o.result.2 := by
  intro o htaken
  have hcourse := Action.course_iff.1
    (Dialogue.course_run w ((wipe (.ok batchLimit) bucket start).run .start) st)
  obtain ⟨hok, r, p, hall, hclosed⟩ := course_deleteAll_of_wipe hcourse
  obtain ⟨pages', es, hevents, hdeletions⟩ := course_deleteAll hall
  have hfirst : pages' = pages := by
    obtain ⟨rest, hrun⟩ := @events_run_wipe bucket start _ w st .start (.ok batchLimit)
    have hheads := (List.cons.inj (hevents.symm.trans hrun)).1
    rw [hpages]
    exact listed_injective hheads
  rw [hfirst] at hevents hdeletions
  have hes : ∀ keys a, deleted bucket keys a ∈ es → Taken a := by
    intro keys a ha
    refine htaken keys a ?_
    rw [show o.events = _ from hevents]
    exact List.mem_cons_of_mem _ ha
  obtain ⟨rfl, ds, rfl, hkeys, rfl⟩ :=
    books_deletePages hlists batchLimit _ _ _ _ _ rfl hdeletions hes
  have htotal : (ds.flatMap Deletion.keys).length = lists.flatten.length := by
    rw [List.flatMap_def, hkeys, List.flatMap_def, List.flatten_flatten, List.map_map]
    congr 2
    refine (List.map_congr_left fun keys _ => ?_).trans (List.map_id _)
    exact batches_flatten (by decide) keys
  refine ⟨hok, ?_, ds, hevents, hkeys, ?_⟩
  · rw [show o.result.2 = _ from hclosed]
    cases ending pages <;> rfl
  · rw [show o.result.2 = _ from hclosed]
    exact balance_closed htotal (ending pages)

/-- An answer that leaves the first of several keys behind, and fails for a single one. -/
def leakyAnswer : List Value → Except Fault Value
  | key :: _ :: _ =>
    .ok (.mapping [("Errors", .list [.mapping [("Key", key), ("Message", "locked")]])])
  | _ => .error (.storage .unspecified)

/-- A world in which a listing breaks off behind two pages. -/
def leakyDepot : Dialogue.World Remote Unit where
  answer
    | .call _, st => (.error (.management "there is no management API"), st)
    | .storage (.connect ..), st => (.ok (), st)
    | .storage (.list ..), st =>
      ([.ok (Rehearsal.Script.pageOf ["a", "b"]), .ok (Rehearsal.Script.pageOf ["c"]),
        .error (.storage (.unreachable "s3"))], st)
    | .storage (.delete _ keys), st => (leakyAnswer keys, st)

theorem get_errors (errors : List Value) :
    Mapping.get [("Errors", .list errors)] "Errors" = some (.list errors) := by
  simp [Mapping.get_cons, Mapping.text_equal_text]

theorem taken_leakyAnswer (keys : List Value) : Taken (leakyAnswer keys) := by
  unfold leakyAnswer
  split
  · exact .named (get_errors _) (by simp)
  · exact .refused rfl

theorem kept_leakyAnswer : let d : Deletion := ⟨["a", "b"], leakyAnswer ["a", "b"]⟩
    d.gone = 1 ∧ d.reports = [.text "a: locked"] := by
  have hnamed : namedIn (.mapping [("Errors",
      .list [.mapping [("Key", "a"), ("Message", "locked")]])]) =
        [.mapping [("Key", "a"), ("Message", "locked")]] := by
    rw [namedIn, get_errors]
  have hreport : reportOf (.mapping [("Key", "a"), ("Message", "locked")]) = .text "a: locked" := by
    simp [reportOf, said, Mapping.get_cons, Mapping.text_equal_text, Value.plain_text]
  simp [Deletion.gone, Deletion.reports, leakyAnswer, hnamed, hreport]

theorem lost_leakyAnswer : let d : Deletion := ⟨["c"], leakyAnswer ["c"]⟩
    d.gone = 0 ∧ d.reports = [.text "c: An unspecified error occurred"] := by
  refine ⟨rfl, ?_⟩
  simp [Deletion.reports, leakyAnswer, Value.plain_text]
  decide

/-- Of three listed keys one is deleted, and three errors are recorded, the last one of the
listing. -/
theorem accounts_balance_leaky :
    let pages := (leakyDepot.answer (.storage (.list "bucket" "")) ()).1
    let o := Dialogue.run leakyDepot ((wipe (.ok batchLimit) "bucket" "").run .start) ()
    Listing pages [["a", "b"], ["c"]] ∧ (∀ keys a, deleted "bucket" keys a ∈ o.events → Taken a) ∧
      o.result.2.deleted = .int 1 ∧ o.result.2.errors =
        [.text "a: locked", .text "c: An unspecified error occurred",
          .text "Could not connect to the endpoint URL: \"s3\""] := by
  intro pages o
  have hlists : Listing pages [["a", "b"], ["c"]] :=
    .page (isPage_pageOf _) (.page (isPage_pageOf _) .failed)
  have hanswer : ∀ keys a, deleted "bucket" keys a ∈ o.events → a = leakyAnswer keys := by
    intro keys a ha
    obtain ⟨_, hanswer⟩ := Dialogue.answer_of_mem_run ha
    exact hanswer
  have htaken : ∀ keys a, deleted "bucket" keys a ∈ o.events → Taken a := by
    intro keys a ha
    rw [hanswer keys a ha]
    exact taken_leakyAnswer keys
  obtain ⟨_, _, ds, hevents, hkeys, hbalance⟩ := accounts_balance leakyDepot () rfl hlists htaken
  have hds : ds = (ds.map Deletion.keys).map fun keys => ⟨keys, leakyAnswer keys⟩ := by
    rw [List.map_map]
    refine (List.map_id ds).symm.trans (List.map_congr_left fun d hd => ?_)
    have hd' : d.answer = leakyAnswer d.keys := by
      refine hanswer d.keys d.answer ?_
      rw [show o.events = _ from hevents]
      exact List.mem_cons_of_mem _ (List.mem_map_of_mem hd)
    rw [Function.comp_apply, ← hd', id]
  obtain rfl : ds = [⟨["a", "b"], leakyAnswer ["a", "b"]⟩, ⟨["c"], leakyAnswer ["c"]⟩] := by
    rw [hds, hkeys]
    rfl
  refine ⟨hlists, htaken, hbalance.count.trans ?_, hbalance.record.trans ?_⟩
  · simp [counted, kept_leakyAnswer.1, lost_leakyAnswer.1]
  · simp [recorded, kept_leakyAnswer.2, lost_leakyAnswer.2]
    rfl

end StorageBroker.Wipe
