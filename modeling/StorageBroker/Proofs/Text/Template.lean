import StorageBroker.Proofs.Outcome
import StorageBroker.Text.Template
/-!
# Filled paths

The paths of resources and of their parts, as texts: the fixed texts of a template with the
percent-encoded forms of its arguments between them.

* `encoded_eq_ok` -- which values can stand in a path, and how they stand there;
* `fill_eq_ok`, `fill_isOk`, `fill_eq_error` -- which values fill a template, and to what;
* `fill_one`, `fill_two` -- a template with one hole, and one with a hole at its end besides;
* `Under.ne` -- paths with different beginnings are not the same.
-/

namespace StorageBroker.Text.Template

/-- A text that can be sent: none of its characters is a half. -/
def Sendable (t : Text) : Prop := ∀ u, .half u ∉ t.toList

theorem sendable_iff {t : Text} : Sendable t ↔ ∃ s : String, t = s := by
  rw [Sendable, ← not_exists, ← string?_eq_none_iff, ← ne_eq, Option.ne_none_iff_exists']
  simp only [string?_eq_some_iff]

theorem sendable_plain (s : String) : Sendable s := sendable_iff.2 ⟨s, rfl⟩

instance (t : Text) : Decidable (Sendable t) :=
  decidable_of_iff (t.string?.isSome) (by
    rw [Option.isSome_iff_exists, sendable_iff]
    simp only [string?_eq_some_iff])

/-- **A value stands in a path in the percent-encoded form of its text**, if that can be sent at
all. -/
theorem encoded_eq_ok {v : Value} {cs : List Char} :
    encoded v = .ok cs ↔ Sendable v.plain ∧ cs = Percent.encode v.plain.scalars := by
  rw [sendable_iff, encoded]
  cases v.plain with
  | plain s =>
    constructor
    · intro h
      exact ⟨⟨s, rfl⟩, (Except.ok.inj h).symm⟩
    · rintro ⟨_, rfl⟩
      rfl
  | halved front u rest =>
    constructor
    · intro h
      cases h
    · rintro ⟨⟨_, hplain⟩, _⟩
      cases hplain

/-- The one way in which a value cannot stand in a path. -/
theorem encoded_eq_error {v : Value} {m : Malformed} (h : encoded v = .error m) :
    m = .unencodable "surrogates not allowed" := by
  rw [encoded] at h
  split at h <;> cases h
  rfl

/-- Values stand in a path in the percent-encoded forms of their texts, if all can be sent. -/
theorem mapM_encoded {args : List Value} {encodings : List (List Char)} :
    args.mapM encoded = .ok encodings ↔ (∀ v ∈ args, Sendable v.plain) ∧
      args.map (fun v => Percent.encode v.plain.scalars) = encodings := by
  rw [mapM_eq_ok_iff]
  simp only [encoded_eq_ok, List.forall₂_and_left, eq_comm (b := Percent.encode _)]
  rw [← List.forall₂_map_left_iff, List.forall₂_eq_eq_eq]

/-- **What a template is filled to**, if it is filled at all. -/
theorem fill_eq_ok {t : Template} {args : List Value} {p : String} :
    t.fill args = .ok p ↔ (∀ v ∈ args, Sendable v.plain) ∧
      ∃ cs, t.fillWith (args.map fun v => Percent.encode v.plain.scalars) = some cs ∧
        p = String.ofList cs := by
  rw [fill, bind_eq_ok]
  simp only [mapM_encoded]
  constructor
  · rintro ⟨_, ⟨hargs, rfl⟩, h⟩
    split at h
    next cs hcs => exact ⟨hargs, cs, hcs, pure_eq_ok.1 h⟩
    next => cases h
  · rintro ⟨hargs, cs, hcs, rfl⟩
    refine ⟨_, ⟨hargs, rfl⟩, ?_⟩
    rw [hcs]
    rfl

/-- **A template is filled** by as many values as it has holes, if they can be sent. -/
theorem fill_isOk {t : Template} {args : List Value} (hcount : args.length = t.holes)
    (hargs : ∀ v ∈ args, Sendable v.plain) : ∃ p, t.fill args = .ok p := by
  obtain ⟨cs, hcs⟩ := Option.isSome_iff_exists.1 ((fillWith_isSome_iff t
    (args.map fun v => Percent.encode v.plain.scalars)).2 (by rw [List.length_map, hcount]))
  exact ⟨String.ofList cs, fill_eq_ok.2 ⟨hargs, cs, hcs, rfl⟩⟩

/-- **A template is not filled by a value that cannot be sent**, whatever the others are. -/
theorem fill_eq_error {t : Template} {args : List Value} (h : ∃ v ∈ args, ¬ Sendable v.plain) :
    t.fill args = .error (.unencodable "surrogates not allowed") := by
  obtain ⟨v, hv, hsend⟩ := h
  rw [fill]
  cases hencoded : args.mapM encoded with
  | ok encodings => exact absurd ((mapM_encoded.1 hencoded).1 v hv) hsend
  | error m =>
    obtain ⟨_, _, hm⟩ := mapM_eq_error hencoded
    rw [encoded_eq_error hm]
    rfl

variable {front middle : List Char} {v w : Value} {p : String}

theorem fill_one : fill [.literal front, .hole, .literal middle] [v] = .ok p ↔
    ∃ cs, encoded v = .ok cs ∧ p = String.ofList (front ++ cs ++ middle) := by
  rw [fill, bind_eq_ok]
  simp only [mapM_eq_ok_iff, List.forall₂_cons_left_iff, List.forall₂_nil_left_iff]
  constructor
  · rintro ⟨_, ⟨cs, _, hcs, rfl, rfl⟩, h⟩
    rw [fillWith, fillWith, fillWith, fillWith] at h
    cases h
    exact ⟨cs, hcs, by simp⟩
  · rintro ⟨cs, hcs, rfl⟩
    refine ⟨[cs], ⟨cs, [], hcs, rfl, rfl⟩, ?_⟩
    rw [fillWith, fillWith, fillWith, fillWith]
    simp [pure, Except.pure]

theorem fill_two : fill [.literal front, .hole, .literal middle, .hole] [v, w] = .ok p ↔
    ∃ cs ds, encoded v = .ok cs ∧ encoded w = .ok ds ∧
      p = String.ofList (front ++ cs ++ middle ++ ds) := by
  rw [fill, bind_eq_ok]
  simp only [mapM_eq_ok_iff, List.forall₂_cons_left_iff, List.forall₂_nil_left_iff]
  constructor
  · rintro ⟨_, ⟨cs, _, hcs, ⟨ds, _, hds, rfl, rfl⟩, rfl⟩, h⟩
    rw [fillWith, fillWith, fillWith, fillWith, fillWith] at h
    cases h
    exact ⟨cs, ds, hcs, hds, by simp⟩
  · rintro ⟨cs, ds, hcs, hds, rfl⟩
    refine ⟨[cs, ds], ⟨cs, [ds], hcs, ⟨ds, [], hds, rfl, rfl⟩, rfl⟩, ?_⟩
    rw [fillWith, fillWith, fillWith, fillWith, fillWith]
    simp [pure, Except.pure]

/-! ## Fixed beginnings -/

/-- **A path that begins with a text.** -/
def Under (front p : String) : Prop := ∃ cs, p = String.ofList (front.toList ++ cs)

theorem under_self : Under p p := ⟨[], by rw [List.append_nil, String.ofList_toList]⟩

/-- A filled path begins with the first text of its template. -/
theorem under_fill {front : String} {rest : Template} {args : List Value}
    (h : fill (.literal front.toList :: rest) args = .ok p) : Under front p := by
  obtain ⟨encodings, _, h⟩ := bind_eq_ok.1 h
  rw [fillWith] at h
  cases hrest : fillWith rest encodings with
  | none =>
    rw [hrest] at h
    cases h
  | some cs =>
    rw [hrest] at h
    cases h
    exact ⟨cs, rfl⟩

theorem append_ne_append {α : Type} [BEq α] [LawfulBEq α] {l l' ts ts' : List α}
    (h : (l.zip l').any fun x => x.1 != x.2) : l ++ ts ≠ l' ++ ts' := by
  induction l generalizing l' with
  | nil => cases h
  | cons x xs ih =>
    cases l' with
    | nil => cases h
    | cons y ys =>
      rw [List.cons_append, List.cons_append]
      intro heq
      obtain ⟨rfl, hrest⟩ := List.cons.inj heq
      exact ih (by simpa using h) hrest

/-- **Paths whose beginnings differ somewhere are not the same.** -/
theorem Under.ne {front front' p' : String} (h : Under front p) (h' : Under front' p')
    (hfronts : (front.toList.zip front'.toList).any fun x => x.1 != x.2) : p ≠ p' := by
  obtain ⟨cs, rfl⟩ := h
  obtain ⟨cs', rfl⟩ := h'
  exact fun heq => append_ne_append hfronts (String.ofList_injective heq)

end StorageBroker.Text.Template
