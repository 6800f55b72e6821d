import StorageBroker.Proofs.Text.Percent
import StorageBroker.Proofs.Text.Template
import StorageBroker.Text.Format
/-!
# Segments of filled templates

The text form of a template has a placeholder for each of its holes. Where every placeholder is a
segment of its own, filling the template replaces segments and does nothing else: the
percent-encoded form of a name has no slash in it, so the path has the segments of the text with a
name in the place of each placeholder, and the names are read back from there in order.

* `fill_written` -- a template makes the same path as its text form;
* `segments_filled` -- filling a text segment by segment;
* `Clean` -- templates whose holes are segments of their own;
* `Placed`, `Clean.placed`, `Placed.unique` -- what their paths are, and that no two are the same.
-/

namespace StorageBroker.Text

/-! ## 1. Segments -/

/-- The segments of a path: what stands between its slashes. -/
def segments (cs : List Char) : List (List Char) := cs.splitOn '/'

theorem slash_not_mem_segments {cs seg : List Char} (h : seg ∈ segments cs) : '/' ∉ seg := by
  rw [segments, ← splitOn_eq_splitOn] at h
  exact not_mem_of_mem_splitOn h

theorem intercalate_cons {sep : Char} (seg : List Char) (segs : List (List Char)) :
    [sep].intercalate (seg :: segs) = seg ++ segs.flatMap (sep :: ·) := by
  induction segs generalizing seg with
  | nil => rw [List.intercalate_singleton, List.flatMap_nil, List.append_nil]
  | cons next segs ih =>
    rw [List.intercalate_cons_cons, ih, List.flatMap_cons, List.append_assoc,
      List.singleton_append, List.cons_append]

/-- What a hole is in the text form of a template. -/
def placeholder : List Char := ['%', 's']

/-- Segments with each placeholder among them replaced, in order. -/
def substitute : List (List Char) → List (List Char) → List (List Char)
  | [], _ => []
  | segs, [] => segs
  | seg :: segs, a :: args =>
    if seg = placeholder then a :: substitute segs args else seg :: substitute segs (a :: args)

/-- What a path has where its template has placeholders. -/
def substituted (segs path : List (List Char)) : List (List Char) :=
  ((segs.zip path).filter fun p => p.1 = placeholder).map Prod.snd

theorem substitute_cons_of_ne {seg : List Char} (h : seg ≠ placeholder) {segs : List (List Char)}
    (args : List (List Char)) : substitute (seg :: segs) args = seg :: substitute segs args := by
  cases args with
  | nil => cases segs <;> rfl
  | cons a args => rw [substitute, if_neg h]

theorem forall_mem_substitute {P : List Char → Prop} {segs args : List (List Char)}
    (hsegs : ∀ seg ∈ segs, P seg) (hargs : ∀ a ∈ args, P a) :
    ∀ seg ∈ substitute segs args, P seg := by
  induction segs generalizing args with
  | nil => exact List.forall_mem_nil _
  | cons seg segs ih =>
    obtain ⟨hseg, hsegs⟩ := List.forall_mem_cons.1 hsegs
    cases args with
    | nil => exact List.forall_mem_cons.2 ⟨hseg, hsegs⟩
    | cons a args =>
      rw [substitute]
      split
      · exact List.forall_mem_cons.2 ⟨hargs a List.mem_cons_self,
          ih hsegs fun b hb => hargs b (List.mem_cons_of_mem a hb)⟩
      · exact List.forall_mem_cons.2 ⟨hseg, ih hsegs hargs⟩

/-- **What has been put in is found where the placeholders are.** -/
theorem substituted_substitute {segs args : List (List Char)}
    (h : args.length = segs.count placeholder) :
    substituted segs (substitute segs args) = args := by
  induction segs generalizing args with
  | nil => exact (List.eq_nil_of_length_eq_zero h).symm
  | cons seg segs ih =>
    by_cases hseg : seg = placeholder
    · rw [hseg, List.count_cons_self] at h
      cases args with
      | nil => cases h
      | cons a args =>
        rw [substitute, if_pos hseg, substituted, List.zip_cons_cons, hseg,
          List.filter_cons_of_pos (by rfl), List.map_cons]
        exact congrArg (a :: ·) (ih (Nat.succ.inj h))
    · rw [List.count_cons_of_ne hseg] at h
      rw [substitute_cons_of_ne hseg, substituted, List.zip_cons_cons,
        List.filter_cons_of_neg (by exact fun h => hseg (of_decide_eq_true h))]
      exact ih h

/-! ## 2. Texts of templates -/

/-- The fixed texts of a template. -/
def Template.fixed : Template → List Char
  | [] => []
  | .literal cs :: rest => cs ++ fixed rest
  | .hole :: rest => fixed rest

/-- The text form of a template. -/
def Template.written : Template → List Char
  | [] => []
  | .literal cs :: rest => cs ++ written rest
  | .hole :: rest => placeholder ++ written rest

namespace Format

variable {cs : List Char}

theorem parts_cons_of_ne {c : Char} (h : c ≠ '%') (cs : List Character) :
    parts none (.scalar c :: cs) = .literal c :: parts none cs := by
  have hc : Character.scalar c ≠ .scalar '%' := fun heq => h (Character.scalar.inj heq)
  rw [parts, if_neg hc]
  rintro cs' heq
  exact absurd heq hc

/-- A text without percent sign stands for itself, whatever is behind it. -/
theorem parts_append (h : '%' ∉ cs) (rest : List Character) :
    parts none (cs.map .scalar ++ rest) =
      (cs.map Character.scalar).map Part.literal ++ parts none rest := by
  induction cs with
  | nil => rfl
  | cons c cs ih =>
    obtain ⟨hc, hcs⟩ := List.ne_and_not_mem_of_not_mem_cons h
    rw [List.map_cons, List.cons_append, parts_cons_of_ne hc.symm, ih hcs, List.map_cons,
      List.cons_append]

theorem parts_placeholder (rest : List Character) :
    parts none (placeholder.map .scalar ++ rest) = .conversion {} 's' :: parts none rest := rfl

theorem fillParts_literals_append
    (conversion : Layout → Character → List Char → Except Malformed (List Char))
    (cs : List Character) (ps : List Part) (args : List (List Char)) :
    fillParts conversion (cs.map Part.literal ++ ps) args =
      (fillParts conversion ps args).map (cs ++ ·) := by
  induction cs with
  | nil =>
    rw [List.map_nil, List.nil_append]
    cases fillParts conversion ps args <;> rfl
  | cons c cs ih =>
    rw [List.map_cons, List.cons_append, fillParts, ih]
    cases fillParts conversion ps args <;> rfl

theorem convert_placeholder (cs : List Char) : convert {} 's' cs = .ok cs := by
  simp [convert, justified, spaceLimit]

/-- A placeholder is replaced by the argument as it is. -/
theorem fillParts_placeholder (a : List Char) (ps : List Part) (args : List (List Char)) :
    fillParts convert (.conversion {} 's' :: ps) (a :: args) =
      (fillParts convert ps args).map (a.map .scalar ++ ·) := by
  rw [fillParts, convert_placeholder]
  cases fillParts convert ps args <;> rfl

/-- **The text form of a template is filled as the template is.** -/
theorem fillParts_written {t : Template} (h : '%' ∉ t.fixed) (args : List (List Char)) :
    fillParts convert (parts none (t.written.map .scalar)) args =
      match t.fillWith args with
      | some cs => .ok (cs.map .scalar)
      | none => .error (t.wrongCount args.length) := by
  induction t generalizing args with
  | nil => cases args <;> rfl
  | cons p t ih =>
    cases p with
    | literal cs =>
      obtain ⟨hcs, ht⟩ := not_or.1 (List.mem_append.not.1 h)
      rw [Template.written, List.map_append, parts_append hcs, fillParts_literals_append, ih ht,
        Template.fillWith]
      cases Template.fillWith t args with
      | some filled => exact congrArg Except.ok List.map_append.symm
      | none => rfl
    | hole =>
      rw [Template.written, List.map_append, parts_placeholder]
      cases args with
      | nil => rfl
      | cons a args =>
        rw [fillParts_placeholder, ih h, Template.fillWith]
        cases Template.fillWith t args with
        | some cs => exact congrArg Except.ok List.map_append.symm
        | none =>
          have hcount : Template.wrongCount (.hole :: t) (a :: args).length =
              Template.wrongCount t args.length := by
            rw [Template.wrongCount, Template.wrongCount, List.length_cons, Template.holes]
            simp only [Nat.add_lt_add_iff_right]
          exact congrArg Except.error hcount.symm

/-- **A template makes the path that its text form makes**, or fails as that does. -/
theorem fill_written {t : Template} (h : '%' ∉ t.fixed) (args : List Value) :
    fill (.text (String.ofList t.written)) args = (t.fill args).map fun p : String => .text p := by
  rw [fill, Template.fill]
  cases hencoded : args.mapM Template.encoded with
  | error m => rfl
  | ok encodings =>
    show (fillParts convert (parts none (Text.plain (String.ofList t.written)).toList) encodings >>=
      fun cs => pure (.text (Text.ofList cs)) : Except Malformed Value) =
      (match t.fillWith encodings with
        | some cs => pure (String.ofList cs)
        | none => throw (t.wrongCount args.length) : Except Malformed String).map
          fun p : String => .text p
    rw [toList_plain, String.toList_ofList, fillParts_written h,
      (mapM_eq_ok_iff.1 hencoded).length_eq]
    cases t.fillWith encodings with
    | some cs => exact congrArg (fun t => Except.ok (Value.text t)) (ofList_scalars cs)
    | none => rfl

/-! ## 3. Segment by segment -/

/-- **One segment**: it is replaced if it is a placeholder, and stands for itself if there is no
percent sign in it. -/
theorem fillParts_segment {seg : List Char} {segs args : List (List Char)}
    (hseg : '%' ∈ seg → seg = placeholder)
    (hcount : args.length = (seg :: segs).count placeholder) :
    ∃ x later, substitute (seg :: segs) args = x :: substitute segs later ∧
      later.length = segs.count placeholder ∧
      ∀ text, fillParts convert (parts none (seg.map .scalar ++ text)) args =
        (fillParts convert (parts none text) later).map (x.map .scalar ++ ·) := by
  by_cases hplace : seg = placeholder
  · rw [hplace, List.count_cons_self] at hcount
    cases args with
    | nil => cases hcount
    | cons a args =>
      refine ⟨a, args, by rw [substitute, if_pos hplace], Nat.succ.inj hcount, fun text => ?_⟩
      rw [hplace, parts_placeholder, fillParts_placeholder]
  · rw [List.count_cons_of_ne hplace] at hcount
    refine ⟨seg, args, substitute_cons_of_ne hplace args, hcount, fun text => ?_⟩
    rw [parts_append fun h => hplace (hseg h), fillParts_literals_append]

/-- **A text is filled segment by segment.** -/
theorem fillParts_segments {segs args : List (List Char)}
    (hsegs : ∀ seg ∈ segs, '%' ∈ seg → seg = placeholder)
    (hcount : args.length = segs.count placeholder) :
    fillParts convert (parts none ((segs.flatMap ('/' :: ·)).map .scalar)) args =
      .ok (((substitute segs args).flatMap ('/' :: ·)).map .scalar) := by
  induction segs generalizing args with
  | nil =>
    cases List.eq_nil_of_length_eq_zero hcount
    rfl
  | cons seg segs ih =>
    obtain ⟨hseg, hsegs⟩ := List.forall_mem_cons.1 hsegs
    obtain ⟨x, later, hsubst, hlater, hfill⟩ := fillParts_segment hseg hcount
    rw [List.flatMap_cons, List.cons_append, List.map_cons, List.map_append,
      parts_cons_of_ne (by decide), fillParts, hfill, ih hsegs hlater, hsubst, List.flatMap_cons,
      List.cons_append, List.map_cons, List.map_append]
    rfl

/-- **A text has its placeholders replaced and its other segments kept** if every percent sign in it
belongs to a placeholder that is a segment of its own. -/
theorem segments_filled {cs : List Char} {args : List (List Char)}
    (hsegs : ∀ seg ∈ segments cs, '%' ∈ seg → seg = placeholder)
    (hcount : args.length = (segments cs).count placeholder) (hargs : ∀ a ∈ args, '/' ∉ a) :
    ∃ filled, fillParts convert (parts none (cs.map .scalar)) args = .ok (filled.map .scalar) ∧
      segments filled = substitute (segments cs) args := by
  cases hcs : segments cs with
  | nil => exact absurd hcs (List.splitOn_ne_nil '/' cs)
  | cons seg segs =>
    have htext : cs = seg ++ segs.flatMap ('/' :: ·) := by
      rw [← intercalate_cons, ← hcs, segments, List.intercalate_splitOn]
    rw [hcs] at hsegs hcount
    obtain ⟨hseg, hsegs⟩ := List.forall_mem_cons.1 hsegs
    obtain ⟨x, later, hsubst, hlater, hfill⟩ := fillParts_segment hseg hcount
    refine ⟨x ++ (substitute segs later).flatMap ('/' :: ·), ?_, ?_⟩
    · rw [htext, List.map_append, hfill, fillParts_segments hsegs hlater, List.map_append]
      rfl
    · rw [← intercalate_cons, ← hsubst, segments]
      refine List.splitOn_intercalate '/' (forall_mem_substitute ?_ hargs) ?_
      · intro seg' h
        exact slash_not_mem_segments (hcs ▸ h)
      · rw [hsubst]
        exact List.cons_ne_nil _ _

end Format

/-! ## 4. Templates with holes that are segments -/

namespace Template

variable {t : Template} {names names' : List Text} {p : String}

/-- What is in a filled template is in a fixed text of it or in an argument. -/
theorem mem_fillWith {args : List (List Char)} {filled : List Char} {c : Char}
    (h : t.fillWith args = some filled) (hc : c ∈ filled) : c ∈ t.fixed ∨ ∃ a ∈ args, c ∈ a := by
  induction t generalizing args filled with
  | nil =>
    cases args with
    | nil =>
      cases h
      cases hc
    | cons a args => cases h
  | cons piece t ih =>
    cases piece with
    | literal cs =>
      obtain ⟨rest, hrest, rfl⟩ := Option.map_eq_some_iff.1 h
      rw [fixed, List.mem_append, or_assoc]
      exact (List.mem_append.1 hc).imp_right (ih hrest)
    | hole =>
      cases args with
      | nil => cases h
      | cons a args =>
        obtain ⟨rest, hrest, rfl⟩ := Option.map_eq_some_iff.1 h
        rcases List.mem_append.1 hc with hc | hc
        · exact .inr ⟨a, List.mem_cons_self, hc⟩
        · exact (ih hrest hc).imp_right fun ⟨b, hb, hcb⟩ => ⟨b, List.mem_cons_of_mem a hb, hcb⟩

/-- **A template whose holes are segments of their own**, without query and fragment, and with no
percent sign but those of its placeholders. -/
structure Clean (t : Template) : Prop where
  percent : '%' ∉ t.fixed
  query : '?' ∉ t.fixed
  fragment : '#' ∉ t.fixed
  own : ∀ seg ∈ segments t.written, '%' ∈ seg → seg = placeholder
  count : (segments t.written).count placeholder = t.holes

instance (t : Template) : Decidable t.Clean :=
  decidable_of_iff ('%' ∉ t.fixed ∧ '?' ∉ t.fixed ∧ '#' ∉ t.fixed ∧
      (∀ seg ∈ segments t.written, '%' ∈ seg → seg = placeholder) ∧
      (segments t.written).count placeholder = t.holes)
    ⟨fun ⟨hpercent, hquery, hfragment, hown, hcount⟩ =>
        ⟨hpercent, hquery, hfragment, hown, hcount⟩,
      fun h => ⟨h.percent, h.query, h.fragment, h.own, h.count⟩⟩

theorem Clean.segments_fillWith (ht : t.Clean) {args : List (List Char)} {filled : List Char}
    (hcount : args.length = t.holes) (hargs : ∀ a ∈ args, '/' ∉ a)
    (h : t.fillWith args = some filled) :
    segments filled = substitute (segments t.written) args := by
  obtain ⟨filled', hfilled, hsegments⟩ :=
    Format.segments_filled ht.own (hcount.trans ht.count.symm) hargs
  rw [Format.fillParts_written ht.percent, h] at hfilled
  rw [List.map_injective_iff.2 (fun _ _ => Character.scalar.inj) (Except.ok.inj hfilled)]
  exact hsegments

/-- What stands in a path for names. -/
def encodings (names : List Text) : List (List Char) :=
  names.map fun name => Percent.encode name.scalars

theorem not_mem_encodings {c : Char} (hreserved : Percent.isUnreserved c = false)
    (hpercent : c ≠ '%') : ∀ a ∈ encodings names, c ∉ a :=
  List.forall_mem_map.2 fun name _ => Percent.not_mem_encode hreserved hpercent name.scalars

theorem map_decode_encodings (h : ∀ name ∈ names, Sendable name) :
    (encodings names).map Percent.decode = names.map some := by
  rw [encodings, List.map_map]
  refine List.map_congr_left fun name hname => ?_
  obtain ⟨s, rfl⟩ := sendable_iff.1 (h name hname)
  rw [Function.comp_apply, scalars_plain, Percent.decode_encode, String.ofList_toList]

/-- **A path with names in the place of the holes** of a template, and nowhere else: its segments
are those of the template, without query and fragment, and the names are read back from it. -/
structure Placed (t : Template) (names : List Text) (p : String) : Prop where
  segments : segments p.toList = substitute (segments t.written) (encodings names)
  query : '?' ∉ p.toList
  fragment : '#' ∉ p.toList
  read : (substituted (Text.segments t.written) (Text.segments p.toList)).map Percent.decode =
    names.map some

/-- **A clean template takes names in the place of its holes**, and nowhere else. -/
theorem Clean.placed (ht : t.Clean) (hcount : names.length = t.holes)
    (h : t.fill (names.map .text) = .ok p) : Placed t names p := by
  obtain ⟨hsend, cs, hfill, rfl⟩ := fill_eq_ok.1 h
  replace hfill : t.fillWith (encodings names) = some cs := by
    rw [← hfill, List.map_map]
    rfl
  have hnames : ∀ name ∈ names, Sendable name :=
    fun name hname => hsend (.text name) (List.mem_map_of_mem hname)
  have hlength : (encodings names).length = t.holes := by rw [encodings, List.length_map, hcount]
  have hsegments : Text.segments cs = substitute (Text.segments t.written) (encodings names) :=
    ht.segments_fillWith hlength (not_mem_encodings (by decide) (by decide)) hfill
  have hfree : ∀ c ∉ t.fixed, Percent.isUnreserved c = false → c ≠ '%' → c ∉ cs := by
    intro c hfixed hreserved hpercent hmem
    rcases mem_fillWith hfill hmem with hmem | ⟨a, ha, hmem⟩
    · exact hfixed hmem
    · exact not_mem_encodings hreserved hpercent a ha hmem
  refine ⟨?_, ?_, ?_, ?_⟩ <;> rw [String.toList_ofList]
  · exact hsegments
  · exact hfree '?' ht.query (by decide) (by decide)
  · exact hfree '#' ht.fragment (by decide) (by decide)
  · rw [hsegments, substituted_substitute (hlength.trans ht.count.symm),
      map_decode_encodings hnames]

/-- **A path tells which names are in it.** -/
theorem Placed.unique (h : Placed t names p) (h' : Placed t names' p) : names = names' :=
  (List.map_inj_right fun _ _ => Option.some.inj).1 (h.read.symm.trans h'.read)

end Template

end StorageBroker.Text
